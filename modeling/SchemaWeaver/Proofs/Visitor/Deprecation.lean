import SchemaWeaver.Proofs.Visitor.Attribute

/-!
# Deprecations tell their payload

A deprecation is read back as what its payload says: nothing, a note, or options. The three forms
have readings of different kinds, so that they can be told apart whatever the note and the options
are. The hooks on functions, fields and cases all write this one attribute.
-/

namespace SchemaWeaver

open Text

namespace Attribute

variable {p p' : Payload} {text : String}

/-- What a reading of a deprecation tells of the payload for which it is written. -/
def Reading.Deprecates (p : Payload) : Reading → Prop
  | .word name =>
    name = "deprecated" ∧ p.options.entries = [] ∧
      ∀ value ∈ p.values, isBlankText value = true
  | .assigned name note =>
    name = "deprecated" ∧ p.options.entries = [] ∧
      (∃ value ∈ p.values, isBlankText value = false) ∧ note = commaJoined (p.notes.map trim)
  | .applied name arguments =>
    name = "deprecated" ∧ p.options.entries ≠ [] ∧
      (∀ value ∈ p.values, isBlankText value = true) ∧ TellOptions ["since", "note"] p arguments

/-- Everything that a deprecation can be: bare, with a note, with options, or refused. -/
theorem deprecation?_cases (p : Payload) :
    (p.options.entries = [] ∧ p.notes = [] ∧ deprecation? p = some (wrap "deprecated")) ∨
    (p.options.entries = [] ∧ p.notes ≠ [] ∧ deprecation? p =
      some (wrap (assignment "deprecated" (commaJoined (p.notes.map trim))))) ∨
    (p.options.entries ≠ [] ∧ ¬ Strays deprecationKeys p ∧
      deprecation? p = some (call "deprecated" (assignments deprecationKeys p))) ∨
    (p.options.entries ≠ [] ∧ Strays deprecationKeys p ∧ deprecation? p = none) := by
  have noOptions : p.options.isEmpty = true ↔ p.options.entries = [] := List.isEmpty_iff
  have noNotes : (p.notes.map trim).isEmpty = true ↔ p.notes = [] := by
    rw [List.isEmpty_iff, List.map_eq_nil_iff]
  have regular : (p.optionsWithin deprecationKeys && (p.notes.map trim).isEmpty) = true ↔
      ¬ Strays deprecationKeys p := by
    rw [Bool.and_eq_true, noNotes, not_strays_iff, and_comm]
  rw [deprecation?, p.trimmedValues_eq]
  by_cases options : p.options.entries = []
  · rw [if_pos (noOptions.mpr options)]
    by_cases notes : p.notes = []
    · exact .inl ⟨options, notes, if_pos (noNotes.mpr notes)⟩
    · exact .inr (.inl ⟨options, notes, if_neg (mt noNotes.mp notes)⟩)
  · rw [if_neg (mt noOptions.mp options)]
    by_cases strays : Strays deprecationKeys p
    · exact .inr (.inr (.inr ⟨options, strays, if_neg fun h => regular.mp h strays⟩))
    · exact .inr (.inr (.inl ⟨options, strays, if_pos (regular.mpr strays)⟩))

theorem deprecation?_eq_none_iff (p : Payload) :
    deprecation? p = none ↔ p.options.entries ≠ [] ∧ Strays deprecationKeys p := by
  rcases deprecation?_cases p with ⟨options, -, given⟩ | ⟨options, -, given⟩ |
      ⟨-, regular, given⟩ | ⟨options, strays, given⟩
  · simp [given, options]
  · simp [given, options]
  · simp [given, regular]
  · exact iff_of_true given ⟨options, strays⟩

/-- A deprecation is read as what its payload says. -/
theorem deprecates_of_deprecation? (written : deprecation? p = some text) :
    ∃ reading, Spells text reading ∧ reading.Deprecates p := by
  have isWord : IsWord "deprecated" := by decide
  rcases deprecation?_cases p with ⟨options, notes, given⟩ | ⟨options, notes, given⟩ |
      ⟨options, regular, given⟩ | ⟨-, -, given⟩ <;> cases written.symm.trans given
  · exact ⟨_, spells_word isWord, rfl, options, Payload.notes_eq_nil_iff.mp notes⟩
  · have noted : ∃ value ∈ p.values, isBlankText value = false := by
      simpa using mt Payload.notes_eq_nil_iff.mpr notes
    exact ⟨_, spells_assigned isWord _, rfl, options, noted, rfl⟩
  · obtain ⟨notes, known⟩ := not_strays_iff.mp regular
    obtain ⟨arguments, spells, tell⟩ :=
      spells_assignments isWord (by decide) (by decide) known options
    exact ⟨_, spells, rfl, options, Payload.notes_eq_nil_iff.mp notes, tell⟩

/-- Payloads that one reading tells of have the same options and, joined, the same notes. -/
theorem Reading.Deprecates.agree {reading : Reading} (h : reading.Deprecates p)
    (h' : reading.Deprecates p') : p.options.entries.Perm p'.options.entries ∧
      commaJoined (p.notes.map trim) = commaJoined (p'.notes.map trim) ∧
      (p.notes = [] ↔ p'.notes = []) := by
  have noted {q : Payload} (noted : ∃ value ∈ q.values, isBlankText value = false) :
      q.notes ≠ [] := by
    simpa [Payload.notes_eq_nil_iff] using noted
  cases reading with
  | word name =>
    obtain ⟨-, options, blank⟩ := h
    obtain ⟨-, options', blank'⟩ := h'
    rw [options, options', Payload.notes_eq_nil_iff.mpr blank, Payload.notes_eq_nil_iff.mpr blank']
    exact ⟨.refl _, rfl, .rfl⟩
  | assigned name note =>
    obtain ⟨-, options, some, told⟩ := h
    obtain ⟨-, options', some', told'⟩ := h'
    rw [options, options', ← told, told']
    exact ⟨.refl _, rfl, iff_of_false (noted some) (noted some')⟩
  | applied name arguments =>
    obtain ⟨-, -, blank, tell⟩ := h
    obtain ⟨-, -, blank', tell'⟩ := h'
    rw [Payload.notes_eq_nil_iff.mpr blank, Payload.notes_eq_nil_iff.mpr blank']
    exact ⟨tell.perm tell', rfl, .rfl⟩

/-- Deprecations are the same only when their payloads say the same. -/
theorem agree_of_deprecation? (written : deprecation? p = some text)
    (written' : deprecation? p' = some text) : p.options.entries.Perm p'.options.entries ∧
      commaJoined (p.notes.map trim) = commaJoined (p'.notes.map trim) ∧
      (p.notes = [] ↔ p'.notes = []) := by
  obtain ⟨reading, spells, tells⟩ := deprecates_of_deprecation? written
  obtain ⟨reading', spells', tells'⟩ := deprecates_of_deprecation? written'
  cases spells.read?_eq.symm.trans spells'.read?_eq
  exact tells.agree tells'

end Attribute

namespace Visitor

variable {σ : Type} {p : Payload} {node : Node} {index : Option Int}

/-- What the hooks on functions, fields and cases answer. -/
theorem deprecated_run (marks : node.kind ∈ [.function, .field, .variantCase])
    (placed : HookCall.hasSurplusIndex ⟨p, node, index⟩ = false) (state : σ) :
    (deprecated.hook ⟨p, node, index⟩).run state =
      (.ofAttribute? node (Attribute.deprecation? p), state) := by
  rw [deprecated, run_ofFunction placed]
  obtain ⟨_, rfl⟩ | ⟨_, rfl⟩ | ⟨_, rfl⟩ := Node.exists_of_kind_mem marks <;> rfl

/-- A deprecation tells its payload. There is none exactly when there are options and, beside them,
a text that is not blank or an option other than the two of a deprecation. What is written is read
as the one of three forms that the payload calls for, and no payload that says something else is
written the same. The hooks on functions, fields and cases all answer with this one attribute, or
all with nothing. -/
theorem deprecated_tells (p : Payload) :
    (Attribute.deprecation? p = none ↔
      p.options.entries ≠ [] ∧ Attribute.Strays ["since", "note"] p) ∧
    (∀ text, Attribute.deprecation? p = some text →
      (∃ reading, Attribute.Spells text reading ∧ reading.Deprecates p) ∧
      ∀ p', Attribute.deprecation? p' = some text →
        p.options.entries.Perm p'.options.entries ∧
        commaJoined (p.notes.map trim) = commaJoined (p'.notes.map trim) ∧
        (p.notes = [] ↔ p'.notes = [])) ∧
    ∀ (node : Node) (index : Option Int) (state : σ),
      node.kind ∈ [.function, .field, .variantCase] →
      HookCall.hasSurplusIndex ⟨p, node, index⟩ = false →
      (Attribute.deprecation? p = none ∧
        (deprecated.hook ⟨p, node, index⟩).run state = (.nothing, state)) ∨
      ∃ text c, Attribute.deprecation? p = some text ∧
        (deprecated.hook ⟨p, node, index⟩).run state = (.contribution c, state) ∧
        c.IsAttribute node text := by
  refine ⟨Attribute.deprecation?_eq_none_iff p, fun text written =>
    ⟨Attribute.deprecates_of_deprecation? written, fun p' =>
      Attribute.agree_of_deprecation? written⟩, ?_⟩
  intro node index state marks placed
  rw [deprecated_run marks placed state]
  rcases Answer.ofAttribute?_cases marks (Attribute.deprecation? p) with
    ⟨refused, answer⟩ | ⟨text, c, written, answer, single⟩
  · exact .inl ⟨refused, congrArg (·, state) answer⟩
  · exact .inr ⟨text, c, written, congrArg (·, state) answer, single⟩

/-- A note that looks like the end of its own literal, beside a version. -/
def trickyDeprecation : Payload :=
  ⟨"deprecated", [" "], .ofList [("note", "a\", since = \"2"), ("since", "1")]⟩

theorem deprecated_tells_tricky :
    let text := "#[deprecated(since = \"1\", note = \"a\\\", since = \\\"2\")]"
    let arguments : List Attribute.Argument :=
      [⟨"since", some "1"⟩, ⟨"note", some "a\", since = \"2"⟩]
    Attribute.deprecation? trickyDeprecation = some text ∧
      Attribute.read? text = some (.applied "deprecated" arguments) ∧
      Attribute.TellOptions ["since", "note"] trickyDeprecation arguments ∧
      ∃ c, (deprecated.hook ⟨trickyDeprecation, .case ⟨⟨"old", none, []⟩, none⟩, some 0⟩).run () =
          (.contribution c, ()) ∧
        c.IsAttribute (.case ⟨⟨"old", none, []⟩, none⟩) text := by
  intro text arguments
  have written : Attribute.deprecation? trickyDeprecation = some text := by decide
  have spelled : text = Attribute.call "deprecated" (arguments.map Attribute.Argument.render) := by
    decide
  have reads : Attribute.read? text = some (.applied "deprecated" arguments) :=
    spelled ▸ (Attribute.spells_call (by decide) (by decide) (by decide)).read?_eq
  obtain ⟨-, told, answered⟩ := deprecated_tells (σ := Unit) trickyDeprecation
  obtain ⟨⟨reading, spells, tells⟩, -⟩ := told text written
  cases reads.symm.trans spells.read?_eq
  obtain ⟨-, -, -, tell⟩ := tells
  refine ⟨written, reads, tell, ?_⟩
  rcases answered (.case ⟨⟨"old", none, []⟩, none⟩) (some 0) () (by decide) (by decide) with
    ⟨refused, -⟩ | ⟨text', c, written', answer, single⟩
  · cases written.symm.trans refused
  · cases written.symm.trans written'
    exact ⟨c, answer, single⟩

end Visitor

end SchemaWeaver

import SchemaWeaver.Proofs.Text.Trimming
import SchemaWeaver.Proofs.Visitor.Attribute
import SchemaWeaver.Proofs.Visitor.Blanks

/-!
# Two spellings of a version

A version is told by the text of a payload or by its option. The text is trimmed, the option is
taken as it is. `since_spellings_agree_iff` says what is noted for both spellings, and that the
notes are the same exactly when the version has no blank characters at its ends.
-/

namespace SchemaWeaver

open Text

namespace Visitor

/-- The payload whose text tells a version. -/
def versionText (target version : String) : Payload := ⟨target, [version], ∅⟩

/-- The payload whose option tells a version. -/
def versionOption (target version : String) : Payload :=
  ⟨target, [], .ofList [("version", version)]⟩

/-- The note of a version at a function, a world or else an interface, behind the name of the list
that it belongs to. -/
def versionNote (version : String) : Node → String × String
  | .function _ => ("attributes", "#[doc = \"Since version: " ++ Literal.escape version ++ "\"]")
  | .world _ => ("additional_code", "// World available since version: " ++ version)
  | _ => ("additional_code", "// Interface available since version: " ++ version)

/-- The nodes at which versions are noted. -/
def versionedKinds : List NodeKind := [.function, .interface, .world]

end Visitor

/-- A contribution at the place of a node that notes a version and nothing else. -/
structure Contribution.NotesVersion (node : Node) (version : String) (c : Contribution) : Prop where
  shape_eq : c.shape = Backend.rust.get (Slot.ofKind node.kind)
  action_eq : c.action = .keep
  rows_eq : c.rows = [Visitor.versionNote version node]

namespace Visitor

variable {σ : Type} {p : Payload} {node : Node} {version version' : String}

/-- The version can be told from its note. -/
theorem versionNote_injective (same : versionNote version node = versionNote version' node) :
    version = version' := by
  have text := (Prod.mk.inj same).2
  cases node with
  | function f =>
    have inner := (String.append_left_inj _).mp text
    exact Literal.escape_injective ((String.append_right_inj _).mp inner)
  | type | field | case | interface | world => exact (String.append_right_inj _).mp text

/-- The contribution that notes a version. -/
def versionContribution (version : String) (node : Node) : Contribution :=
  .ofLists (Backend.rust.get (Slot.ofKind node.kind))
    [((versionNote version node).1, [(versionNote version node).2])]

theorem exists_of_versionedKinds (versioned : node.kind ∈ versionedKinds) :
    (∃ f, node = .function f) ∨ (∃ i, node = .interface i) ∨ ∃ w, node = .world w := by
  cases node with
  | function f => exact .inl ⟨f, rfl⟩
  | interface i => exact .inr (.inl ⟨i, rfl⟩)
  | world w => exact .inr (.inr ⟨w, rfl⟩)
  | type t => cases h : t.body <;> simp [versionedKinds, Node.kind, TypeBody.kind, h] at versioned
  | field | case => simp [versionedKinds, Node.kind] at versioned

theorem notesVersion_versionContribution (versioned : node.kind ∈ versionedKinds) :
    (versionContribution version node).NotesVersion node version := by
  obtain ⟨_, rfl⟩ | ⟨_, rfl⟩ | ⟨_, rfl⟩ := exists_of_versionedKinds versioned <;>
    exact ⟨rfl, rfl, rfl⟩

/-- What the hooks on functions, interfaces and worlds answer. -/
theorem since_run (versioned : node.kind ∈ versionedKinds) (state : σ) :
    (since.hook ⟨p, node, none⟩).run state =
      (((version? p).map (versionContribution · node)).elim .nothing .contribution, state) := by
  rw [since, run_ofFunction rfl]
  obtain ⟨_, rfl⟩ | ⟨_, rfl⟩ | ⟨_, rfl⟩ := exists_of_versionedKinds versioned <;>
    cases version? p <;> rfl

theorem since_run_of_none (versioned : node.kind ∈ versionedKinds) (untold : version? p = none)
    (state : σ) : (since.hook ⟨p, node, none⟩).run state = (.nothing, state) := by
  rw [since_run versioned, untold]
  rfl

theorem since_run_of_some (versioned : node.kind ∈ versionedKinds)
    (told : version? p = some version) (state : σ) :
    ∃ c, (since.hook ⟨p, node, none⟩).run state = (.contribution c, state) ∧
      c.NotesVersion node version := by
  rw [since_run versioned, told]
  exact ⟨_, rfl, notesVersion_versionContribution versioned⟩

/-- Hooks answer the same for payloads exactly when these tell the same version. -/
theorem since_run_eq_iff {p' : Payload} (versioned : node.kind ∈ versionedKinds) (state : σ) :
    (since.hook ⟨p, node, none⟩).run state = (since.hook ⟨p', node, none⟩).run state ↔
      version? p = version? p' := by
  constructor
  · intro same
    cases told : version? p with
    | none =>
      cases told' : version? p' with
      | none => rfl
      | some version' =>
        obtain ⟨c', answer', -⟩ := since_run_of_some versioned told' state
        rw [since_run_of_none versioned told state, answer'] at same
        cases same
    | some version =>
      obtain ⟨c, answer, notes⟩ := since_run_of_some versioned told state
      cases told' : version? p' with
      | none =>
        rw [answer, since_run_of_none versioned told' state] at same
        cases same
      | some version' =>
        obtain ⟨c', answer', notes'⟩ := since_run_of_some versioned told' state
        rw [answer, answer'] at same
        cases same
        have row := notes.rows_eq.symm.trans notes'.rows_eq
        rw [versionNote_injective (List.cons.inj row).1]
  · intro same
    rw [since_run versioned, since_run versioned, same]

theorem version?_versionText (target version : String) :
    version? (versionText target version) =
      if isBlankText version = true then none else some (trim version) := by
  have joined : (versionText target version).text = version := by
    rw [Payload.text, versionText, commaJoined_singleton]
  rw [version?_of_lacks rfl, joined]
  simp only [trim_eq_empty_iff]

theorem version?_versionOption (target version : String) :
    version? (versionOption target version) = if version = "" then none else some version := by
  by_cases empty : version = ""
  · subst empty
    rfl
  · rw [if_neg empty]
    exact version?_of_told (decide_eq_false empty)

/-- The two spellings tell the same version exactly when nothing is trimmed. -/
theorem version?_eq_iff (target version : String) :
    version? (versionText target version) = version? (versionOption target version) ↔
      IsTight version := by
  rw [version?_versionText, version?_versionOption, ← trim_eq_self_iff]
  by_cases empty : version = ""
  · subst empty
    exact iff_of_true rfl rfl
  · rw [if_neg empty]
    by_cases blank : isBlankText version = true
    · rw [if_pos blank, trim_eq_empty_iff.mpr blank]
      exact iff_of_false (fun h => nomatch h) (Ne.symm empty)
    · rw [if_neg blank, Option.some_inj]

/-- The two spellings of a version. A blank text is not noted, and every other text is noted without
the blank characters at its ends. An option is noted as it is, unless it is empty. So the hooks on
functions, interfaces and worlds give the same answer for both spellings exactly when the version
has no blank characters at its ends. -/
theorem since_spellings_agree_iff (target version : String) {node : Node}
    (versioned : node.kind ∈ versionedKinds) (state : σ) :
    ((isBlankText version = true ∧
        (since.hook ⟨versionText target version, node, none⟩).run state = (.nothing, state)) ∨
      (isBlankText version = false ∧ ∃ shown c, Trims version shown ∧
        (since.hook ⟨versionText target version, node, none⟩).run state =
          (.contribution c, state) ∧
        c.NotesVersion node shown)) ∧
    ((version = "" ∧
        (since.hook ⟨versionOption target version, node, none⟩).run state = (.nothing, state)) ∨
      (version ≠ "" ∧ ∃ c,
        (since.hook ⟨versionOption target version, node, none⟩).run state =
          (.contribution c, state) ∧
        c.NotesVersion node version)) ∧
    ((since.hook ⟨versionText target version, node, none⟩).run state =
        (since.hook ⟨versionOption target version, node, none⟩).run state ↔
      IsTight version) := by
  refine ⟨?_, ?_, (since_run_eq_iff versioned state).trans (version?_eq_iff target version)⟩
  · have text := version?_versionText target version
    by_cases blank : isBlankText version = true
    · rw [if_pos blank] at text
      exact .inl ⟨blank, since_run_of_none versioned text state⟩
    · rw [if_neg blank] at text
      exact .inr ⟨Bool.eq_false_iff.mpr blank, trim version,
        (since_run_of_some versioned text state).imp fun c => .intro (trims_trim version)⟩
  · have option := version?_versionOption target version
    by_cases empty : version = ""
    · rw [if_pos empty] at option
      exact .inl ⟨empty, since_run_of_none versioned option state⟩
    · rw [if_neg empty] at option
      exact .inr ⟨empty, since_run_of_some versioned option state⟩

/-- A function whose version is noted. -/
def versionedFunction : Node := .function ⟨⟨"fetch", none, []⟩, [], none⟩

theorem since_spellings_agree_quoted :
    let version := "2 \"beta\""
    versionedFunction.kind ∈ versionedKinds ∧ IsTight version ∧
      (since.hook ⟨versionText "since" version, versionedFunction, none⟩).run () =
        (since.hook ⟨versionOption "since" version, versionedFunction, none⟩).run () ∧
      ∃ c, (since.hook ⟨versionOption "since" version, versionedFunction, none⟩).run () =
          (.contribution c, ()) ∧
        c.rows = [("attributes", "#[doc = \"Since version: 2 \\\"beta\\\"\"]")] := by
  intro version
  have versioned : versionedFunction.kind ∈ versionedKinds := by decide
  have tight : IsTight version := trim_eq_self_iff.mp (by decide)
  obtain ⟨-, option, agree⟩ := since_spellings_agree_iff "since" version versioned ()
  rcases option with ⟨empty, -⟩ | ⟨-, c, answer, notes⟩
  · exact absurd empty (by decide)
  · exact ⟨versioned, tight, agree.mpr tight, c, answer, notes.rows_eq.trans (by decide)⟩

/-- An interface whose version is noted. -/
def versionedInterface : Node := .interface ⟨⟨"api", none, []⟩, none, [], []⟩

/-- A blank version is noted when an option tells it, and not when the text does; and of a version
with a blank character in front the option notes more than the text. -/
theorem blank_version_noted :
    (since.hook ⟨versionText "since" " ", versionedInterface, none⟩).run () = (.nothing, ()) ∧
    (∃ c, (since.hook ⟨versionOption "since" " ", versionedInterface, none⟩).run () =
      (.contribution c, ()) ∧ c.NotesVersion versionedInterface " ") ∧
    (∃ c, (since.hook ⟨versionText "since" " 1", versionedInterface, none⟩).run () =
      (.contribution c, ()) ∧ c.NotesVersion versionedInterface "1") ∧
    ∃ c, (since.hook ⟨versionOption "since" " 1", versionedInterface, none⟩).run () =
      (.contribution c, ()) ∧ c.NotesVersion versionedInterface " 1" := by
  have versioned : versionedInterface.kind ∈ versionedKinds := by decide
  exact ⟨since_run_of_none versioned (by decide) (), since_run_of_some versioned (by decide) (),
    since_run_of_some versioned (by decide) (), since_run_of_some versioned (by decide) ()⟩

end Visitor

end SchemaWeaver

import Mathlib.Algebra.GroupWithZero.Nat
import SchemaWeaver.Proofs.Text.Literal
import SchemaWeaver.Proofs.Visitor.Payloads

/-!
# Blank texts

Blank texts are put at any places among the texts of a payload. Hooks that read the texts one by one
do not notice. Hooks that read the texts joined into one do: every further text adds a comma to the
joined text, and neither trimming nor writing a literal takes a comma away. So a level of tracing is
no longer recognised once there are two texts, and a version is told with more commas.

`hook_withValues_iff` says exactly when a built-in hook answers as before. The argument counts
commas: a blank text has none, and the joined text has one for each further text.
-/

namespace SchemaWeaver

namespace Text

/-- The number of commas in a text. -/
def commas (s : String) : Nat := s.toList.count ','

@[simp] theorem commas_append (s t : String) : commas (s ++ t) = commas s + commas t := by
  simp [commas]

theorem commas_behind {start : String} (plain : commas start = 0) (s : String) :
    commas (start ++ s) = commas s := by
  rw [commas_append, plain, Nat.zero_add]

theorem commas_of_isBlankText {s : String} (h : isBlankText s = true) : commas s = 0 :=
  List.count_eq_zero.mpr fun member => absurd (List.all_eq_true.mp h ',' member) (by decide)

private theorem count_dropWhile_isBlank (s : List Char) :
    (s.dropWhile isBlank).count ',' = s.count ',' := by
  induction s with
  | nil => rfl
  | cons c rest ih =>
    by_cases blank : isBlank c = true
    · have noComma : (c == ',') = false := by
        refine beq_eq_false_iff_ne.mpr ?_
        rintro rfl
        exact absurd blank (by decide)
      rw [List.dropWhile_cons_of_pos blank, ih, List.count_cons, noComma]
      rfl
    · rw [List.dropWhile_cons_of_neg blank]

/-- A comma is not blank, so trimming keeps it. -/
theorem commas_trim (s : String) : commas (trim s) = commas s := by
  simp only [commas, trim, trimmed, dropBlankEnd, String.toList_ofList, List.count_reverse,
    count_dropWhile_isBlank]

theorem commas_escape (s : String) : commas (Literal.escape s) = commas s := by
  rw [commas, commas, Literal.escape, String.toList_ofList]
  induction s.toList with
  | nil => rfl
  | cons c rest ih =>
    have single : (Literal.encodeChar c).count ',' = [c].count ',' := by
      unfold Literal.encodeChar
      split
      · rename_i special
        rcases special with rfl | rfl <;> rfl
      · rfl
    rw [Literal.encode_cons, List.count_append, single, ih, ← List.count_append,
      List.singleton_append]

/-- Joining adds a comma between neighbours. -/
theorem commas_commaJoined (parts : List String) :
    commas (commaJoined parts) = (parts.map commas).sum + (parts.length - 1) := by
  induction parts with
  | nil => rfl
  | cons part others ih =>
    cases others with
    | nil => simp [commaJoined_singleton]
    | cons next others =>
      have separator : commas ", " = 1 := rfl
      rw [commaJoined_cons_cons, commas_append, commas_append, ih, separator]
      simp only [List.map_cons, List.sum_cons, List.length_cons]
      omega

end Text

/-- Blank texts are put at any places of a list of texts. -/
inductive AddsBlanks : List String → List String → Prop
  | nil : AddsBlanks [] []
  | keep (value : String) {values values' : List String} (h : AddsBlanks values values') :
      AddsBlanks (value :: values) (value :: values')
  | add {value : String} {values values' : List String} (blank : Text.isBlankText value = true)
      (h : AddsBlanks values values') : AddsBlanks values (value :: values')

namespace AddsBlanks

variable {values values' : List String}

theorem sublist (h : AddsBlanks values values') : values.Sublist values' := by
  induction h with
  | nil => exact .slnil
  | keep value _ ih => exact ih.cons_cons value
  | add _ _ ih => exact ih.cons _

theorem filter_eq (h : AddsBlanks values values') :
    values'.filter (fun value => !Text.isBlankText value) =
      values.filter fun value => !Text.isBlankText value := by
  induction h with
  | nil => rfl
  | keep value _ ih => rw [List.filter_cons, ih, List.filter_cons]
  | add blank _ ih => rw [List.filter_cons, blank, ih]; rfl

theorem sum_commas_eq (h : AddsBlanks values values') :
    (values'.map Text.commas).sum = (values.map Text.commas).sum := by
  induction h with
  | nil => rfl
  | keep value _ ih => rw [List.map_cons, List.sum_cons, ih, List.map_cons, List.sum_cons]
  | add blank _ ih =>
    rw [List.map_cons, List.sum_cons, Text.commas_of_isBlankText blank, ih, Nat.zero_add]

theorem of_all_isBlankText (h : values.all Text.isBlankText = true) : AddsBlanks [] values := by
  induction values with
  | nil => exact .nil
  | cons value values ih =>
    rw [List.all_cons, Bool.and_eq_true] at h
    exact .add h.1 (ih h.2)

/-- Blank texts among two or more texts add commas to the joined text. -/
theorem commas_lt (h : AddsBlanks values values') (several : 2 ≤ values'.length)
    (differs : values' ≠ values) :
    Text.commas (Text.commaJoined values) < Text.commas (Text.commaJoined values') := by
  have longer : values.length < values'.length :=
    Nat.lt_of_le_of_ne h.sublist.length_le fun same => differs (h.sublist.eq_of_length same).symm
  have commas := h.sum_commas_eq
  rw [Text.commas_commaJoined, Text.commas_commaJoined]
  omega

/-- A single text, if it is added and hence blank, is as good as no text. -/
theorem trim_commaJoined_eq (h : AddsBlanks values values') (short : values'.length ≤ 1) :
    Text.trim (Text.commaJoined values') = Text.trim (Text.commaJoined values) := by
  cases h with
  | nil => rfl
  | keep value later =>
    have none' := List.eq_nil_of_length_eq_zero (Nat.le_zero.mp (Nat.le_of_succ_le_succ short))
    have none := List.sublist_nil.mp (none' ▸ later.sublist)
    rw [none', none]
  | add blank later =>
    rename_i value rest
    have none' : rest = [] :=
      List.eq_nil_of_length_eq_zero (Nat.le_zero.mp (Nat.le_of_succ_le_succ short))
    have none := List.sublist_nil.mp (none' ▸ later.sublist)
    rw [none', none, Text.commaJoined_singleton, Text.trim_eq_empty_iff.mpr blank]
    rfl

end AddsBlanks

/-- A payload is empty when it has no options and its texts are blank ones put where none were. -/
theorem Payload.isEmpty_iff {p : Payload} :
    p.isEmpty = true ↔ p.options.isEmpty = true ∧ AddsBlanks [] p.values := by
  rw [Payload.isEmpty, Bool.and_eq_true, and_comm]
  refine and_congr_right fun _ => ⟨AddsBlanks.of_all_isBlankText, fun h => ?_⟩
  have noNotes : p.notes = [] := h.filter_eq
  exact p.all_isBlankText_iff.mpr noNotes

/-- The payload with other texts. -/
def Payload.withValues (p : Payload) (values : List String) : Payload := { p with values := values }

/-- The call with other texts. -/
def HookCall.withValues (call : HookCall) (values : List String) : HookCall :=
  { call with payload := call.payload.withValues values }

/-- Whether no option tells a version. -/
def Payload.lacksVersion (p : Payload) : Bool := (p.get? "version").getD "" = ""

/-- Whether the hook that a built-in visitor for a target has for a call reads the joined text. It
tells the level of tracing for a function, and the version of a function or a module unless an
option does. -/
def HookCall.readsJoined (call : HookCall) (target : String) : Bool :=
  match call.node with
  | .function _ => target = "trace" || (target = "since" && call.payload.lacksVersion)
  | .interface _ | .world _ => target = "since" && call.payload.lacksVersion
  | _ => false

namespace Visitor

variable {σ : Type} {call : HookCall} {values' : List String}

theorem alike_withValues (adds : AddsBlanks call.payload.values values') :
    call.Related Payload.Alike (call.withValues values') :=
  ⟨⟨adds.filter_eq, fun _ => rfl⟩, rfl, rfl⟩

theorem sameText_withValues (adds : AddsBlanks call.payload.values values')
    (short : values'.length ≤ 1) : call.Related Payload.SameText (call.withValues values') :=
  ⟨⟨⟨adds.filter_eq, fun _ => rfl⟩, adds.trim_commaJoined_eq short⟩, rfl, rfl⟩

/-- With two texts the joined text is no level: levels have no commas. -/
theorem Tracer.level_notMem (t : Tracer) {p : Payload} (several : 2 ≤ p.values.length) :
    Tracer.level p ∉ t.levels := by
  have someComma : 0 < Text.commas (Text.trim p.text) := by
    rw [Text.commas_trim, Payload.text, Text.commas_commaJoined]
    omega
  have told : Text.trim p.text ≠ "" := fun empty => by
    rw [empty] at someComma
    cases someComma
  rw [Tracer.level, orElse, if_neg told]
  exact fun member => t.comma_notMem _ member (List.count_pos_iff.mp someComma)

theorem Tracer.hook_of_several (t : Tracer) (reads : call.readsJoined "trace" = true)
    (placed : call.hasSurplusIndex = false) (several : 2 ≤ call.payload.values.length) :
    (t.visitor : Visitor σ).hook call = pure .nothing := by
  have noLevel := t.level_notMem several
  obtain ⟨payload, node, index⟩ := call
  cases node with
  | function f =>
    simp only [Tracer.visitor, Tracer.answer, ofFunction, placed, noLevel, Bool.false_eq_true,
      if_false]
  | type | field | case | interface | world => cases reads

end Visitor

/-- The commas in what an answer generates. -/
def Answer.commas : Answer → Nat
  | .contribution c => (c.rows.map fun row => Text.commas row.2).sum
  | _ => 0

theorem Answer.commas_of_rows {c : Contribution} {list text : String}
    (rows : c.rows = [(list, text)]) : (Answer.contribution c).commas = Text.commas text := by
  rw [Answer.commas, rows]
  rfl

namespace Visitor

variable {σ : Type} {call : HookCall} {values' : List String}

theorem version?_of_lacks {p : Payload} (lacks : p.lacksVersion = true) :
    version? p = if Text.trim p.text = "" then none else some (Text.trim p.text) := by
  rw [version?, of_decide_eq_true lacks]
  rfl

theorem version?_of_told {p : Payload} (told : p.lacksVersion = false) :
    version? p = some ((p.get? "version").getD "") := by
  have version : (p.get? "version").getD "" ≠ "" := of_decide_eq_false told
  rw [version?, orElse, if_neg version]
  exact if_neg version

/-- A version that is read from the joined text is told with all of its commas. -/
theorem since_commas (reads : call.readsJoined "since" = true)
    (placed : call.hasSurplusIndex = false) (state : σ) :
    ((since.hook call).run state).1.commas = Text.commas call.payload.text := by
  obtain ⟨payload, node, index⟩ := call
  have lacks : payload.lacksVersion = true := by
    cases node with
    | function | interface | world => simpa [HookCall.readsJoined] using reads
    | type | field | case => cases reads
  have version := version?_of_lacks lacks
  rw [← Text.commas_trim]
  by_cases empty : Text.trim payload.text = ""
  · rw [if_pos empty] at version
    simp only [since, ofFunction, placed, version, empty, Bool.false_eq_true, if_false]
    rfl
  · rw [if_neg empty] at version
    cases node with
    | function f =>
      have stop : Text.commas "\"]" = 0 := by decide
      simp only [since, ofFunction, placed, version, Bool.false_eq_true, if_false]
      refine (Answer.commas_of_rows rfl).trans ?_
      rw [Text.commas_append, stop, Nat.add_zero, Text.commas_behind (by decide),
        Text.commas_escape]
    | interface i =>
      simp only [since, ofFunction, placed, version, Bool.false_eq_true, if_false]
      exact (Answer.commas_of_rows rfl).trans (Text.commas_behind (by decide) _)
    | world w =>
      simp only [since, ofFunction, placed, version, Bool.false_eq_true, if_false]
      exact (Answer.commas_of_rows rfl).trans (Text.commas_behind (by decide) _)
    | type | field | case => cases reads

/-- A misplaced call fails whatever its texts are. -/
theorem ofFunction_withValues_of_surplus {className target : String} {family : Backend}
    {kinds : List NodeKind} {answer : Payload → Node → Option Contribution}
    (surplus : call.hasSurplusIndex = true) :
    (ofFunction className target family kinds answer : Visitor σ).hook (call.withValues values') =
      (ofFunction className target family kinds answer : Visitor σ).hook call := by
  have surplus' : (call.withValues values').hasSurplusIndex = true := surplus
  simp only [ofFunction, surplus, surplus', if_true]
  rfl

theorem readsJoined_eq_false {target : String} (other : target ∉ ["trace", "since"]) :
    call.readsJoined target = false := by
  simp only [List.mem_cons, List.not_mem_nil, or_false, not_or] at other
  unfold HookCall.readsJoined
  split <;> simp [other]

theorem Tracer.withValues_of_unread (t : Tracer) (unread : call.readsJoined "trace" = false) :
    (t.visitor : Visitor σ).hook (call.withValues values') = t.visitor.hook call := by
  obtain ⟨payload, node, index⟩ := call
  cases node with
  | function f => cases unread
  | type | field | case | interface | world => rfl

theorem since_withValues_of_unread (unread : call.readsJoined "since" = false) :
    (since : Visitor σ).hook (call.withValues values') = since.hook call := by
  obtain ⟨payload, node, index⟩ := call
  cases lacks : payload.lacksVersion with
  | false =>
    have told : version? (payload.withValues values') = version? payload :=
      (version?_of_told (p := payload.withValues values') lacks).trans (version?_of_told lacks).symm
    simp only [since, ofFunction, HookCall.withValues, told]
    rfl
  | true =>
    -- No option tells the version, so the node is of a kind without a hook.
    cases node with
    | function | interface | world => simp [HookCall.readsJoined, lacks] at unread
    | type | field | case =>
      simp only [since, ofFunction, HookCall.withValues]
      cases version? (payload.withValues values') <;> cases version? payload <;> rfl

theorem exists_ofFunction {v : Visitor σ} (shipped : v ∈ builtin) :
    ∃ className target family kinds answer,
      v = ofFunction className target family kinds answer := by
  simp only [builtin, rustDefaults, pythonDefaults, List.cons_append, List.nil_append,
    List.mem_cons, List.not_mem_nil, or_false] at shipped
  rcases shipped with rfl | rfl | rfl | rfl | rfl | rfl | rfl | rfl | rfl
  all_goals exact ⟨_, _, _, _, _, rfl⟩

/-- Whether other texts cannot matter to a built-in visitor for a target: the call is misplaced, its
hook does not read the joined text, or there is no second text, or the texts are the same. -/
def Unaffected (target : String) (call : HookCall) (values' : List String) : Prop :=
  call.hasSurplusIndex = true ∨ call.readsJoined target = false ∨ values'.length ≤ 1 ∨
    values' = call.payload.values

theorem hook_withValues_of_unaffected {v : Visitor σ} (shipped : v ∈ builtin)
    (adds : AddsBlanks call.payload.values values') (h : Unaffected v.target call values') :
    v.hook (call.withValues values') = v.hook call := by
  rcases h with surplus | unread | short | rfl
  · obtain ⟨className, target, family, kinds, answer, rfl⟩ := exists_ofFunction shipped
    exact ofFunction_withValues_of_surplus surplus
  · rcases builtin_cases shipped with ⟨alike, -⟩ | ⟨t, rfl⟩ | rfl
    · exact alike _ _ (alike_withValues adds)
    · exact t.withValues_of_unread unread
    · exact since_withValues_of_unread unread
  · exact builtin_respects shipped _ _ (sameText_withValues adds short)
  · rfl

/-- Where the joined text matters and gains commas, only a visitor for tracing can answer as before,
and only with nothing. -/
theorem hook_withValues_iff_of_affected {v : Visitor σ} (shipped : v ∈ builtin)
    (adds : AddsBlanks call.payload.values values') (state : σ)
    (h : ¬Unaffected v.target call values') :
    (v.hook (call.withValues values')).run state = (v.hook call).run state ↔
      v.target = "trace" ∧ (v.hook call).run state = (.nothing, state) := by
  simp only [Unaffected, not_or, Bool.not_eq_true, Bool.not_eq_false, Nat.not_le] at h
  obtain ⟨placed, reads, several, differs⟩ := h
  rcases builtin_cases shipped with ⟨-, other⟩ | ⟨t, rfl⟩ | rfl
  · rw [readsJoined_eq_false other] at reads
    cases reads
  · have nothing : (t.visitor.hook (call.withValues values')).run state = (.nothing, state) :=
      congrArg (StateT.run · state) (t.hook_of_several reads placed several)
    rw [nothing, eq_comm]
    exact (and_iff_right rfl).symm
  · refine iff_of_false (fun same => ?_) fun trace =>
      absurd trace.1 (by decide : "since" ≠ "trace")
    have reads' : (call.withValues values').readsJoined "since" = true := reads
    have before := since_commas reads placed state
    have after := since_commas reads' placed state
    rw [same, before] at after
    exact Nat.ne_of_lt (adds.commas_lt several differs) after

/-- Blank texts among the texts of a payload are noticed exactly by the hooks that read the joined
text: the hooks of both visitors for tracing on functions, and those for versions unless an option
tells the version. When blank texts are put in, each of these hooks changes its answer as soon as
there are two texts, except that nothing stays nothing for tracing; in all other cases, and for all
other hooks, the answer is the same. A payload is empty when it has no options and blank texts
only. -/
theorem hook_withValues_iff {v : Visitor σ} (shipped : v ∈ builtin) (call : HookCall)
    {values' : List String} (adds : AddsBlanks call.payload.values values') (state : σ) :
    ((v.hook (call.withValues values')).run state = (v.hook call).run state ↔
      Unaffected v.target call values' ∨
        v.target = "trace" ∧ (v.hook call).run state = (.nothing, state)) ∧
    (call.payload.isEmpty = true ↔
      call.payload.options.isEmpty = true ∧ AddsBlanks [] call.payload.values) := by
  refine ⟨?_, call.payload.isEmpty_iff⟩
  by_cases unaffected : Unaffected v.target call values'
  · rw [hook_withValues_of_unaffected shipped adds unaffected]
    exact iff_of_true rfl (.inl unaffected)
  · rw [hook_withValues_iff_of_affected shipped adds state unaffected]
    exact (or_iff_right unaffected).symm

/-- A function that is asked to be traced at the level that the texts tell. -/
def tracedCall (values : List String) : HookCall :=
  ⟨⟨"trace", values, ∅⟩, .function ⟨⟨"f", none, []⟩, [], none⟩, none⟩

/-- A second text beside the level is noticed, a single blank text is not. -/
theorem hook_withValues_iff_tracing :
    ((tracing : Visitor Unit) ∈ builtin ∧ AddsBlanks ["info"] ["info", " "] ∧
      (tracing.hook (tracedCall ["info", " "])).run () ≠
        (tracing.hook (tracedCall ["info"])).run ()) ∧
    (AddsBlanks [] [" "] ∧
      (tracing.hook (tracedCall [" "])).run () = (tracing.hook (tracedCall [])).run ()) := by
  have shipped : (tracing : Visitor Unit) ∈ builtin := .tail _ (.tail _ (.head _))
  have second : AddsBlanks ["info"] ["info", " "] := .keep _ (.add rfl .nil)
  have single : AddsBlanks [] [" "] := .add rfl .nil
  refine ⟨⟨shipped, second, fun same => ?_⟩, single, ?_⟩
  · have noticed := (hook_withValues_iff shipped (tracedCall ["info"]) second ()).1.mp same
    rcases noticed with (misplaced | unread | short | texts) | ⟨-, nothing⟩
    · exact absurd misplaced (by decide)
    · exact absurd unread (by decide)
    · exact absurd short (by decide)
    · exact absurd texts (by decide)
    · cases nothing
  · exact (hook_withValues_iff shipped (tracedCall []) single ()).1.mpr
      (.inl (.inr (.inr (.inl (Nat.le_refl 1)))))

/-- A payload of two empty texts is empty, and yet a function is not traced at the level that is
told by no text. -/
theorem tracing_of_blank_texts :
    (tracedCall ["", ""]).payload.isEmpty = true ∧ AddsBlanks [] ["", ""] ∧
      (tracing.hook (tracedCall ["", ""])).run () = (.nothing, ()) ∧
      (tracing.hook (tracedCall [])).run () ≠ (.nothing, ()) := by
  refine ⟨rfl, .add rfl (.add rfl .nil), rfl, ?_⟩
  intro h
  cases h

end Visitor

end SchemaWeaver

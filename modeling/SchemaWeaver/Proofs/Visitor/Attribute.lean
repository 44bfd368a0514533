import Mathlib.Data.List.Nodup
import SchemaWeaver.Proofs.Text.Literal
import SchemaWeaver.Proofs.Visitor.Payloads

/-!
# Reading attributes

An attribute is read in two passes. The first one finds its tokens: words, literals, and marks for
all other characters that are not blank. The second one finds the form of the attribute: a word, a
word with a text assigned to it, or a word with arguments in parentheses. Arguments are separated by
commas; each is a key, perhaps with a text assigned to it.

`spells_word`, `spells_assigned` and `spells_call` say that what is written is read back, whatever
the texts in it are: no text can end its literal early, so that the marks in it are never taken for
those of the attribute.
-/

namespace SchemaWeaver

open Text

namespace Attribute

/-- What an attribute is made of. -/
inductive Token where
  | word (text : String)
  | literal (text : String)
  | mark (c : Char)
  deriving DecidableEq, Repr

/-- The characters of words. -/
def isWordChar (c : Char) : Bool := c.isAlphanum || c = '_'

/-- The characters that are a token of their own. -/
def isMarkChar (c : Char) : Bool := !isWordChar c && decide (c ≠ '"') && !c.isWhitespace

/-- The tokens of a character list. The quote of a literal that cannot be read is left as a mark. -/
def tokens : List Char → List Token
  | [] => []
  | c :: rest =>
    if isWordChar c then
      .word (String.ofList (c :: rest.takeWhile isWordChar)) :: tokens (rest.dropWhile isWordChar)
    else if c = '"' then
      match _found : Literal.read? rest with
      | some (text, tail) => .literal (String.ofList text) :: tokens tail
      | none => [.mark c]
    else if c.isWhitespace then tokens rest
    else .mark c :: tokens rest
termination_by s => s.length
decreasing_by
  · exact Nat.lt_succ_of_le (List.dropWhile_sublist _).length_le
  · exact Nat.lt_succ_of_lt (Literal.length_of_read? _found)
  · exact Nat.lt_succ_self _
  · exact Nat.lt_succ_self _

/-- An argument: a key, perhaps with a text assigned to it. -/
structure Argument where
  key : String
  value? : Option String
  deriving DecidableEq, Repr

/-- The arguments in the tokens behind an opening parenthesis, up to the end of the attribute. -/
def arguments? : List Token → Option (List Argument)
  | [.word key, .mark ')', .mark ']'] => some [⟨key, none⟩]
  | [.word key, .mark '=', .literal text, .mark ')', .mark ']'] => some [⟨key, some text⟩]
  | .word key :: .mark ',' :: rest => (arguments? rest).map fun others => ⟨key, none⟩ :: others
  | .word key :: .mark '=' :: .literal text :: .mark ',' :: rest =>
    (arguments? rest).map fun others => ⟨key, some text⟩ :: others
  | _ => none

/-- What an attribute says. -/
inductive Reading where
  | word (name : String)
  | assigned (name text : String)
  | applied (name : String) (arguments : List Argument)
  deriving DecidableEq, Repr

/-- What the tokens of an attribute say. -/
def reading? : List Token → Option Reading
  | [.mark '#', .mark '[', .word name, .mark ']'] => some (.word name)
  | [.mark '#', .mark '[', .word name, .mark '=', .literal text, .mark ']'] =>
    some (.assigned name text)
  | .mark '#' :: .mark '[' :: .word name :: .mark '(' :: rest =>
    (arguments? rest).map fun arguments => .applied name arguments
  | _ => none

/-- Reads an attribute. -/
def read? (text : String) : Option Reading := reading? (tokens text.toList)

/-- A text that is, character by character, of the form of what it is read as. -/
def Reading.HasForm (text : String) : Reading → Prop
  | .word name => text = "#[" ++ name ++ "]"
  | .assigned name value => text = "#[" ++ name ++ " = \"" ++ Literal.escape value ++ "\"]"
  | .applied name _ => ∃ inner, text = "#[" ++ name ++ "(" ++ inner ++ ")]"

/-- The text of an attribute and what it says. -/
structure Spells (text : String) (reading : Reading) : Prop where
  form : reading.HasForm text
  read?_eq : read? text = some reading

/-- A text that is read as one word. -/
def IsWord (s : String) : Prop := s ≠ "" ∧ s.toList.all isWordChar = true

instance (s : String) : Decidable (IsWord s) := inferInstanceAs (Decidable (_ ∧ _))

section Tokens

variable {c : Char} {s tail : List Char}

/-- A word ends where another character follows. -/
theorem tokens_word {word : String} (isWord : IsWord word) (stop : isWordChar c = false) :
    tokens (word.toList ++ c :: tail) = .word word :: tokens (c :: tail) := by
  obtain ⟨nonempty, all⟩ := isWord
  have all' := List.all_eq_true.mp all
  cases split : word.toList with
  | nil => exact absurd (String.toList_eq_nil_iff.mp split) nonempty
  | cons first rest =>
    rw [split] at all'
    obtain ⟨start, others⟩ := List.forall_mem_cons.mp all'
    have taken : (rest ++ c :: tail).takeWhile isWordChar = rest := by
      rw [List.takeWhile_append_of_pos others, List.takeWhile_cons_of_neg (by simp [stop]),
        List.append_nil]
    have left : (rest ++ c :: tail).dropWhile isWordChar = c :: tail := by
      rw [List.dropWhile_append_of_pos others, List.dropWhile_cons_of_neg (by simp [stop])]
    rw [List.cons_append, tokens, if_pos start, taken, left, ← split, String.ofList_toList]

theorem tokens_mark (mark : isMarkChar c = true) : tokens (c :: s) = .mark c :: tokens s := by
  simp only [isMarkChar, Bool.and_eq_true, Bool.not_eq_true', decide_eq_true_eq] at mark
  obtain ⟨⟨noWord, noQuote⟩, noBlank⟩ := mark
  rw [tokens, if_neg (by simp [noWord]), if_neg noQuote, if_neg (by simp [noBlank])]

theorem tokens_space : tokens (' ' :: s) = tokens s := by
  rw [tokens, if_neg (by decide), if_neg (by decide), if_pos (by decide)]

/-- A literal is one token, whatever its text is. -/
theorem tokens_literal (text : String) (tail : List Char) :
    tokens ('"' :: ((Literal.escape text).toList ++ '"' :: tail)) =
      .literal text :: tokens tail := by
  have found := Literal.read?_escape text tail
  rw [tokens, if_neg (by decide), if_pos rfl]
  split
  · rename_i text' tail' h
    cases found.symm.trans h
    rw [String.ofList_toList]
  · rename_i h
    cases found.symm.trans h

/-- An assignment is read as its key, the sign and its text. -/
theorem tokens_assignment {key : String} (isWord : IsWord key) (text : String)
    (tail : List Char) : tokens ((assignment key text).toList ++ tail) =
      .word key :: .mark '=' :: .literal text :: tokens tail := by
  have spelled : (assignment key text).toList ++ tail =
      key.toList ++ ' ' :: '=' :: ' ' :: '"' :: ((Literal.escape text).toList ++ '"' :: tail) := by
    simp [assignment]
  rw [spelled, tokens_word isWord (by decide), tokens_space, tokens_mark (by decide), tokens_space,
    tokens_literal]

/-- The tokens of an attribute are those of what stands between its brackets. -/
theorem tokens_wrap (content : String) : tokens (wrap content).toList =
    .mark '#' :: .mark '[' :: tokens (content.toList ++ [']']) := by
  have spelled : (wrap content).toList = '#' :: '[' :: (content.toList ++ [']']) := by
    simp [wrap]
  rw [spelled, tokens_mark (by decide), tokens_mark (by decide)]

theorem tokens_bracket : tokens [']'] = [.mark ']'] := by
  rw [tokens_mark (by decide), tokens]

end Tokens

namespace Argument

/-- How an argument is written. -/
def render : Argument → String
  | ⟨key, none⟩ => key
  | ⟨key, some text⟩ => assignment key text

/-- The tokens of an argument. -/
def tokens : Argument → List Token
  | ⟨key, none⟩ => [.word key]
  | ⟨key, some text⟩ => [.word key, .mark '=', .literal text]

variable {a : Argument} {c : Char} {tail : List Char}

theorem tokens_render (isWord : IsWord a.key) (stop : isWordChar c = false) :
    Attribute.tokens (a.render.toList ++ c :: tail) = a.tokens ++ Attribute.tokens (c :: tail) := by
  obtain ⟨key, value?⟩ := a
  cases value? with
  | none => exact tokens_word isWord stop
  | some text => exact tokens_assignment isWord text (c :: tail)

theorem arguments?_last (a : Argument) :
    arguments? (a.tokens ++ [.mark ')', .mark ']']) = some [a] := by
  obtain ⟨key, value?⟩ := a
  cases value? <;> rfl

theorem arguments?_next (a : Argument) (rest : List Token) :
    arguments? (a.tokens ++ .mark ',' :: rest) =
      (arguments? rest).map fun others => a :: others := by
  obtain ⟨key, value?⟩ := a
  cases value? <;> rfl

end Argument

section RoundTrip

variable {name : String}

/-- Arguments that are joined by commas are read one by one. -/
theorem arguments?_commaJoined {arguments : List Argument} (nonempty : arguments ≠ [])
    (keys : ∀ a ∈ arguments, IsWord a.key) :
    arguments? (tokens ((commaJoined (arguments.map Argument.render)).toList ++ [')', ']'])) =
      some arguments := by
  induction arguments with
  | nil => exact absurd rfl nonempty
  | cons a others ih =>
    obtain ⟨first, keys⟩ := List.forall_mem_cons.mp keys
    -- The parenthesis closes the last argument, and a comma every other one.
    cases others with
    | nil =>
      rw [List.map_singleton, commaJoined_singleton, Argument.tokens_render first (by decide),
        tokens_mark (by decide), tokens_bracket, Argument.arguments?_last]
    | cons next others =>
      have spelled :
          (commaJoined ((a :: next :: others).map Argument.render)).toList ++ [')', ']'] =
            a.render.toList ++ ',' :: ' ' ::
              ((commaJoined ((next :: others).map Argument.render)).toList ++ [')', ']']) := by
        simp [commaJoined_cons_cons]
      rw [spelled, Argument.tokens_render first (by decide), tokens_mark (by decide), tokens_space,
        Argument.arguments?_next, ih (List.cons_ne_nil _ _) keys]
      rfl

theorem spells_word (isWord : IsWord name) : Spells (wrap name) (.word name) where
  form := rfl
  read?_eq := by
    rw [read?, tokens_wrap, tokens_word isWord (by decide), tokens_bracket]
    rfl

theorem spells_assigned (isWord : IsWord name) (text : String) :
    Spells (wrap (assignment name text)) (.assigned name text) where
  form := by simp [Reading.HasForm, wrap, assignment, String.append_assoc]
  read?_eq := by
    rw [read?, tokens_wrap, tokens_assignment isWord, tokens_bracket]
    rfl

theorem spells_call (isWord : IsWord name) {arguments : List Argument} (nonempty : arguments ≠ [])
    (keys : ∀ a ∈ arguments, IsWord a.key) :
    Spells (call name (arguments.map Argument.render)) (.applied name arguments) where
  form := ⟨commaJoined (arguments.map Argument.render), by simp [call, wrap, String.append_assoc]⟩
  read?_eq := by
    have spelled (inner : String) : (name ++ "(" ++ inner ++ ")").toList ++ [']'] =
        name.toList ++ '(' :: (inner.toList ++ [')', ']']) := by
      simp
    rw [read?, call, tokens_wrap, spelled, tokens_word isWord (by decide), tokens_mark (by decide)]
    exact congrArg (Option.map _) (arguments?_commaJoined nonempty keys)

end RoundTrip

/-- Arguments that are exactly the options of a payload, each with its value, in the order of the
given keys. -/
def TellOptions (keys : List String) (p : Payload) (arguments : List Argument) : Prop :=
  ∃ entries : List (String × String), entries.Perm p.options.entries ∧
    (entries.map Prod.fst).Sublist keys ∧
    arguments = entries.map fun (key, value) => ⟨key, some value⟩

/-- A payload with a text that is not blank, or with an option under none of the given keys. -/
def Strays (keys : List String) (p : Payload) : Prop :=
  (∃ value ∈ p.values, isBlankText value = false) ∨ ∃ key ∈ p.options.keys, key ∉ keys

section Options

variable {keys : List String} {p p' : Payload}

theorem not_strays_iff :
    ¬ Strays keys p ↔ p.notes = [] ∧ p.optionsWithin keys = true := by
  rw [Payload.notes_eq_nil_iff, Strays, not_or]
  simp [Payload.optionsWithin]

/-- Options that are told by the same arguments are the same. -/
theorem TellOptions.perm {arguments : List Argument} (h : TellOptions keys p arguments)
    (h' : TellOptions keys p' arguments) : p.options.entries.Perm p'.options.entries := by
  obtain ⟨entries, all, -, told⟩ := h
  obtain ⟨entries', all', -, told'⟩ := h'
  have injective : Function.Injective
      fun entry : String × String => (⟨entry.1, some entry.2⟩ : Argument) := by
    rintro ⟨key, value⟩ ⟨key', value'⟩ same
    simpa using same
  have same : entries = entries' := injective.list_map (told.symm.trans told')
  exact all.symm.trans (same ▸ all')

/-- The options under the given keys, in the order of the keys. -/
def optionsAt (keys : List String) (p : Payload) : List (String × String) :=
  keys.filterMap fun key => (p.get? key).map fun value => (key, value)

theorem mem_optionsAt {entry : String × String} :
    entry ∈ optionsAt keys p ↔ entry.1 ∈ keys ∧ entry ∈ p.options.entries := by
  obtain ⟨key, value⟩ := entry
  rw [optionsAt, List.mem_filterMap, ← OrderedMap.find?_eq_some_iff]
  simp only [Option.map_eq_some_iff, Prod.mk.injEq, Payload.get?]
  constructor
  · rintro ⟨_, member, _, found, rfl, rfl⟩
    exact ⟨member, found⟩
  · rintro ⟨member, found⟩
    exact ⟨key, member, value, found, rfl, rfl⟩

theorem keys_optionsAt (keys : List String) (p : Payload) :
    ((optionsAt keys p).map Prod.fst).Sublist keys := by
  induction keys with
  | nil => exact .slnil
  | cons key keys ih =>
    rw [optionsAt, List.filterMap_cons]
    cases p.get? key with
    | none => exact ih.cons key
    | some value => exact ih.cons_cons key

/-- When no other keys are set, all options are there. -/
theorem optionsAt_perm (nodup : keys.Nodup) (known : p.optionsWithin keys = true) :
    (optionsAt keys p).Perm p.options.entries := by
  have first : (optionsAt keys p).Nodup := .of_map Prod.fst ((keys_optionsAt keys p).nodup nodup)
  have second : p.options.entries.Nodup := .of_map Prod.fst p.options.nodup_keys
  refine (List.perm_ext_iff_of_nodup first second).mpr fun entry => ?_
  rw [mem_optionsAt, and_iff_right_iff_imp]
  intro member
  have present : entry.1 ∈ p.options.keys := List.mem_map_of_mem member
  exact List.contains_iff_mem.mp (List.all_eq_true.mp known entry.1 present)

theorem optionsAt_eq_nil_iff (nodup : keys.Nodup) (known : p.optionsWithin keys = true) :
    optionsAt keys p = [] ↔ p.options.entries = [] := by
  have all := optionsAt_perm nodup known
  exact ⟨fun empty => List.perm_nil.mp (empty ▸ all).symm, fun empty =>
    List.perm_nil.mp (empty ▸ all)⟩

theorem assignments_eq (keys : List String) (p : Payload) : assignments keys p =
    ((optionsAt keys p).map fun (key, value) => ⟨key, some value⟩).map Argument.render := by
  rw [assignments, optionsAt, List.map_filterMap, List.map_filterMap]
  refine congrArg (List.filterMap · keys) (funext fun key => ?_)
  cases p.get? key <;> rfl

theorem assignments_eq_nil_iff (nodup : keys.Nodup) (known : p.optionsWithin keys = true) :
    assignments keys p = [] ↔ p.options.entries = [] := by
  rw [assignments_eq, List.map_eq_nil_iff, List.map_eq_nil_iff, optionsAt_eq_nil_iff nodup known]

/-- An attribute with all options for its arguments is read as exactly these options. -/
theorem spells_assignments {name : String} (isWord : IsWord name)
    (words : ∀ key ∈ keys, IsWord key) (nodup : keys.Nodup) (known : p.optionsWithin keys = true)
    (nonempty : p.options.entries ≠ []) :
    ∃ arguments, Spells (call name (assignments keys p)) (.applied name arguments) ∧
      TellOptions keys p arguments := by
  refine ⟨_, ?_, optionsAt keys p, optionsAt_perm nodup known, keys_optionsAt keys p, rfl⟩
  have given : optionsAt keys p ≠ [] := mt (optionsAt_eq_nil_iff nodup known).mp nonempty
  rw [assignments_eq]
  refine spells_call isWord (mt List.map_eq_nil_iff.mp given) ?_
  intro a member
  obtain ⟨entry, present, rfl⟩ := List.mem_map.mp member
  exact words _ (mem_optionsAt.mp present).1

end Options

end Attribute

/-- A contribution at the place of a node that is one attribute and nothing else. -/
structure Contribution.IsAttribute (node : Node) (text : String) (c : Contribution) : Prop where
  shape_eq : c.shape = Backend.rust.get (Slot.ofKind node.kind)
  action_eq : c.action = .keep
  rows_eq : c.rows = [("attributes", text)]

/-- The contribution of one attribute to a node. -/
def Attribute.contribution (node : Node) (text : String) : Contribution :=
  .ofLists (Backend.rust.get (Slot.ofKind node.kind)) [("attributes", [text])]

/-- How a hook answers that has one attribute or nothing for a node. -/
def Answer.ofAttribute? (node : Node) (text? : Option String) : Answer :=
  (text?.map (Attribute.contribution node)).elim .nothing .contribution

theorem Node.exists_of_kind_mem {node : Node}
    (marks : node.kind ∈ [.function, .field, .variantCase]) :
    (∃ f, node = .function f) ∨ (∃ f, node = .field f) ∨ ∃ c, node = .case c := by
  cases node with
  | function f => exact .inl ⟨f, rfl⟩
  | field f => exact .inr (.inl ⟨f, rfl⟩)
  | case c => exact .inr (.inr ⟨c, rfl⟩)
  | type t => cases h : t.body <;> simp [Node.kind, TypeBody.kind, h] at marks
  | interface | world => simp [Node.kind] at marks

theorem Answer.ofAttribute?_cases {node : Node}
    (marks : node.kind ∈ [.function, .field, .variantCase]) (text? : Option String) :
    (text? = none ∧ ofAttribute? node text? = .nothing) ∨
    ∃ text c, text? = some text ∧ ofAttribute? node text? = .contribution c ∧
      c.IsAttribute node text := by
  cases text? with
  | none => exact .inl ⟨rfl, rfl⟩
  | some text =>
    refine .inr ⟨text, _, rfl, rfl, ?_⟩
    obtain ⟨_, rfl⟩ | ⟨_, rfl⟩ | ⟨_, rfl⟩ := Node.exists_of_kind_mem marks <;>
      exact ⟨rfl, rfl, rfl⟩

namespace Visitor

variable {σ : Type} {className target : String} {family : Backend} {kinds : List NodeKind}
  {answer : Payload → Node → Option Contribution} {p : Payload} {node : Node} {index : Option Int}

/-- A hook that is called properly answers with its contribution, or else with nothing. -/
theorem run_ofFunction (placed : HookCall.hasSurplusIndex ⟨p, node, index⟩ = false) (state : σ) :
    ((ofFunction className target family kinds answer).hook ⟨p, node, index⟩).run state =
      ((answer p node).elim .nothing .contribution, state) := by
  simp only [ofFunction, placed, Bool.false_eq_true, if_false]
  cases answer p node <;> rfl

end Visitor

end SchemaWeaver

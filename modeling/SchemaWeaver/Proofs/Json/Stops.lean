import Mathlib.Algebra.Group.Int.Defs
import SchemaWeaver.Proofs.Json.RoundTrip

/-!
# Where the reader stops

A step of the reader leaves a rest at the end of its text. It stops at a fault, or at a limit; and
at a limit only when its text gives a reason: more digits in a row than the reader converts, or more
opening brackets than there is room to nest. `Sound` says both at once, so that steps are put
together: what follows a step works on its rest, and a reason in the rest is a reason in the text.

That there are such texts is seen from integers: one that has too many digits is not read.
-/

namespace SchemaWeaver.Json

/-- The characters that open an array or an object. -/
def isOpening (c : Char) : Bool := c == '[' || c == '{'

/-- Whether a text gives a reason to stop at a limit, with room for so many arrays and objects one
inside the other. -/
def Limit.Exceeded (room : Nat) (s : List Char) : Limit → Prop
  | integerDigits => ∃ digits, digits <:+: s ∧ (∀ c ∈ digits, c.isDigit = true) ∧
      maxIntegerDigits < digits.length
  | nesting => room < s.countP isOpening

/-- A short text goes beyond no limit. -/
theorem not_exceeded_of_length_le {limit : Limit} {room : Nat} {s : List Char}
    (short : s.length ≤ maxIntegerDigits) (shallow : s.length ≤ room) :
    ¬limit.Exceeded room s := by
  cases limit with
  | integerDigits =>
    rintro ⟨digits, inside, -, long⟩
    exact absurd (Nat.lt_of_lt_of_le long inside.length_le) (Nat.not_lt.mpr short)
  | nesting => exact Nat.not_lt.mpr (Nat.le_trans List.countP_le_length shallow)

/-- A step that leaves an end of its text, and stops at a limit with reason. -/
structure Sound {α : Type} (room : Nat) (s : List Char) (reading : Reading (α × List Char)) :
    Prop where
  rest : ∀ a rest, reading = .ok (a, rest) → rest <:+ s
  limit : ∀ limit, reading = .error (.beyond limit) → limit.Exceeded room s

theorem Limit.Exceeded.of_suffix {limit : Limit} {room : Nat} {s t : List Char} (h : t <:+ s)
    (exceeded : limit.Exceeded room t) : limit.Exceeded room s := by
  cases limit with
  | integerDigits =>
    obtain ⟨digits, inside, all, long⟩ := exceeded
    exact ⟨digits, inside.trans h.isInfix, all, long⟩
  | nesting => exact Nat.lt_of_lt_of_le exceeded (h.sublist.countP_le)

theorem skipSpace_suffix (s : List Char) : skipSpace s <:+ s := List.dropWhile_suffix _

namespace Sound

variable {α β : Type} {room : Nat} {s t : List Char} {reading : Reading (α × List Char)}

theorem ok {a : α} (h : t <:+ s) : Sound room s (.ok (a, t)) :=
  ⟨fun _ _ same => by cases same; exact h, nofun⟩

theorem fault {reason : Fault} :
    Sound room s (.error (.fault reason t) : Reading (α × List Char)) :=
  ⟨nofun, nofun⟩

theorem of_suffix (h : t <:+ s) (sound : Sound room t reading) : Sound room s reading where
  rest a rest read := (sound.rest a rest read).trans h
  limit limit stopped := (sound.limit limit stopped).of_suffix h

/-- A step behind a token and white space. -/
theorem behind {c : Char} (sound : Sound room (skipSpace s) reading) :
    Sound room (c :: s) reading :=
  sound.of_suffix ((skipSpace_suffix s).trans (List.suffix_cons ..))

/-- An opening bracket for which there is no room. -/
theorem noRoom {c : Char} (opening : isOpening c = true) :
    Sound 0 (c :: s) (.error (.beyond .nesting) : Reading (α × List Char)) where
  rest := nofun
  limit limit stopped := by
    cases stopped
    exact List.countP_pos_iff.mpr ⟨c, List.mem_cons_self .., opening⟩

/-- Behind an opening bracket there is room for one array or object less. -/
theorem opened {c : Char} (opening : isOpening c = true) (sound : Sound room s reading) :
    Sound (room + 1) (c :: s) reading where
  rest a rest read := (sound.rest a rest read).trans (List.suffix_cons ..)
  limit limit stopped := by
    have exceeded := sound.limit limit stopped
    cases limit with
    | integerDigits => exact Limit.Exceeded.of_suffix (List.suffix_cons ..) exceeded
    | nesting =>
      rw [Limit.Exceeded, List.countP_cons_of_pos opening]
      exact Nat.succ_lt_succ exceeded

theorem bind {next : α × List Char → Reading (β × List Char)} (sound : Sound room s reading)
    (later : ∀ a rest, Sound room rest (next (a, rest))) : Sound room s (reading >>= next) := by
  cases reading with
  | error stop =>
    refine ⟨nofun, fun limit stopped => sound.limit limit ?_⟩
    cases stopped
    rfl
  | ok found => exact (later found.1 found.2).of_suffix (sound.rest _ _ rfl)

theorem map {f : α × List Char → β × List Char} (keeps : ∀ found, (f found).2 = found.2)
    (sound : Sound room s reading) : Sound room s (reading.map f) := by
  cases reading with
  | error stop =>
    refine ⟨nofun, fun limit stopped => sound.limit limit ?_⟩
    cases stopped
    rfl
  | ok found => exact .ok (keeps found ▸ sound.rest _ _ rfl)

end Sound

section Tokens

variable {room : Nat}

theorem readUnits_sound (opening s : List Char) : Sound room s (readUnits opening s) := by
  fun_induction readUnits opening s with
  | case1 => exact .fault
  | case2 => exact .ok (List.suffix_cons ..)
  | case3 => exact .fault
  | case4 => exact .fault
  | case5 a b c d next rest unit quad ih =>
    refine Sound.of_suffix ⟨['\\', 'u', a, b, c, d], rfl⟩ (ih.map ?_)
    exact fun _ => rfl
  | case6 => exact .fault
  | case7 => exact .fault
  | case8 c rest other noUnicode meant escape ih =>
    refine Sound.of_suffix ⟨['\\', c], rfl⟩ (ih.map ?_)
    exact fun _ => rfl
  | case9 => exact .fault
  | case10 c rest noQuote noBackslash noUnicode noEscape printable ih =>
    refine Sound.of_suffix (List.suffix_cons ..) (ih.map ?_)
    exact fun _ => rfl

theorem readString_sound (opening s : List Char) : Sound room s (readString opening s) :=
  (readUnits_sound opening s).map fun _ => rfl

theorem readFraction_suffix (s : List Char) : (readFraction s).2 <:+ s := by
  unfold readFraction
  split
  · split
    · exact List.suffix_rfl
    · exact (List.dropWhile_suffix _).trans (List.suffix_cons ..)
  · exact List.suffix_rfl

theorem readExponent_suffix (s : List Char) : (readExponent s).2 <:+ s := by
  unfold readExponent
  split
  · rename_i letter rest
    split
    · split
      rename_i negative body sign
      have unsigned : body <:+ rest := by
        split at sign
        · cases sign
          exact List.suffix_cons ..
        · cases sign
          exact List.suffix_cons ..
        · cases sign
          exact List.suffix_rfl
      split
      · exact List.suffix_rfl
      · exact ((List.dropWhile_suffix _).trans unsigned).trans (List.suffix_cons ..)
    · exact List.suffix_rfl
  · exact List.suffix_rfl

theorem readWhole_append (s : List Char) : (readWhole s).1 ++ (readWhole s).2 = s := by
  unfold readWhole
  split
  · rfl
  · exact List.takeWhile_append_dropWhile

/-- A number stops the reader at a limit only with its own digits. -/
theorem readNumber_sound (s : List Char) : Sound room s (readNumber s) := by
  unfold readNumber
  split
  rename_i negative body sign
  have unsigned : body <:+ s := by
    split at sign
    · cases sign
      exact List.suffix_cons ..
    · cases sign
      exact List.suffix_rfl
  have parts := readWhole_append body
  have digits (c : Char) : c ∈ (readWhole body).1 → c.isDigit = true := isDigit_of_mem_readWhole
  dsimp only
  split
  · exact .fault
  · rename_i whole afterWhole _ read
    rw [read] at parts digits
    have rest : (readExponent (readFraction afterWhole).2).2 <:+ s :=
      ((readExponent_suffix _).trans (readFraction_suffix _)).trans
        (.trans ⟨whole, parts⟩ unsigned)
    split
    · split
      · rename_i long
        refine ⟨nofun, ?_⟩
        rintro _ ⟨⟩
        have inside : whole <:+: body := ⟨[], afterWhole, parts⟩
        exact ⟨whole, inside.trans unsigned.isInfix, digits, long⟩
      · exact .ok rest
    · exact .ok rest

theorem readWord?_suffix {s rest : List Char} {value : Json}
    (read : readWord? s = some (value, rest)) : rest <:+ s := by
  unfold readWord? at read
  split at read <;> cases read
  all_goals simp [List.suffix_cons_iff]

end Tokens

section Values

variable {fuel : Nat}

theorem readValue_sound (room : Nat) (s : List Char)
    (elements : ∀ room s, Sound room s (readElements fuel room s))
    (members : ∀ room s, Sound room s (readMembers fuel room s)) :
    Sound room s (readValue (fuel + 1) room s) := by
  unfold readValue
  -- By the first character: a string, a bracket without room, an object, an array, the rest.
  split
  · refine Sound.of_suffix (List.suffix_cons ..) ((readString_sound ..).bind ?_)
    exact fun text rest => .ok List.suffix_rfl
  · exact .noRoom rfl
  · exact .noRoom rfl
  · rename_i rest room
    refine Sound.opened rfl (Sound.of_suffix (skipSpace_suffix rest) ?_)
    split
    · rename_i closed
      rw [closed]
      exact .ok (List.suffix_cons ..)
    · exact (members ..).bind fun found rest => .ok List.suffix_rfl
  · rename_i rest room
    refine Sound.opened rfl (Sound.of_suffix (skipSpace_suffix rest) ?_)
    split
    · rename_i closed
      rw [closed]
      exact .ok (List.suffix_cons ..)
    · exact (elements ..).bind fun found rest => .ok List.suffix_rfl
  · split
    · rename_i word
      exact .ok (readWord?_suffix word)
    · exact readNumber_sound s

theorem readElements_sound (room : Nat) (s : List Char)
    (value : ∀ room s, Sound room s (readValue fuel room s))
    (elements : ∀ room s, Sound room s (readElements fuel room s)) :
    Sound room s (readElements (fuel + 1) room s) := by
  unfold readElements
  refine (value room s).bind fun first rest => Sound.of_suffix (skipSpace_suffix rest) ?_
  dsimp only
  split
  · rename_i closed
    rw [closed]
    exact .ok (List.suffix_cons ..)
  · rename_i after separated
    rw [separated]
    refine Sound.behind ?_
    exact (elements ..).bind fun others rest => .ok List.suffix_rfl
  · exact .fault

theorem readMembers_sound (room : Nat) (s : List Char)
    (value : ∀ room s, Sound room s (readValue fuel room s))
    (members : ∀ room s, Sound room s (readMembers fuel room s)) :
    Sound room s (readMembers (fuel + 1) room s) := by
  unfold readMembers
  split
  · refine Sound.of_suffix (List.suffix_cons ..) ((readString_sound ..).bind fun name rest => ?_)
    refine Sound.of_suffix (skipSpace_suffix rest) ?_
    dsimp only
    split
    · rename_i after colon
      rw [colon]
      refine Sound.behind ?_
      refine (value ..).bind fun first rest => Sound.of_suffix (skipSpace_suffix rest) ?_
      dsimp only
      split
      · rename_i closed
        rw [closed]
        exact .ok (List.suffix_cons ..)
      · rename_i after separated
        rw [separated]
        refine Sound.behind ?_
        exact (members ..).bind fun others rest => .ok List.suffix_rfl
      · exact .fault
    · exact .fault
  · exact .fault

/-- Whatever the fuel, the reader leaves an end of its text, and stops at a limit with reason. -/
theorem read_sound (fuel : Nat) :
    (∀ room s, Sound room s (readValue fuel room s)) ∧
      (∀ room s, Sound room s (readElements fuel room s)) ∧
      ∀ room s, Sound room s (readMembers fuel room s) := by
  induction fuel with
  | zero => exact ⟨fun _ _ => .fault, fun _ _ => .fault, fun _ _ => .fault⟩
  | succ fuel ih =>
    obtain ⟨value, elements, members⟩ := ih
    refine ⟨?_, ?_, ?_⟩
    · exact fun room s => readValue_sound room s elements members
    · exact fun room s => readElements_sound room s value elements
    · exact fun room s => readMembers_sound room s value members

end Values

/-- A document that is not read because of a limit gives a reason for it: more digits in a row than
are converted, or more opening brackets than may stand one inside the other. -/
theorem exceeded_of_parse {text : String} {limit : Limit}
    (stopped : parse text = .error (.beyond limit)) : limit.Exceeded maxDepth text.toList := by
  have document : readDocument text.toList = .error (.beyond limit) := by
    unfold parse at stopped
    dsimp only at stopped
    split at stopped
    · cases stopped
    · rename_i same
      cases stopped
      exact same
    · cases stopped
  unfold readDocument at document
  split at document
  · cases document
  split at document
  · rename_i failed
    cases document
    exact ((read_sound _).1 _ _).limit limit failed |>.of_suffix (skipSpace_suffix _)
  · split at document <;> cases document

/-- The power of ten that has one digit too many. -/
theorem not_convertible_pow : ¬Convertible (10 ^ maxIntegerDigits) := by
  have pos : 0 < maxIntegerDigits := by decide
  rw [Convertible, Int.natAbs_pow, Nat.length_toDigits_le_iff (by decide) pos]
  -- The power is never evaluated.
  generalize maxIntegerDigits = most
  exact Nat.lt_irrefl _

/-- An integer that is not convertible stops the reader. -/
theorem parse_of_not_convertible {n : Int} (long : ¬Convertible n) :
    parse (String.ofList (IntegerText.digits n)) = .error (.beyond .integerDigits) := by
  have ended : Delimited [] := fun c head => by cases head
  have stopped (fuel room : Nat) :
      readValue (fuel + 1) room (IntegerText.digits n) = .error (.beyond .integerDigits) := by
    rw [← List.append_nil (IntegerText.digits n), readValue_written, readNumber_written n ended,
      if_pos (Nat.lt_of_not_le long)]
  obtain ⟨c, rest, written, visible, noMark⟩ : ∃ c rest, IntegerText.digits n = c :: rest ∧
      isSpace c = false ∧ c ≠ '\uFEFF' := by
    obtain ⟨first, others, digit, written | written⟩ := digits_cases n
    · exact ⟨_, _, written, (isSpace_of_isDigit digit).1, (isSpace_of_isDigit digit).2.2⟩
    · exact ⟨_, _, written, by decide⟩
  have document : readDocument (IntegerText.digits n) = .error (.beyond .integerDigits) := by
    rw [written] at stopped ⊢
    unfold readDocument
    split
    · exact absurd (List.cons.inj ‹_›).1 noMark
    · rw [skipSpace_of_visible rest visible, stopped]
  rw [parse, String.toList_ofList, document]

end SchemaWeaver.Json

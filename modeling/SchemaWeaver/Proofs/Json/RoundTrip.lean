import SchemaWeaver.Proofs.Json.Integers
import SchemaWeaver.Proofs.Json.Strings
import SchemaWeaver.Proofs.OrderedMap

/-!
# Documents are read back

A value that is written as an indented document is read back as the same value. It must be plain:
without binary numbers, with integers that the reader converts, without a name that stands twice in
an object, and not nested more deeply than the reader goes.

The reader takes one unit of fuel with every call. At least one character goes with every call, so
fuel for the length of what is written is enough.
-/

namespace SchemaWeaver.Json

open SchemaWeaver.Text

/-- A value that the reader gives back, where it goes into `room` more levels of nesting. -/
inductive Plain : (room : Nat) → Json → Prop
  | null {room : Nat} : Plain room null
  | bool {room : Nat} (value : Bool) : Plain room (bool value)
  | int {room : Nat} {value : Int} (convertible : Convertible value) : Plain room (int value)
  | str {room : Nat} (value : String) : Plain room (str value)
  | arr {room : Nat} {elements : List Json} (each : ∀ element ∈ elements, Plain room element) :
    Plain (room + 1) (arr elements)
  | obj {room : Nat} {members : List (String × Json)} (names : (members.map Prod.fst).Nodup)
    (each : ∀ member ∈ members, Plain room member.2) : Plain (room + 1) (obj members)

/-- Members without repeated names are the members of the object. -/
theorem ofMembers_of_nodup {members : List (String × Json)}
    (names : (members.map Prod.fst).Nodup) : ofMembers members = obj members :=
  congrArg obj (foldl_upsert_of_nodup names)

section Layout

variable (level : Nat)

/-- A member of an object: its name, a colon and its value. -/
def writeMember (member : String × Json) : List Char :=
  writeString member.1 ++ ':' :: ' ' :: write level member.2

theorem write_arr_cons (first : Json) (others : List Json) :
    write level (arr (first :: others)) =
      '[' :: (lineBreak (level + 1) ++ (write (level + 1) first ++
        (writeElements (level + 1) others ++ (lineBreak level ++ [']'])))) := by
  simp [write]

theorem writeElements_cons (first : Json) (others : List Json) :
    writeElements level (first :: others) =
      ',' :: (lineBreak level ++ (write level first ++ writeElements level others)) := by
  simp [writeElements]

theorem write_obj_cons (first : String × Json) (others : List (String × Json)) :
    write level (obj (first :: others)) =
      '{' :: (lineBreak (level + 1) ++ (writeMember (level + 1) first ++
        (writeMembers (level + 1) others ++ (lineBreak level ++ ['}'])))) := by
  simp [write, writeMember]

theorem writeMembers_cons (first : String × Json) (others : List (String × Json)) :
    writeMembers level (first :: others) =
      ',' :: (lineBreak level ++ (writeMember level first ++ writeMembers level others)) := by
  simp [writeMembers, writeMember]

end Layout

section Spaces

theorem skipSpace_lineBreak (level : Nat) {c : Char} (rest : List Char)
    (visible : isSpace c = false) : skipSpace (lineBreak level ++ c :: rest) = c :: rest := by
  have blanks : ∀ d ∈ lineBreak level, isSpace d = true := by
    intro d member
    rcases List.mem_cons.mp member with rfl | blank
    · rfl
    · exact List.eq_of_mem_replicate blank ▸ rfl
  rw [skipSpace, List.dropWhile_append_of_pos blanks, List.dropWhile_cons_of_neg]
  simp [visible]

theorem skipSpace_of_visible {c : Char} (rest : List Char) (visible : isSpace c = false) :
    skipSpace (c :: rest) = c :: rest :=
  List.dropWhile_cons_of_neg (by simp [visible])

end Spaces

theorem isSpace_of_isDigit {c : Char} (digit : c.isDigit = true) :
    isSpace c = false ∧ c ≠ ']' ∧ c ≠ '\uFEFF' := by
  refine ⟨?_, ?_, ?_⟩
  · simp only [isSpace, Bool.or_eq_false_iff, beq_eq_false_iff_ne]
    refine ⟨⟨⟨?_, ?_⟩, ?_⟩, ?_⟩
    all_goals
      rintro rfl
      exact absurd digit (by decide)
  all_goals
    rintro rfl
    exact absurd digit (by decide)

/-- What a value starts with: no white space, no closing bracket, no byte order mark. -/
theorem write_eq_cons (level : Nat) {room : Nat} {value : Json} (plain : Plain room value) :
    ∃ c rest, write level value = c :: rest ∧ isSpace c = false ∧ c ≠ ']' ∧ c ≠ '\uFEFF' := by
  cases plain with
  | null => exact ⟨_, _, rfl, by decide⟩
  | bool value => cases value <;> exact ⟨_, _, rfl, by decide⟩
  | @int _ n convertible =>
    obtain ⟨first, others, digit, written | written⟩ := digits_cases n
    · exact ⟨_, _, written, isSpace_of_isDigit digit⟩
    · exact ⟨_, _, written, by decide⟩
  | str value => exact ⟨_, _, rfl, by decide⟩
  | @arr _ elements each =>
    cases elements with
    | nil => exact ⟨_, _, by rw [write], by decide⟩
    | cons first others => exact ⟨_, _, write_arr_cons level first others, by decide⟩
  | @obj _ members names each =>
    cases members with
    | nil => exact ⟨_, _, by rw [write], by decide⟩
    | cons first others => exact ⟨_, _, write_obj_cons level first others, by decide⟩

section Leaves

variable (fuel room : Nat)

theorem readValue_writeString (text : String) (rest : List Char) :
    readValue (fuel + 1) room (writeString text ++ rest) = .ok (.str text, rest) := by
  obtain ⟨body, shape, read⟩ := readString_writeString (writeString text ++ rest) text rest
  rw [shape] at read ⊢
  unfold readValue
  simp only [read]
  rfl

/-- A value that starts like a number is read as a number, unless it is a word. -/
private theorem readValue_of_number {s : List Char}
    (starts : ∀ c, s.head? = some c → c = '-' ∨ c.isDigit = true) (noWord : readWord? s = none) :
    readValue (fuel + 1) room s = readNumber s := by
  unfold readValue
  split
  · exact absurd (starts _ rfl) (by decide)
  · exact absurd (starts _ rfl) (by decide)
  · exact absurd (starts _ rfl) (by decide)
  · exact absurd (starts _ rfl) (by decide)
  · exact absurd (starts _ rfl) (by decide)
  · rw [noWord]

/-- An integer that is written is read as a number. -/
theorem readValue_written (n : Int) (rest : List Char) :
    readValue (fuel + 1) room (IntegerText.digits n ++ rest) =
      readNumber (IntegerText.digits n ++ rest) := by
  apply readValue_of_number
  · intro c head
    obtain ⟨first, others, digit, written | written⟩ := digits_cases n
    · rw [written] at head
      cases head
      exact .inr digit
    · rw [written] at head
      cases head
      exact .inl rfl
  · exact readWord?_digits n rest

theorem readValue_digits {n : Int} (convertible : Convertible n) {rest : List Char}
    (delimited : Delimited rest) :
    readValue (fuel + 1) room (IntegerText.digits n ++ rest) = .ok (.int n, rest) := by
  rw [readValue_written, readNumber_digits convertible delimited]

end Leaves

section Rules

variable {fuel room : Nat} {s after next rest : List Char}

theorem readValue_elements {inside : List Char} {elements : List Json}
    (first : skipSpace s = inside) (nonempty : ∀ more, inside ≠ ']' :: more)
    (read : readElements fuel room inside = .ok (elements, rest)) :
    readValue (fuel + 1) (room + 1) ('[' :: s) = .ok (.arr elements, rest) := by
  rw [readValue]
  split
  · rename_i more close
    exact absurd (first.symm.trans close) (nonempty more)
  · rw [first, read]
    rfl

theorem readValue_members {inside : List Char} {members : List (String × Json)}
    (first : skipSpace s = inside) (nonempty : ∀ more, inside ≠ '}' :: more)
    (read : readMembers fuel room inside = .ok (members, rest)) :
    readValue (fuel + 1) (room + 1) ('{' :: s) = .ok (.ofMembers members, rest) := by
  rw [readValue]
  split
  · rename_i more close
    exact absurd (first.symm.trans close) (nonempty more)
  · rw [first, read]
    rfl

theorem readElements_last {value : Json} (read : readValue fuel room s = .ok (value, after))
    (close : skipSpace after = ']' :: rest) :
    readElements (fuel + 1) room s = .ok ([value], rest) := by
  simp only [readElements, read, close, bind, Except.bind, pure, Except.pure]

theorem readElements_more {value : Json} {others : List Json}
    (read : readValue fuel room s = .ok (value, after)) (comma : skipSpace after = ',' :: next)
    (more : readElements fuel room (skipSpace next) = .ok (others, rest)) :
    readElements (fuel + 1) room s = .ok (value :: others, rest) := by
  simp only [readElements, read, comma, more, bind, Except.bind, pure, Except.pure]

variable {name : String} {value : Json} {content : List Char}

theorem readMembers_last (read : readValue fuel room (skipSpace content) = .ok (value, after))
    (close : skipSpace after = '}' :: rest) :
    readMembers (fuel + 1) room (writeString name ++ ':' :: content) =
      .ok ([(name, value)], rest) := by
  obtain ⟨body, shape, readName⟩ := readString_writeString (writeString name ++ ':' :: content) name
    (':' :: content)
  have separated : skipSpace (':' :: content) = ':' :: content := skipSpace_of_visible content rfl
  rw [shape] at readName ⊢
  simp only [readMembers, readName, separated, read, close, bind, Except.bind, pure, Except.pure]

theorem readMembers_more {others : List (String × Json)}
    (read : readValue fuel room (skipSpace content) = .ok (value, after))
    (comma : skipSpace after = ',' :: next)
    (more : readMembers fuel room (skipSpace next) = .ok (others, rest)) :
    readMembers (fuel + 1) room (writeString name ++ ':' :: content) =
      .ok ((name, value) :: others, rest) := by
  obtain ⟨body, shape, readName⟩ := readString_writeString (writeString name ++ ':' :: content) name
    (':' :: content)
  have separated : skipSpace (':' :: content) = ':' :: content := skipSpace_of_visible content rfl
  rw [shape] at readName ⊢
  simp only [readMembers, readName, separated, read, comma, more, bind, Except.bind, pure,
    Except.pure]

end Rules

section Nesting

theorem delimited_nil : Delimited [] := nofun

theorem delimited_comma (rest : List Char) : Delimited (',' :: rest) := by
  rintro c ⟨⟩
  exact .inl rfl

theorem delimited_lineBreak (level : Nat) (rest : List Char) :
    Delimited (lineBreak level ++ rest) := by
  rintro c ⟨⟩
  exact .inr rfl

theorem delimited_writeElements (level outer : Nat) (others : List Json) (rest : List Char) :
    Delimited (writeElements level others ++ (lineBreak outer ++ rest)) := by
  cases others with
  | nil => exact delimited_lineBreak outer rest
  | cons first others =>
    rw [writeElements_cons, List.cons_append]
    exact delimited_comma _

theorem delimited_writeMembers (level outer : Nat) (others : List (String × Json))
    (rest : List Char) : Delimited (writeMembers level others ++ (lineBreak outer ++ rest)) := by
  cases others with
  | nil => exact delimited_lineBreak outer rest
  | cons first others =>
    rw [writeMembers_cons, List.cons_append]
    exact delimited_comma _

/-- With enough fuel, a value is read from what is written for it. -/
def Reads (room : Nat) (value : Json) : Prop :=
  ∀ level fuel rest, (write level value).length ≤ fuel → Delimited rest →
    readValue fuel room (write level value ++ rest) = .ok (value, rest)

variable {room : Nat}

theorem skipSpace_write {value : Json} (plain : Plain room value) (level : Nat) (rest : List Char) :
    skipSpace (lineBreak level ++ (write level value ++ rest)) = write level value ++ rest := by
  obtain ⟨c, body, shape, visible, -⟩ := write_eq_cons level plain
  rw [shape, List.cons_append]
  exact skipSpace_lineBreak level _ visible

/-- The elements of an array are read up to the closing bracket, each with fuel for its text. -/
theorem readElements_write (level outer : Nat) (rest : List Char) (first : Json)
    (others : List Json) (fuel : Nat)
    (each : ∀ element ∈ first :: others, Plain room element ∧ Reads room element)
    (enough : (write level first).length + (writeElements level others).length ≤ fuel) :
    readElements (fuel + 1) room
        (write level first ++ (writeElements level others ++ (lineBreak outer ++ ']' :: rest))) =
      .ok (first :: others, rest) := by
  have read := (each first (List.mem_cons_self ..)).2 level fuel _ (by omega)
    (delimited_writeElements level outer others (']' :: rest))
  induction others generalizing first fuel with
  | nil => exact readElements_last read (skipSpace_lineBreak outer rest rfl)
  | cons second more ih =>
    have later : ∀ element ∈ second :: more, Plain room element ∧ Reads room element :=
      fun element member => each element (List.mem_cons_of_mem first member)
    have next := later second (List.mem_cons_self ..)
    rw [writeElements_cons] at read enough ⊢
    simp only [List.length_cons, List.length_append] at enough
    simp only [List.cons_append, List.append_assoc] at read ⊢
    obtain ⟨fuel, rfl⟩ : ∃ less, fuel = less + 1 := ⟨fuel - 1, by omega⟩
    refine readElements_more read (skipSpace_of_visible _ rfl) ?_
    rw [skipSpace_write next.1]
    exact ih second fuel later (by omega) (next.2 level fuel _ (by omega)
      (delimited_writeElements level outer more (']' :: rest)))

theorem skipSpace_writeMember (level : Nat) (member : String × Json) (rest : List Char) :
    skipSpace (lineBreak level ++ (writeMember level member ++ rest)) =
      writeMember level member ++ rest :=
  skipSpace_lineBreak level _ rfl

theorem writeMember_append (level : Nat) (member : String × Json) (rest : List Char) :
    writeMember level member ++ rest =
      writeString member.1 ++ ':' :: ' ' :: (write level member.2 ++ rest) := by
  simp [writeMember]

theorem length_write_lt_writeMember (level : Nat) (member : String × Json) :
    (write level member.2).length < (writeMember level member).length := by
  simp only [writeMember, List.length_append, List.length_cons]
  omega

/-- The value of a member is read behind the blank that follows the colon. -/
theorem readValue_of_blank {value : Json} (plain : Plain room value) (reads : Reads room value)
    (level : Nat) {fuel : Nat} {rest : List Char} (enough : (write level value).length ≤ fuel)
    (delimited : Delimited rest) :
    readValue fuel room (skipSpace (' ' :: (write level value ++ rest))) = .ok (value, rest) := by
  obtain ⟨c, body, shape, visible, -⟩ := write_eq_cons level plain
  have blank : skipSpace (' ' :: (write level value ++ rest)) = write level value ++ rest := by
    rw [shape]
    exact skipSpace_of_visible (body ++ rest) visible
  rw [blank]
  exact reads level fuel rest enough delimited

/-- The members of an object are read up to the closing brace, each with fuel for its text. -/
theorem readMembers_write (level outer : Nat) (rest : List Char) (first : String × Json)
    (others : List (String × Json)) (fuel : Nat)
    (each : ∀ member ∈ first :: others, Plain room member.2 ∧ Reads room member.2)
    (enough : (writeMember level first).length + (writeMembers level others).length ≤ fuel) :
    readMembers (fuel + 1) room (writeMember level first ++
        (writeMembers level others ++ (lineBreak outer ++ '}' :: rest))) =
      .ok (first :: others, rest) := by
  induction others generalizing first fuel with
  | nil =>
    obtain ⟨plain, reads⟩ := each first (List.mem_cons_self ..)
    have short := length_write_lt_writeMember level first
    rw [writeMember_append]
    exact readMembers_last
      (readValue_of_blank plain reads level (by omega) (delimited_writeMembers level outer [] _))
      (skipSpace_lineBreak outer rest rfl)
  | cons second more ih =>
    obtain ⟨plain, reads⟩ := each first (List.mem_cons_self ..)
    have short := length_write_lt_writeMember level first
    have later : ∀ member ∈ second :: more, Plain room member.2 ∧ Reads room member.2 :=
      fun member inside => each member (List.mem_cons_of_mem first inside)
    have read : readValue fuel room _ = _ := readValue_of_blank plain reads level (by omega)
      (delimited_writeMembers level outer (second :: more) ('}' :: rest))
    rw [writeMembers_cons] at read enough ⊢
    simp only [List.length_cons, List.length_append] at enough
    simp only [List.cons_append, List.append_assoc] at read ⊢
    obtain ⟨fuel, rfl⟩ : ∃ less, fuel = less + 1 := ⟨fuel - 1, by omega⟩
    rw [writeMember_append]
    refine readMembers_more read (skipSpace_of_visible _ rfl) ?_
    rw [skipSpace_writeMember]
    exact ih second fuel later (by omega)

/-- No value is written as nothing, so some fuel is there. -/
theorem Plain.reads_of_succ {value : Json} (plain : Plain room value)
    (read : ∀ level fuel rest, (write level value).length ≤ fuel + 1 → Delimited rest →
      readValue (fuel + 1) room (write level value ++ rest) = .ok (value, rest)) :
    Reads room value := by
  intro level fuel rest enough delimited
  obtain ⟨c, body, shape, -⟩ := write_eq_cons level plain
  have some : 0 < (write level value).length := by
    rw [shape]
    exact Nat.succ_pos _
  obtain ⟨fuel, rfl⟩ : ∃ less, fuel = less + 1 := ⟨fuel - 1, by omega⟩
  exact read level fuel rest enough delimited

theorem readValue_writeElements (level fuel : Nat) (rest : List Char) (first : Json)
    (others : List Json)
    (each : ∀ element ∈ first :: others, Plain room element ∧ Reads room element)
    (enough : (write level (arr (first :: others))).length ≤ fuel + 1) :
    readValue (fuel + 1) (room + 1) (write level (arr (first :: others)) ++ rest) =
      .ok (arr (first :: others), rest) := by
  have plain := (each first (List.mem_cons_self ..)).1
  obtain ⟨c, body, shape, -, bracket, -⟩ := write_eq_cons (level + 1) plain
  rw [write_arr_cons] at enough ⊢
  simp only [List.length_cons, List.length_append, lineBreak] at enough
  simp only [List.cons_append, List.append_assoc, List.nil_append]
  obtain ⟨fuel, rfl⟩ : ∃ less, fuel = less + 1 := ⟨fuel - 1, by omega⟩
  refine readValue_elements (skipSpace_write plain (level + 1) _) ?_
    (readElements_write (level + 1) level rest first others fuel each (by omega))
  intro more close
  rw [shape] at close
  exact bracket (List.cons.inj close).1

theorem readValue_writeMembers (level fuel : Nat) (rest : List Char) (first : String × Json)
    (others : List (String × Json)) (names : ((first :: others).map Prod.fst).Nodup)
    (each : ∀ member ∈ first :: others, Plain room member.2 ∧ Reads room member.2)
    (enough : (write level (obj (first :: others))).length ≤ fuel + 1) :
    readValue (fuel + 1) (room + 1) (write level (obj (first :: others)) ++ rest) =
      .ok (obj (first :: others), rest) := by
  rw [write_obj_cons] at enough ⊢
  simp only [List.length_cons, List.length_append, lineBreak] at enough
  simp only [List.cons_append, List.append_assoc, List.nil_append]
  rw [← ofMembers_of_nodup names]
  obtain ⟨fuel, rfl⟩ : ∃ less, fuel = less + 1 := ⟨fuel - 1, by omega⟩
  refine readValue_members (skipSpace_writeMember (level + 1) first _) ?_
    (readMembers_write (level + 1) level rest first others fuel each (by omega))
  intro more close
  exact absurd (List.cons.inj close).1 (by decide)

/-- A plain value is read from what is written for it, and what follows is left. -/
theorem Plain.reads {value : Json} (plain : Plain room value) : Reads room value := by
  refine plain.reads_of_succ ?_
  induction plain with
  | null => exact fun _ _ _ _ _ => rfl
  | bool value => cases value <;> exact fun _ _ _ _ _ => rfl
  | int convertible =>
    intro level fuel rest _ delimited
    exact readValue_digits fuel _ convertible delimited
  | str value =>
    intro level fuel rest _ _
    exact readValue_writeString fuel _ value rest
  | @arr room elements each ih =>
    have reads : ∀ element ∈ elements, Plain room element ∧ Reads room element :=
      fun element member =>
        ⟨each element member, (each element member).reads_of_succ (ih element member)⟩
    intro level fuel rest enough _
    cases elements with
    | nil => rfl
    | cons first others => exact readValue_writeElements level fuel rest first others reads enough
  | @obj room members names each ih =>
    have reads : ∀ member ∈ members, Plain room member.2 ∧ Reads room member.2 :=
      fun entry member => ⟨each entry member, (each entry member).reads_of_succ (ih entry member)⟩
    intro level fuel rest enough _
    cases members with
    | nil => rfl
    | cons first others =>
      exact readValue_writeMembers level fuel rest first others names reads enough

/-- A document that is written for a plain value is read as this value. -/
theorem parse_pretty {value : Json} (plain : Plain maxDepth value) :
    parse value.pretty = .ok value := by
  obtain ⟨c, body, shape, visible, -, mark⟩ := write_eq_cons 0 plain
  have start : skipSpace (write 0 value) = write 0 value := by
    rw [shape]
    exact skipSpace_of_visible body visible
  have read := plain.reads 0 (2 * (write 0 value).length + 2) [] (by omega) delimited_nil
  have document : readDocument (write 0 value) = .ok value := by
    unfold readDocument
    split
    · rename_i marked
      exact absurd (List.cons.inj (shape.symm.trans marked)).1 mark
    · rw [List.append_nil] at read
      rw [start, read]
      rfl
  rw [parse, pretty, String.toList_ofList, document]

end Nesting

section LineEnds

theorem carriageReturn_notMem_lineBreak (level : Nat) : '\r' ∉ lineBreak level := by
  intro member
  rcases List.mem_cons.mp member with lineFeed | blank
  · exact absurd lineFeed (by decide)
  · exact absurd (List.eq_of_mem_replicate blank) (by decide)

theorem carriageReturn_notMem_digits (n : Int) : '\r' ∉ IntegerText.digits n := by
  have noDigit : '\r' ∉ Nat.toDigits 10 n.natAbs := fun member =>
    absurd (isDigit_of_mem_toDigits member) (by decide)
  rw [IntegerText.digits]
  split
  · simp [noDigit]
  · exact noDigit

/-- A document has no carriage returns: those inside strings are escaped. -/
theorem Plain.carriageReturn_notMem {room : Nat} {value : Json} (plain : Plain room value)
    (level : Nat) : '\r' ∉ write level value := by
  induction plain generalizing level with
  | null => simp [write]
  | bool value => cases value <;> simp [write]
  | int convertible => exact carriageReturn_notMem_digits _
  | str value => exact carriageReturn_notMem_writeString value
  | @arr room elements each ih =>
    have tail (others : List Json) (inside : ∀ element ∈ others, element ∈ elements) (level : Nat) :
        '\r' ∉ writeElements level others := by
      induction others with
      | nil => simp [writeElements]
      | cons first others rest =>
        have head := ih first (inside first (List.mem_cons_self ..)) level
        have later := rest fun element member => inside element (List.mem_cons_of_mem first member)
        simp [writeElements_cons, carriageReturn_notMem_lineBreak, head, later]
    cases elements with
    | nil => simp [write]
    | cons first others =>
      have head := ih first (List.mem_cons_self ..) (level + 1)
      have later := tail others (fun _ => List.mem_cons_of_mem first) (level + 1)
      simp [write_arr_cons, carriageReturn_notMem_lineBreak, head, later]
  | @obj room members names each ih =>
    have entry (member : String × Json) (inside : member ∈ members) (level : Nat) :
        '\r' ∉ writeMember level member := by
      simp [writeMember, carriageReturn_notMem_writeString, ih member inside level]
    have tail (others : List (String × Json)) (inside : ∀ member ∈ others, member ∈ members)
        (level : Nat) : '\r' ∉ writeMembers level others := by
      induction others with
      | nil => simp [writeMembers]
      | cons first others rest =>
        have head := entry first (inside first (List.mem_cons_self ..)) level
        have later := rest fun member among => inside member (List.mem_cons_of_mem first among)
        simp [writeMembers_cons, carriageReturn_notMem_lineBreak, head, later]
    cases members with
    | nil => simp [write]
    | cons first others =>
      have head := entry first (List.mem_cons_self ..) (level + 1)
      have later := tail others (fun _ => List.mem_cons_of_mem first) (level + 1)
      simp [write_obj_cons, carriageReturn_notMem_lineBreak, head, later]

end LineEnds

end SchemaWeaver.Json

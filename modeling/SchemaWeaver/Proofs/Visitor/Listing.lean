import SchemaWeaver.Proofs.Text.Segments
import SchemaWeaver.Proofs.Visitor.Attribute
import SchemaWeaver.Proofs.Visitor.Blanks

/-!
# Payloads that list items

The texts of a payload list items between commas. For derived traits `segmentsOf_lists` says which
items these are, and that neither joining the texts nor spreading the items over several texts
changes them. For data classes the items are flags, which become keywords of the decorator:
`dataclass_decorates` says when there is a decorator, and that it is a valid call exactly when no
flag is listed twice. Listed flags are not made distinct.
-/

namespace SchemaWeaver

open Text

namespace Visitor

/-- The segments of a payload are the items that its texts list: nothing but commas, blank parts and
blank characters at the ends of parts is lost, and the order is kept. No item is blank, has blank
characters at its ends or a comma in it. What lists of texts list is put together when the texts
are; the joined text lists the same as the texts; and items that are joined are listed as they
were. -/
theorem segmentsOf_lists (p : Payload) :
    (∀ items, Lists p.values items ↔ segmentsOf p = items) ∧
    (∀ item ∈ segmentsOf p, IsItem item) ∧
    (∀ values values', segmentsOf (p.withValues (values ++ values')) =
      segmentsOf (p.withValues values) ++ segmentsOf (p.withValues values')) ∧
    segmentsOf (p.withValues [p.text]) = segmentsOf p ∧
    ∀ items, (∀ item ∈ items, IsItem item) →
      segmentsOf (p.withValues [commaJoined items]) = items := by
  have joined (values : List String) :
      segmentsOf (p.withValues [commaJoined values]) = values.flatMap segments := by
    rw [segmentsOf, Payload.withValues, List.flatMap_singleton, segments_commaJoined]
  refine ⟨fun items => lists_iff, ?_, fun values values' => List.flatMap_append, joined p.values,
    fun items isItem => (joined items).trans (flatMap_segments_of_items isItem)⟩
  intro item member
  obtain ⟨value, -, present⟩ := List.mem_flatMap.mp member
  exact isItem_of_mem_segments present

/-- Traits with blank characters around them, blank parts, a blank text and a repeated trait. -/
def scatteredTraits : Payload := ⟨"derive", [" Clone ,, Debug", "\t", "serde::Serialize,Clone"], ∅⟩

theorem segmentsOf_lists_scattered :
    let items := ["Clone", "Debug", "serde::Serialize", "Clone"]
    segmentsOf scatteredTraits = items ∧ Lists scatteredTraits.values items ∧
      (∀ item ∈ items, IsItem item) ∧
      segmentsOf (scatteredTraits.withValues ["Clone, Debug, serde::Serialize, Clone"]) =
        items := by
  intro items
  obtain ⟨lists, isItem, -, -, undone⟩ := segmentsOf_lists scatteredTraits
  have given : segmentsOf scatteredTraits = items := by decide
  have isItem' : ∀ item ∈ items, IsItem item := given ▸ isItem
  have spelled : commaJoined items = "Clone, Debug, serde::Serialize, Clone" := by decide
  exact ⟨given, (lists items).mpr given, isItem', spelled ▸ undone items isItem'⟩

end Visitor

theorem Attribute.not_isBlank_of_isWordChar {c : Char} (h : Attribute.isWordChar c = true) :
    isBlank c = false := by
  have ranges : c.toNat = 95 ∨ 48 ≤ c.toNat ∧ c.toNat ≤ 57 ∨ 65 ≤ c.toNat ∧ c.toNat ≤ 90 ∨
      97 ≤ c.toNat ∧ c.toNat ≤ 122 := by
    delta Attribute.isWordChar Char.isAlphanum Char.isAlpha Char.isUpper Char.isLower
      Char.isDigit at h
    simp only [Bool.or_eq_true, Bool.and_eq_true, decide_eq_true_eq, ge_iff_le,
      UInt32.le_iff_toNat_le] at h
    rcases h with ((upper | lower) | digit) | rfl
    · exact .inr (.inr (.inl upper))
    · exact .inr (.inr (.inr lower))
    · exact .inr (.inl digit)
    · exact .inl rfl
  simp only [isBlank, Bool.or_eq_false_iff, Bool.and_eq_false_iff, decide_eq_false_iff_not,
    beq_eq_false_iff_ne]
  omega

namespace Decorator

/-- The decorator of a data class that passes the given keywords as true. -/
def text (keywords : List String) : String :=
  if keywords = [] then "@dataclass"
  else "@dataclass(" ++ commaJoined (keywords.map fun keyword => keyword ++ "=True") ++ ")"

/-- A decorator whose keywords are distinct words. A call with a repeated keyword has no meaning. -/
def IsValid (decorator : String) : Prop :=
  ∃ keywords, (∀ keyword ∈ keywords, Attribute.IsWord keyword) ∧ keywords.Nodup ∧
    decorator = text keywords

variable {keywords keywords' : List String}

/-- A keyword and its value have no blank character and no comma. -/
theorem isItem_argument {keyword : String} (isWord : Attribute.IsWord keyword) :
    IsItem (keyword ++ "=True") := by
  have visible : ∀ c ∈ (keyword ++ "=True").toList, isBlank c = false := by
    intro c member
    rw [String.toList_append] at member
    rcases List.mem_append.mp member with inner | value
    · exact Attribute.not_isBlank_of_isWordChar (List.all_eq_true.mp isWord.2 c inner)
    · have printed : "=True".toList.all (fun c => !isBlank c) = true := by decide
      simpa using List.all_eq_true.mp printed c value
  have nonempty : (keyword ++ "=True").toList ≠ [] := by simp
  refine ⟨?_, ⟨fun c first => visible c (List.mem_of_mem_head? first),
    fun c last => visible c (List.mem_of_mem_getLast? last)⟩, ?_⟩
  · obtain ⟨c, member⟩ := List.exists_mem_of_ne_nil _ nonempty
    exact List.all_eq_false.mpr ⟨c, member, by simp [visible c member]⟩
  · rw [String.toList_append, List.mem_append, not_or]
    refine ⟨fun inner => ?_, by decide⟩
    exact absurd (List.all_eq_true.mp isWord.2 ',' inner) (by decide)

/-- The keywords can be told from the decorator. -/
theorem text_injective (words : ∀ keyword ∈ keywords, Attribute.IsWord keyword)
    (words' : ∀ keyword ∈ keywords', Attribute.IsWord keyword)
    (same : text keywords = text keywords') : keywords = keywords' := by
  have items {keywords : List String} (words : ∀ keyword ∈ keywords, Attribute.IsWord keyword) :
      ∀ item ∈ keywords.map fun keyword => keyword ++ "=True", IsItem item := by
    intro item member
    obtain ⟨keyword, present, rfl⟩ := List.mem_map.mp member
    exact isItem_argument (words keyword present)
  have bare (inner : String) : "@dataclass" ≠ "@dataclass(" ++ inner ++ ")" := by
    intro h
    have := congrArg (fun s => s.toList.length) h
    simp at this
  rw [text, text] at same
  by_cases none : keywords = [] <;> by_cases none' : keywords' = []
  · rw [none, none']
  · rw [if_pos none, if_neg none'] at same
    exact absurd same (bare _)
  · rw [if_neg none, if_pos none'] at same
    exact absurd same.symm (bare _)
  · rw [if_neg none, if_neg none'] at same
    have inner := commaJoined_injective (items words) (items words')
      ((String.append_right_inj _).mp ((String.append_left_inj _).mp same))
    have injective : Function.Injective fun keyword : String => keyword ++ "=True" :=
      fun _ _ h => (String.append_left_inj _).mp h
    exact injective.list_map inner

theorem isValid_text_iff (words : ∀ keyword ∈ keywords, Attribute.IsWord keyword) :
    IsValid (text keywords) ↔ keywords.Nodup := by
  constructor
  · rintro ⟨keywords', words', nodup, same⟩
    exact text_injective words words' same ▸ nodup
  · intro nodup
    exact ⟨keywords, words, nodup, rfl⟩

end Decorator

/-- A contribution to a type that is one decorator and nothing else. -/
structure Contribution.IsDecorator (decorator : String) (c : Contribution) : Prop where
  shape_eq : c.shape = .pythonType
  action_eq : c.action = .keep
  rows_eq : c.rows = [("decorators", decorator)]

namespace Visitor

variable {σ : Type}

theorem isWord_of_mem_dataclassFlags :
    ∀ flag ∈ dataclassFlags, Attribute.IsWord flag := by decide

/-- What the hook on records answers. -/
theorem dataclass_run_record (p : Payload) {t : TypeDefinition} (isRecord : t.body.kind = .record)
    (state : σ) : (dataclass.hook ⟨p, .type t, none⟩).run state =
      (if (segmentsOf p).all dataclassFlags.contains then
        .contribution (.ofLists .pythonType [("decorators", [Decorator.text (segmentsOf p)])])
      else .nothing, state) := by
  rw [dataclass, run_ofFunction rfl]
  obtain ⟨header, typeId, body⟩ := t
  cases body with
  | record fields =>
    have written : (if (segmentsOf p).isEmpty then "@dataclass"
        else "@dataclass(" ++ commaJoined ((segmentsOf p).map fun flag => flag ++ "=True") ++ ")") =
          Decorator.text (segmentsOf p) := by
      simp only [Decorator.text, List.isEmpty_iff]
    dsimp only
    rw [written]
    split <;> rfl
  | variant | enum | flags | resource => cases isRecord

/-- The decorator of a data class. The texts of a payload list flags; there is no decorator exactly
when one of them is unknown. Otherwise there is one, which passes the flags in the order in which
they are listed, each as often as it is listed. So it is a valid call exactly when no flag is listed
twice. -/
theorem dataclass_decorates (p : Payload) (t : TypeDefinition) (isRecord : t.body.kind = .record)
    (state : σ) :
    ∃ flags, (∀ items, Lists p.values items ↔ flags = items) ∧
      (((∃ flag ∈ flags, flag ∉ ["frozen", "slots", "kw_only", "order"]) ∧
          (dataclass.hook ⟨p, .type t, none⟩).run state = (.nothing, state)) ∨
        ((∀ flag ∈ flags, flag ∈ ["frozen", "slots", "kw_only", "order"]) ∧
          ∃ c, (dataclass.hook ⟨p, .type t, none⟩).run state = (.contribution c, state) ∧
            c.IsDecorator (Decorator.text flags) ∧
            (Decorator.IsValid (Decorator.text flags) ↔ flags.Nodup))) := by
  refine ⟨segmentsOf p, fun items => lists_iff, ?_⟩
  rw [dataclass_run_record p isRecord state]
  by_cases known : (segmentsOf p).all dataclassFlags.contains = true
  · rw [if_pos known]
    have known' : ∀ flag ∈ segmentsOf p, flag ∈ dataclassFlags := by
      simpa using known
    have words : ∀ flag ∈ segmentsOf p, Attribute.IsWord flag := fun flag listed =>
      isWord_of_mem_dataclassFlags flag (known' flag listed)
    exact .inr ⟨known', _, rfl, ⟨rfl, rfl, rfl⟩, Decorator.isValid_text_iff words⟩
  · rw [if_neg known]
    have unknown : ∃ flag ∈ segmentsOf p, flag ∉ dataclassFlags := by
      simpa using known
    exact .inl ⟨unknown, rfl⟩

/-- A record without fields. -/
def bareRecord : TypeDefinition := ⟨⟨"point", none, []⟩, 0, .record []⟩

theorem dataclass_decorates_scattered :
    bareRecord.body.kind = .record ∧
    ∃ c, (dataclass.hook ⟨⟨"dataclass", [" order,, frozen ", ""], ∅⟩, .type bareRecord, none⟩).run
        () = (.contribution c, ()) ∧
      c.IsDecorator "@dataclass(order=True, frozen=True)" ∧
      Decorator.IsValid "@dataclass(order=True, frozen=True)" := by
  obtain ⟨flags, lists, answered⟩ :=
    dataclass_decorates ⟨"dataclass", [" order,, frozen ", ""], ∅⟩ bareRecord rfl ()
  obtain rfl : flags = ["order", "frozen"] := (lists _).mp (lists_iff.mpr (by decide))
  rcases answered with ⟨unknown, -⟩ | ⟨-, c, answer, decorator, valid⟩
  · exact absurd unknown (by decide)
  · exact ⟨rfl, c, answer, decorator, valid.mpr (by decide)⟩

/-- A flag that is listed again is passed again, so that the decorator is no valid call. -/
theorem dataclass_repeats_keyword :
    ∃ c, (dataclass.hook ⟨⟨"dataclass", ["frozen", "slots, frozen"], ∅⟩, .type bareRecord,
        none⟩).run () = (.contribution c, ()) ∧
      c.IsDecorator "@dataclass(frozen=True, slots=True, frozen=True)" ∧
      ¬ Decorator.IsValid "@dataclass(frozen=True, slots=True, frozen=True)" := by
  refine ⟨_, rfl, ⟨rfl, rfl, rfl⟩, ?_⟩
  have spelled : Decorator.text ["frozen", "slots", "frozen"] =
      "@dataclass(frozen=True, slots=True, frozen=True)" := by decide
  rw [← spelled, Decorator.isValid_text_iff (by decide)]
  decide

end Visitor

end SchemaWeaver

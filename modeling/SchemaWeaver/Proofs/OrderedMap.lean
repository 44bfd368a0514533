import SchemaWeaver.Distinct
import SchemaWeaver.OrderedMap

/-!
# Writing entries one after another

Entries whose keys do not repeat are put one behind the other, so a map is what results from writing
its own entries. In general the last entry of a key tells its value, and the first one its place.
-/

namespace SchemaWeaver

variable {α : Type}

theorem upsert_of_notMem {key : String} {entries : List (String × α)} (value : α)
    (fresh : key ∉ entries.map Prod.fst) :
    upsert key value entries = entries ++ [(key, value)] := by
  induction entries with
  | nil => rfl
  | cons entry rest ih =>
    rw [List.map_cons, List.mem_cons, not_or] at fresh
    rw [upsert, if_neg (Ne.symm fresh.1), ih fresh.2, List.cons_append]

/-- Entries under new keys go to the end, in their order. -/
theorem foldl_upsert_of_nodup {entries more : List (String × α)}
    (distinct : ((entries ++ more).map Prod.fst).Nodup) :
    more.foldl (fun written entry => upsert entry.1 entry.2 written) entries = entries ++ more := by
  induction more generalizing entries with
  | nil => exact (List.append_nil entries).symm
  | cons entry more ih =>
    have fresh : entry.1 ∉ entries.map Prod.fst := by
      rw [List.map_append, List.map_cons, List.nodup_append] at distinct
      exact fun member => distinct.2.2 _ member _ (List.mem_cons_self ..) rfl
    have regroup : entries ++ [entry] ++ more = entries ++ entry :: more := by simp
    rw [List.foldl_cons, upsert_of_notMem _ fresh, ← regroup]
    exact ih (regroup ▸ distinct)

namespace OrderedMap

theorem entries_insertAll (m : OrderedMap α) (more : List (String × α)) :
    (m.insertAll more).entries =
      more.foldl (fun written entry => upsert entry.1 entry.2 written) m.entries := by
  induction more generalizing m with
  | nil => rfl
  | cons entry more ih => exact ih (m.insert entry.1 entry.2)

/-- A map is the map of its own entries. -/
theorem ofList_entries (m : OrderedMap α) : ofList m.entries = m := by
  have same : (ofList m.entries).entries = m.entries := by
    rw [ofList, entries_insertAll]
    exact foldl_upsert_of_nodup m.nodup_keys
  exact (OrderedMap.mk.injEq ..).mpr same

theorem entries_insert_of_notMem (m : OrderedMap α) {key : String} (value : α)
    (fresh : key ∉ m.keys) : (m.insert key value).entries = m.entries ++ [(key, value)] :=
  upsert_of_notMem value fresh

/-- The keys and the values of a map make up its entries. -/
theorem zip_keys_values (m : OrderedMap α) : m.keys.zip m.values = m.entries :=
  (List.zip_of_prod rfl rfl).symm

theorem find?_eq_some_iff {m : OrderedMap α} {key : String} {value : α} :
    m.find? key = some value ↔ (key, value) ∈ m.entries := by
  obtain ⟨entries, nodup⟩ := m
  induction entries with
  | nil => simp [find?]
  | cons entry rest ih =>
    obtain ⟨k, v⟩ := entry
    rw [List.map_cons, List.nodup_cons] at nodup
    have later := ih nodup.2
    simp only [find?] at later ⊢
    rw [lookup_cons_eq_ite, List.mem_cons]
    by_cases h : key = k
    · subst h
      have absent : (key, value) ∉ rest := fun member =>
        nodup.1 (List.mem_map.mpr ⟨(key, value), member, rfl⟩)
      simp [absent, eq_comm]
    · rw [if_neg h, later]
      simp [h]

theorem mem_values_iff {m : OrderedMap α} {value : α} :
    value ∈ m.values ↔ ∃ key, m.find? key = some value := by
  simp only [values, List.mem_map, find?_eq_some_iff, Prod.exists, exists_eq_right]

theorem find?_eq_find? (m : OrderedMap α) (key : String) :
    m.find? key = (m.entries.find? fun entry => entry.1 = key).map Prod.snd := by
  rw [find?]
  induction m.entries with
  | nil => rfl
  | cons entry rest ih =>
    obtain ⟨k, v⟩ := entry
    rw [lookup_cons_eq_ite, ih, List.find?_cons]
    by_cases h : key = k
    · simp [h]
    · simp [h, Ne.symm h]

theorem find?_insertAll (m : OrderedMap α) (more : List (String × α)) (key : String) :
    (m.insertAll more).find? key =
      ((more.reverse.find? fun entry => entry.1 = key).map Prod.snd).or (m.find? key) := by
  induction more generalizing m with
  | nil => rfl
  | cons entry more ih =>
    have later : (m.insertAll (entry :: more)).find? key =
        ((m.insert entry.1 entry.2).insertAll more).find? key := rfl
    rw [later, ih, find?_insert, List.reverse_cons, List.find?_append]
    cases more.reverse.find? fun entry => entry.1 = key with
    | some found => rfl
    | none =>
      by_cases h : entry.1 = key
      · simp [h]
      · simp [h, Ne.symm h]

/-- A map that is written entry by entry holds nothing else. -/
theorem mem_of_mem_ofList {entries : List (String × α)} {entry : String × α}
    (h : entry ∈ (ofList entries).entries) : entry ∈ entries := by
  have found : (ofList entries).find? entry.1 = some entry.2 := find?_eq_some_iff.mpr h
  rw [ofList, find?_insertAll, show (empty : OrderedMap α).find? entry.1 = none from rfl,
    Option.or_none, Option.map_eq_some_iff] at found
  obtain ⟨written, last, value⟩ := found
  have key : written.1 = entry.1 := by simpa using List.find?_some last
  have same : written = entry := Prod.ext key value
  exact same ▸ List.mem_reverse.mp (List.mem_of_find?_eq_some last)

/-- New keys follow the keys of the map, in the order of their first entry. -/
theorem keys_insertAll (m : OrderedMap α) (more : List (String × α)) :
    (m.insertAll more).keys =
      m.keys ++ (distinct (more.map Prod.fst)).filter fun key => key ∉ m.keys := by
  induction more generalizing m with
  | nil => exact (List.append_nil _).symm
  | cons entry more ih =>
    have later : (m.insertAll (entry :: more)).keys =
        ((m.insert entry.1 entry.2).insertAll more).keys := rfl
    rw [later, ih, keys_insert, List.map_cons, distinct]
    by_cases h : entry.1 ∈ m.keys
    · rw [if_pos h, List.filter_cons_of_neg (by simpa using h), List.filter_filter]
      congr 1
      refine List.filter_congr fun key _ => ?_
      by_cases same : key = entry.1 <;> simp [same, h]
    · rw [if_neg h, List.filter_cons_of_pos (by simpa using h), List.filter_filter,
        List.append_assoc, List.singleton_append]
      congr 2
      refine List.filter_congr fun key _ => ?_
      simp [not_or]

/-- The keys of a map that is written entry by entry stand in the order of their first entry. -/
theorem keys_ofList (entries : List (String × α)) :
    (ofList entries).keys = distinct (entries.map Prod.fst) := by
  rw [ofList, keys_insertAll]
  simp [empty, keys]

end OrderedMap

end SchemaWeaver

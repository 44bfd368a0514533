/-!
# Insertion-ordered maps

A finite map from texts that remembers in which order its keys were first inserted. Writing to a
key that is present replaces the value and keeps the key's place. A map is seen through `find?`,
which says what each key holds, and `keys`, which says in which order they stand; the two
determine the map.
-/

namespace SchemaWeaver

/-- Writes a value under a key of an association list: in place when the key is present, else at
the end. -/
def upsert {α : Type} (key : String) (value : α) : List (String × α) → List (String × α)
  | [] => [(key, value)]
  | (k, v) :: rest => if k = key then (key, value) :: rest else (k, v) :: upsert key value rest

theorem map_fst_upsert {α : Type} (key : String) (value : α) (entries : List (String × α)) :
    (upsert key value entries).map Prod.fst =
      if key ∈ entries.map Prod.fst then entries.map Prod.fst
      else entries.map Prod.fst ++ [key] := by
  induction entries with
  | nil => simp [upsert]
  | cons entry rest ih =>
    obtain ⟨k, v⟩ := entry
    by_cases h : k = key
    · simp [upsert, h]
    · have h' : key ≠ k := fun e => h e.symm
      simp only [upsert, if_neg h, List.map_cons, ih, List.mem_cons, h', false_or]
      split <;> simp

theorem lookup_cons_eq_ite {α : Type} (key k : String) (v : α) (rest : List (String × α)) :
    ((k, v) :: rest).lookup key = if key = k then some v else rest.lookup key := by
  by_cases h : key = k
  · simp [h]
  · have : (key == k) = false := beq_eq_false_iff_ne.mpr h
    simp [List.lookup_cons, this, h]

theorem lookup_upsert {α : Type} (key k : String) (value : α) (entries : List (String × α)) :
    (upsert key value entries).lookup k =
      if k = key then some value else entries.lookup k := by
  induction entries with
  | nil => simp only [upsert, lookup_cons_eq_ite]
  | cons entry rest ih =>
    obtain ⟨k', v'⟩ := entry
    by_cases h' : k' = key
    · by_cases h : k = key <;> simp [upsert, lookup_cons_eq_ite, h, h']
    · have h'' : key ≠ k' := fun e => h' e.symm
      by_cases h : k = key
      · subst h
        simpa [upsert, lookup_cons_eq_ite, h', h''] using ih
      · simp [upsert, lookup_cons_eq_ite, h, h', ih]

/-- A map from texts whose keys stand in the order of their first insertion. -/
structure OrderedMap (α : Type) where
  entries : List (String × α)
  nodup_keys : (entries.map Prod.fst).Nodup
  deriving DecidableEq, Repr

namespace OrderedMap

variable {α β : Type}

/-- The map without keys. -/
def empty : OrderedMap α := ⟨[], List.nodup_nil⟩

instance : EmptyCollection (OrderedMap α) := ⟨empty⟩

instance : Inhabited (OrderedMap α) := ⟨empty⟩

/-- The keys in the order of their first insertion. -/
def keys (m : OrderedMap α) : List String := m.entries.map Prod.fst

/-- The values in the order of their keys. -/
def values (m : OrderedMap α) : List α := m.entries.map Prod.snd

/-- The value under a key. -/
def find? (m : OrderedMap α) (key : String) : Option α := m.entries.lookup key

/-- Whether a key is present. -/
def contains (m : OrderedMap α) (key : String) : Bool := m.keys.contains key

/-- Whether the map has no keys. -/
def isEmpty (m : OrderedMap α) : Bool := m.entries.isEmpty

/-- Writes a value under a key; a key that is present keeps its place. -/
def insert (m : OrderedMap α) (key : String) (value : α) : OrderedMap α where
  entries := upsert key value m.entries
  nodup_keys := by
    rw [map_fst_upsert]
    split
    · exact m.nodup_keys
    · rename_i absent
      rw [List.nodup_append]
      refine ⟨m.nodup_keys, by simp, ?_⟩
      intro a ha b hb
      rw [List.mem_singleton] at hb
      exact fun e => absent (hb ▸ e ▸ ha)

/-- Writes all entries of a list, one after another. -/
def insertAll (m : OrderedMap α) (entries : List (String × α)) : OrderedMap α :=
  entries.foldl (fun acc entry => acc.insert entry.1 entry.2) m

/-- The map that results from writing the entries of a list, one after another. -/
def ofList (entries : List (String × α)) : OrderedMap α := empty.insertAll entries

/-- Applies a function to every value. -/
def mapValues (f : α → β) (m : OrderedMap α) : OrderedMap β where
  entries := m.entries.map fun (key, value) => (key, f value)
  nodup_keys := by
    have : (m.entries.map fun (key, value) => (key, f value)).map Prod.fst =
        m.entries.map Prod.fst := by simp [Function.comp_def]
    rw [this]
    exact m.nodup_keys

@[simp] theorem keys_empty : (∅ : OrderedMap α).keys = [] := rfl

@[simp] theorem find?_empty (key : String) : (∅ : OrderedMap α).find? key = none := rfl

theorem keys_nodup (m : OrderedMap α) : m.keys.Nodup := m.nodup_keys

theorem contains_iff {m : OrderedMap α} {key : String} : m.contains key = true ↔ key ∈ m.keys := by
  simp [contains]

theorem keys_insert (m : OrderedMap α) (key : String) (value : α) :
    (m.insert key value).keys = if key ∈ m.keys then m.keys else m.keys ++ [key] :=
  map_fst_upsert key value m.entries

theorem find?_insert (m : OrderedMap α) (key k : String) (value : α) :
    (m.insert key value).find? k = if k = key then some value else m.find? k :=
  lookup_upsert key k value m.entries

@[simp] theorem find?_insert_self (m : OrderedMap α) (key : String) (value : α) :
    (m.insert key value).find? key = some value := by
  simp [find?_insert]

theorem find?_insert_of_ne (m : OrderedMap α) {key k : String} (value : α) (h : k ≠ key) :
    (m.insert key value).find? k = m.find? k := by
  simp [find?_insert, h]

theorem find?_isSome_iff {m : OrderedMap α} {key : String} :
    (m.find? key).isSome = true ↔ key ∈ m.keys := by
  unfold find? keys
  induction m.entries with
  | nil => simp
  | cons entry rest ih =>
    obtain ⟨k, v⟩ := entry
    by_cases h : key = k
    · simp [h]
    · rw [lookup_cons_eq_ite, if_neg h, ih]
      simp [h]

end OrderedMap

end SchemaWeaver

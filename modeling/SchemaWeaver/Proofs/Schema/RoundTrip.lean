import SchemaWeaver.Proofs.Schema.Encode
import SchemaWeaver.Schema.Load

/-!
# Schemas survive their documents

A schema that is dumped is loaded as the same schema, from the text as well as from a file that
holds the text. The identifiers of type definitions must not have more digits than the reader
converts; those of a loaded schema never have, so a loaded schema can be dumped and loaded again any
number of times, and the text does not change any more.
-/

namespace SchemaWeaver

open SchemaWeaver.Check SchemaWeaver.Checked

section Loaded

theorem TypeDefinition.identifiable_of_checkMembers {tag : Tag} {members : Members}
    {t : TypeDefinition} (bounded : (Json.obj members).Bounded)
    (passed : checkMembers tag members = valid t) : t.Identifiable := by
  obtain ⟨_, body, toId, -, rfl⟩ := seq_eq_valid.mp passed
  obtain ⟨_, id, toHeader, identified, rfl⟩ := seq_eq_valid.mp toId
  obtain ⟨header, -, rfl⟩ := map_eq_valid.mp toHeader
  obtain ⟨value, found, natural⟩ := required_eq_valid (seqLeft_eq_valid.mp identified).1
  exact convertible_of_natural (bounded.lookup found) natural

theorem TypeDefinition.identifiable_of_check {value : Json} {t : TypeDefinition}
    (bounded : value.Bounded) (passed : TypeDefinition.check value = valid t) : t.Identifiable := by
  obtain ⟨members, tag, rfl, -, passedMembers⟩ := check_eq_valid_iff.mp passed
  exact identifiable_of_checkMembers bounded passedMembers

theorem Interface.identifiable_of_check {value : Json} {i : Interface} (bounded : value.Bounded)
    (passed : Interface.check value = valid i) : i.Identifiable := by
  obtain ⟨members, rfl, toFunctions⟩ := model_eq_valid.mp passed
  obtain ⟨_, functions, toTypes, -, rfl⟩ := seq_eq_valid.mp toFunctions
  obtain ⟨_, types, toPackage, checked, rfl⟩ := seq_eq_valid.mp toTypes
  obtain ⟨_, package, toHeader, -, rfl⟩ := seq_eq_valid.mp toPackage
  obtain ⟨header, -, rfl⟩ := map_eq_valid.mp toHeader
  intro t inside
  obtain ⟨value, smaller, checkedType⟩ := optional_listOf_eq_valid bounded checked t inside
  exact TypeDefinition.identifiable_of_check smaller checkedType

theorem World.identifiable_of_check {value : Json} {w : World} (bounded : value.Bounded)
    (passed : World.check value = valid w) : w.Identifiable := by
  obtain ⟨members, rfl, toFunctions⟩ := model_eq_valid.mp passed
  obtain ⟨_, functions, toTypes, -, rfl⟩ := seq_eq_valid.mp toFunctions
  obtain ⟨_, types, toExports, checkedTypes, rfl⟩ := seq_eq_valid.mp toTypes
  obtain ⟨_, exports, toImports, checkedExports, rfl⟩ := seq_eq_valid.mp toExports
  obtain ⟨_, imports, toPackage, checkedImports, rfl⟩ := seq_eq_valid.mp toImports
  obtain ⟨_, package, toHeader, -, rfl⟩ := seq_eq_valid.mp toPackage
  obtain ⟨header, -, rfl⟩ := map_eq_valid.mp toHeader
  refine ⟨fun i inside => ?_, fun i inside => ?_, fun t inside => ?_⟩
  · obtain ⟨value, smaller, checked⟩ := optional_listOf_eq_valid bounded checkedImports i inside
    exact Interface.identifiable_of_check smaller checked
  · obtain ⟨value, smaller, checked⟩ := optional_listOf_eq_valid bounded checkedExports i inside
    exact Interface.identifiable_of_check smaller checked
  · obtain ⟨value, smaller, checked⟩ := optional_listOf_eq_valid bounded checkedTypes t inside
    exact TypeDefinition.identifiable_of_check smaller checked

theorem Schema.identifiable_of_check {value : Json} {s : Schema} (bounded : value.Bounded)
    (passed : Schema.check value = valid s) : s.Identifiable := by
  obtain ⟨members, rfl, toWorlds⟩ := model_eq_valid.mp passed
  obtain ⟨_, worlds, toInterfaces, checkedWorlds, rfl⟩ := seq_eq_valid.mp toWorlds
  obtain ⟨_, interfaces, toPackage, checkedInterfaces, rfl⟩ := seq_eq_valid.mp toInterfaces
  obtain ⟨_, package, toVersion, -, rfl⟩ := seq_eq_valid.mp toPackage
  obtain ⟨version, -, rfl⟩ := map_eq_valid.mp toVersion
  refine ⟨fun i inside => ?_, fun w inside => ?_⟩
  · obtain ⟨value, smaller, checked⟩ := optional_listOf_eq_valid bounded checkedInterfaces i inside
    exact Interface.identifiable_of_check smaller checked
  · obtain ⟨value, smaller, checked⟩ := optional_listOf_eq_valid bounded checkedWorlds w inside
    exact World.identifiable_of_check smaller checked

/-- The identifiers of a loaded schema have no more digits than the reader converts. -/
theorem Schema.identifiable_of_load {text : String} {s : Schema} (loaded : load text = .ok s) :
    s.Identifiable := by
  unfold load at loaded
  split at loaded
  · cases loaded
  · cases loaded
  rename_i value read
  split at loaded
  · rename_i passed
    cases loaded
    exact identifiable_of_check (Json.bounded_of_parse read) passed
  · cases loaded

end Loaded

namespace Schema

/-- A schema is loaded from the text that it is dumped as. -/
theorem load_dump {s : Schema} (short : s.Identifiable) : load s.dump = .ok s := by
  have read : Json.parse s.dump = .ok s.encode := Json.parse_pretty (s.plain_encode 978 short)
  rw [load, read]
  simp only [s.check_encode]

theorem unixNewlines_of_notMem {s : List Char} (absent : '\r' ∉ s) : Text.unixNewlines s = s := by
  induction s with
  | nil => rfl
  | cons c rest ih =>
    obtain ⟨other, absent⟩ := not_or.mp (List.mem_cons.not.mp absent)
    rw [Text.unixNewlines, if_neg (Ne.symm other), ih absent]
    exact fun _ same _ => other same.symm

/-- The text of a schema has no line ends but plain ones, so it is the same text in a file. -/
theorem unixNewlines_dump {s : Schema} (short : s.Identifiable) :
    String.ofList (Text.unixNewlines s.dump.toList) = s.dump := by
  have plain := s.plain_encode 0 short
  have absent := plain.carriageReturn_notMem 0
  unfold dump Json.pretty
  rw [String.toList_ofList, unixNewlines_of_notMem absent]

/-- Every text is decoded from its own bytes. -/
theorem fromUTF8?_toUTF8 (text : String) : String.fromUTF8? text.toUTF8 = some text := by
  rw [String.toUTF8_eq_toByteArray]
  exact dif_pos text.isValidUTF8

theorem loadFile_dump {s : Schema} (short : s.Identifiable) {directory : Directory} {path : String}
    (possible : '\x00' ∉ path.toList) (written : directory.read path = .ok s.dump.toUTF8) :
    loadFile directory path = .ok s := by
  have usable : path.toList.contains '\x00' = false := by simpa using possible
  rw [loadFile, usable, written]
  simp only [Bool.false_eq_true, if_false, loadBytes, fromUTF8?_toUTF8, unixNewlines_dump short,
    load_dump short]

/-- A schema comes back from its document as it was, with every list and every map in its order,
every type definition of its kind, and absent texts apart from empty ones: from the text itself, and
from a file that holds the text in UTF-8. The only condition is that the identifiers of the type
definitions do not have more digits than the reader converts; a schema that was loaded fulfils it.
So dumping what was loaded, and loading that, changes nothing any more. -/
theorem load_dump_roundTrip :
    (∀ s : Schema, s.Identifiable → load s.dump = .ok s ∧
      ∀ (directory : Directory) (path : String), '\x00' ∉ path.toList →
        directory.read path = .ok s.dump.toUTF8 → loadFile directory path = .ok s) ∧
    (∀ text s, load text = .ok s → s.Identifiable ∧ load s.dump = .ok s) ∧
    ∀ text normal, (load text).map dump = .ok normal → (load normal).map dump = .ok normal := by
  refine ⟨fun s short => ⟨load_dump short, fun _ _ => loadFile_dump short⟩, fun text s loaded => ?_,
    fun text normal dumped => ?_⟩
  · have short := identifiable_of_load loaded
    exact ⟨short, load_dump short⟩
  · cases loaded : load text with
    | error fault =>
      rw [loaded] at dumped
      cases dumped
    | ok s =>
      rw [loaded] at dumped
      cases dumped
      rw [load_dump (identifiable_of_load loaded)]
      rfl

/-- A schema with a bit of everything that is easily lost on the way. -/
def greeting : Schema :=
  let hint : Directive :=
    ⟨"hint", .options (.ofList [("b", "\r\n\t\x01\\"), ("a", "\"ü\"")]), by decide⟩
  let mood : TypeDefinition := ⟨⟨"mood", some "", [hint]⟩, 7, .enum [⟨⟨"glad", none, []⟩, none⟩]⟩
  { version := "1.0"
    package := ""
    interfaces := [⟨⟨"words", none, []⟩, none, [mood], []⟩]
    worlds := [⟨⟨"all", none, []⟩, some "", [⟨⟨"words", none, []⟩, none, [], []⟩], [], [], []⟩] }

theorem load_dump_greeting :
    load greeting.dump = .ok greeting ∧
      loadFile ⟨[("greeting.json", .file greeting.dump.toUTF8)]⟩ "greeting.json" = .ok greeting ∧
      greeting.Identifiable ∧ (load greeting.dump).map dump = .ok greeting.dump := by
  obtain ⟨whole, loaded, normal⟩ := load_dump_roundTrip
  have short : greeting.Identifiable := by
    simp [greeting, Identifiable, Interface.Identifiable, World.Identifiable,
      TypeDefinition.Identifiable, Json.Convertible]
    decide
  obtain ⟨text, file⟩ := whole greeting short
  have again : (load greeting.dump).map dump = .ok greeting.dump := by
    rw [text]
    rfl
  refine ⟨text, file _ _ (by decide) rfl, (loaded _ _ text).1, normal _ _ again⟩

end Schema

end SchemaWeaver

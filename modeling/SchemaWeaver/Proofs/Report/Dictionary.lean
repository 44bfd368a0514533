import SchemaWeaver.Proofs.Contribution.Merge
import SchemaWeaver.CommandLine.Run

/-!
# Reports read back from JSON

The JSON value of a report and the tables of its outcomes are made apart from each other. Here the
tables are made once more, from the JSON value alone. The two ways agree: JSON and tables carry the
same fragments and diagnostics in the same order. The JSON value may leave out the outcomes that
have nothing to tell, and the tables do not change by that.
-/

namespace SchemaWeaver

namespace Json

/-- The members of an object. -/
def members : Json → List (String × Json)
  | obj members => members
  | _ => []

/-- The elements of an array. -/
def elements : Json → List Json
  | arr elements => elements
  | _ => []

/-- The text of a string. -/
def asText : Json → String
  | str text => text
  | _ => ""

/-- The value of an integer. -/
def asInteger : Json → Int
  | int value => value
  | _ => 0

/-- The value of the member with a name. -/
def member (value : Json) (name : String) : Json := (value.members.lookup name).getD null

theorem elements_ofTexts (texts : List String) : (ofTexts texts).elements = texts.map str := rfl

end Json

/-- A fragment and where it stands. -/
structure PlacedFragment where
  slot : String
  member : String
  list : String
  text : String
  deriving DecidableEq, Repr

/-- The cells of the row for a fragment. -/
def PlacedFragment.row (f : PlacedFragment) : List String :=
  [f.slot, f.member, f.list, Text.Markup.escape f.text]

/-! ## Reading -/

namespace Dictionary

/-- The fragments of a contribution, each with the name of its list. -/
def fragments (contribution : Json) : List (String × String) :=
  contribution.members.flatMap fun (list, value) =>
    value.elements.map fun fragment => (list, fragment.asText)

/-- The fragments of a contribution at a place. -/
def placed (slot member : String) (contribution : Json) : List PlacedFragment :=
  (fragments contribution).map fun (list, text) => ⟨slot, member, list, text⟩

/-- The fragments of an outcome in a slot with one contribution. -/
def ofSlot (outcome : Json) (slot : String) : List PlacedFragment :=
  placed slot "" (outcome.member slot)

/-- The fragments of an outcome in a slot of members. -/
def ofMembers (outcome : Json) (slot key : String) : List PlacedFragment :=
  (outcome.member key).members.flatMap fun (name, contribution) => placed slot name contribution

/-- The fragments of an outcome, slot by slot. -/
def allFragments (outcome : Json) : List PlacedFragment :=
  ofSlot outcome "type" ++ ofSlot outcome "function" ++ ofSlot outcome "module" ++
    ofMembers outcome "field" "fields" ++ ofMembers outcome "case" "cases"

/-- The diagnostics of an outcome. -/
def diagnostics (outcome : Json) : List Json := (outcome.member "diagnostics").elements

/-- Whether an outcome has a fragment or asks to skip. -/
def hasContent (outcome : Json) : Bool :=
  !(allFragments outcome).isEmpty || (outcome.member "action").asText == "skip"

/-- Whether an outcome has no fragment, goes on as by default and has no diagnostic. -/
def isQuiet (outcome : Json) : Bool :=
  (allFragments outcome).isEmpty && (outcome.member "action").asText == "continue" &&
    (diagnostics outcome).isEmpty

/-- The table of an outcome. -/
def table (outcome : Json) : Table where
  title :=
    let title := (outcome.member "node_kind").asText ++ " " ++ (outcome.member "node_name").asText
    if (outcome.member "action").asText = "skip" then title ++ " [red](replaces default code)[/red]"
    else title
  columns := ["Slot", "Member", "List", "Fragment"]
  rows := (allFragments outcome).map PlacedFragment.row

/-- The row of a diagnostic. -/
def diagnosticRow (d : Json) : List String :=
  [(d.member "kind").asText, (d.member "target").asText, (d.member "node").asText,
    Text.Markup.escape (d.member "message").asText]

/-- The outcomes of a report. -/
def results (report : Json) : List Json := (report.member "results").elements

/-- The diagnostics of a report. -/
def allDiagnostics (report : Json) : List Json := (results report).flatMap diagnostics

/-- The tables of a report: an outcome each, if it has content or all are wanted, and then the
diagnostics if there are any. -/
def tables (includeEmpty : Bool) (report : Json) : List Table :=
  ((results report).filter fun outcome => includeEmpty || hasContent outcome).map table ++
    if (allDiagnostics report).isEmpty then []
    else [⟨"Diagnostics", ["Kind", "Target", "Node", "Message"],
      (allDiagnostics report).map diagnosticRow⟩]

/-- The line above the tables of a report. -/
def headline (backend : String) (report : Json) : String :=
  "[bold]" ++ (report.member "package").asText ++ "[/bold]: " ++
    IntegerText.write (report.member "nodes_visited").asInteger ++ " nodes, " ++
    IntegerText.write (report.member "hooks_invoked").asInteger ++ " hook calls ([cyan]" ++
    backend ++ "[/cyan] backend)"

/-! ## What is read -/

variable (c : Contribution) (o : Outcome) (r : Report)

theorem fragments_encode : fragments c.encode = c.rows := by
  have written (list : String) (texts : List String) :
      ((Json.ofTexts texts).elements.map fun fragment => (list, fragment.asText)) =
        texts.map fun text => (list, text) := by
    rw [Json.elements_ofTexts, List.map_map]
    rfl
  change (c.lists.entries.map _).flatMap _ = _
  simp only [List.flatMap_map, written]
  rfl

/-- A contribution has its fragments list by list, in the order of its shape. -/
theorem fragments_encode_eq : fragments c.encode =
    c.shape.lists.flatMap fun list => (c.fragments list).map fun text => (list, text) := by
  have entries : c.lists.entries = c.shape.lists.map fun list => (list, c.fragments list) := by
    rw [← c.keys_lists, OrderedMap.keys, List.map_map]
    refine (List.map_id _).symm.trans (List.map_congr_left fun ⟨list, written⟩ entry => ?_)
    rw [Function.comp_apply, Contribution.fragments, OrderedMap.find?_eq_some_iff.mpr entry]
    rfl
  rw [fragments_encode, Contribution.rows, entries, List.flatMap_map]

theorem placed_encode (slot member : String) : placed slot member c.encode =
    c.rows.map fun (list, text) => ⟨slot, member, list, text⟩ := by
  rw [placed, fragments_encode]

theorem placed_encode? (slot : String) (c? : Option Contribution) :
    placed slot "" (Contribution.encode? c?) =
      c?.toList.flatMap fun c => c.rows.map fun (list, text) => ⟨slot, "", list, text⟩ := by
  cases c? with
  | none => rfl
  | some c => rw [Contribution.encode?, placed_encode, Option.toList_some, List.flatMap_singleton]

theorem ofMembers_encode {slot key : String} {m : OrderedMap Contribution}
    (h : o.encode.member key = .obj (m.mapValues Contribution.encode).entries) :
    ofMembers o.encode slot key =
      m.entries.flatMap fun (name, c) =>
        c.rows.map fun (list, text) => ⟨slot, name, list, text⟩ := by
  rw [ofMembers, h]
  change (m.entries.map _).flatMap _ = _
  simp only [List.flatMap_map, placed_encode]

/-- The fragments that are read are those that tables show. -/
theorem allFragments_encode : allFragments o.encode =
    (Table.slotRows o).flatMap fun (slot, member, c) =>
      c.rows.map fun (list, text) => ⟨slot, member, list, text⟩ := by
  unfold allFragments Table.slotRows
  simp only [List.flatMap_append, List.flatMap_map]
  rw [ofMembers_encode o rfl, ofMembers_encode o rfl]
  exact congrArg₂ _ (congrArg₂ _ (congrArg₂ _ (congrArg₂ _ (placed_encode? "type" o.ofType)
    (placed_encode? "function" o.ofFunction)) (placed_encode? "module" o.ofModule)) rfl) rfl

theorem table_encode : table o.encode = Table.ofOutcome o := by
  have rows : (allFragments o.encode).map PlacedFragment.row = (Table.ofOutcome o).rows := by
    rw [allFragments_encode, List.map_flatMap]
    simp only [List.map_map]
    rfl
  have marked : (o.encode.member "action").asText = "skip" ↔ o.action = .skip := by
    change o.action.name = "skip" ↔ _
    cases o.action <;> decide
  unfold table Table.ofOutcome
  rw [rows]
  simp only [marked]
  rfl

theorem contributions_eq : o.contributions = (Table.slotRows o).map fun (_, _, c) => c := by
  simp only [Table.slotRows, List.map_append, List.map_map, Function.comp_def, List.map_id']
  rfl

theorem rows_eq_nil_iff : c.rows = [] ↔ c.isEmpty = true := by
  simp only [Contribution.rows, Contribution.isEmpty, OrderedMap.values, List.flatMap_eq_nil_iff,
    List.map_eq_nil_iff, List.all_map, List.all_eq_true, Function.comp_apply, List.isEmpty_iff]

/-- Fragments are found exactly when some contribution has one. -/
theorem allFragments_isEmpty :
    (allFragments o.encode).isEmpty = o.contributions.all Contribution.isEmpty := by
  rw [Bool.eq_iff_iff, List.isEmpty_iff, List.all_eq_true, allFragments_encode, contributions_eq]
  simp only [List.flatMap_eq_nil_iff, List.map_eq_nil_iff, rows_eq_nil_iff, List.forall_mem_map]

theorem diagnostics_encode : diagnostics o.encode = o.diagnostics.map Diagnostic.encode := rfl

theorem hasContent_encode : hasContent o.encode = !o.isEmpty := by
  rw [hasContent, allFragments_isEmpty, Outcome.isEmpty]
  change (_ || o.action.name == "skip") = _
  cases o.action <;> cases o.contributions.all Contribution.isEmpty <;> rfl

theorem isQuiet_encode : isQuiet o.encode = (o.isEmpty && o.diagnostics.isEmpty) := by
  rw [isQuiet, allFragments_isEmpty, Outcome.isEmpty, diagnostics_encode, List.isEmpty_map]
  change ((_ && o.action.name == "continue") && _) = _
  cases o.action <;> cases o.contributions.all Contribution.isEmpty <;> rfl

/-! ## Reports -/

/-- What is left out does not matter to a listing to which it adds nothing. -/
theorem flatMap_filter_of_nil {α β : Type} {keep : α → Bool} {f : α → List β} {xs : List α}
    (nothing : ∀ x, keep x = false → f x = []) : (xs.filter keep).flatMap f = xs.flatMap f := by
  induction xs with
  | nil => rfl
  | cons x xs ih =>
    rw [List.filter_cons, List.flatMap_cons]
    split
    · rw [List.flatMap_cons, ih]
    · rename_i leftOut
      rw [ih, nothing x (Bool.not_eq_true _ ▸ leftOut), List.nil_append]

theorem results_encode (includeEmpty : Bool) :
    results (r.encode includeEmpty) = (r.told includeEmpty).map Outcome.encode := rfl

theorem headline_encode (backend : String) (includeEmpty : Bool) :
    headline backend (r.encode includeEmpty) = CommandLine.headline r backend := rfl

theorem told_true : r.told true = r.outcomes := List.filter_eq_self.mpr fun _ _ => rfl

/-- Without the empty outcomes a report has the results that are not quiet. -/
theorem results_encode_false :
    results (r.encode false) =
      (results (r.encode true)).filter fun outcome => !isQuiet outcome := by
  rw [results_encode, results_encode, told_true, List.filter_map]
  refine congrArg (List.map Outcome.encode) (List.filter_congr fun o _ => ?_)
  rw [Function.comp_apply, isQuiet_encode, Bool.not_and, Bool.false_or]

/-- Results that are left out have nothing to list. -/
theorem flatMap_results_encode {α : Type} {f : Json → List α}
    (nothing : ∀ outcome, isQuiet outcome = true → f outcome = []) (includeEmpty : Bool) :
    (results (r.encode includeEmpty)).flatMap f = r.outcomes.flatMap fun o => f o.encode := by
  rw [results_encode, List.flatMap_map, Report.told]
  refine flatMap_filter_of_nil fun o leftOut => nothing o.encode ?_
  simp only [Bool.or_eq_false_iff, Bool.not_eq_false'] at leftOut
  rw [isQuiet_encode, leftOut.1.2, leftOut.2]
  rfl

theorem allDiagnostics_encode (includeEmpty : Bool) :
    allDiagnostics (r.encode includeEmpty) = r.diagnostics.map Diagnostic.encode := by
  have nothing (outcome : Json) (quiet : isQuiet outcome = true) : diagnostics outcome = [] :=
    List.isEmpty_iff.mp (Bool.and_eq_true_iff.mp quiet).2
  rw [allDiagnostics, flatMap_results_encode r nothing, Report.diagnostics, List.map_flatMap]
  rfl

theorem flatMap_allFragments_encode (includeEmpty : Bool) :
    (results (r.encode includeEmpty)).flatMap allFragments =
      r.outcomes.flatMap fun o => allFragments o.encode := by
  refine flatMap_results_encode r (fun outcome quiet => ?_) includeEmpty
  rw [isQuiet, Bool.and_eq_true_iff, Bool.and_eq_true_iff] at quiet
  exact List.isEmpty_iff.mp quiet.1.1

theorem filter_hasContent_encode (includeEmpty : Bool) :
    ((results (r.encode includeEmpty)).filter fun outcome => includeEmpty || hasContent outcome) =
      (r.outcomes.filter fun o => includeEmpty || !o.isEmpty).map Outcome.encode := by
  rw [results_encode, List.filter_map, Report.told, List.filter_filter]
  refine congrArg (List.map Outcome.encode) (List.filter_congr fun o _ => ?_)
  rw [Function.comp_apply, hasContent_encode]
  cases includeEmpty || !o.isEmpty <;> rfl

/-- The tables that are read from a report are its tables. -/
theorem tables_encode (includeEmpty : Bool) :
    (tables includeEmpty (r.encode includeEmpty)).map .table =
      CommandLine.reportTables r includeEmpty := by
  have outcomes (shown : List Outcome) :
      ((shown.map Outcome.encode).map table).map CommandLine.Printed.table =
        shown.map fun o => .table (.ofOutcome o) := by
    simp only [List.map_map, Function.comp_def, table_encode]
  have rows : (r.diagnostics.map Diagnostic.encode).map diagnosticRow =
      (Table.ofDiagnostics r.diagnostics).rows := by
    rw [List.map_map]
    rfl
  rw [tables, filter_hasContent_encode, allDiagnostics_encode, List.map_append, outcomes, rows,
    List.isEmpty_map, CommandLine.reportTables]
  split
  · exact List.append_nil _
  · rfl

/-- Results with content are not quiet. -/
theorem isQuiet_of_hasContent {outcome : Json} (content : hasContent outcome = true) :
    isQuiet outcome = false := by
  rw [← Bool.not_eq_true]
  intro quiet
  rw [isQuiet, Bool.and_eq_true_iff, Bool.and_eq_true_iff, beq_iff_eq] at quiet
  obtain ⟨⟨noFragment, goesOn⟩, -⟩ := quiet
  rw [hasContent, noFragment, goesOn] at content
  exact absurd content (by decide)

theorem tables_encode_false : tables false (r.encode false) = tables false (r.encode true) := by
  unfold tables
  rw [allDiagnostics_encode, allDiagnostics_encode, results_encode_false, List.filter_filter]
  refine congrArg (List.map table · ++ _) (List.filter_congr fun outcome _ => ?_)
  cases content : hasContent outcome with
  | false => rfl
  | true => rw [isQuiet_of_hasContent content]; rfl

/-- A report that leaves out its empty outcomes leaves out the quiet results and nothing else: no
fragment, no diagnostic, no table, and no node or hook call from its counts. -/
structure LosesNothing (report : Report) : Prop where
  whole : results (report.encode true) = report.outcomes.map Outcome.encode
  brief : results (report.encode false) =
    (results (report.encode true)).filter fun outcome => !isQuiet outcome
  fragments : (results (report.encode false)).flatMap allFragments =
    (results (report.encode true)).flatMap allFragments
  diagnostics : ∀ includeEmpty,
    allDiagnostics (report.encode includeEmpty) = report.diagnostics.map Diagnostic.encode
  tables : tables false (report.encode false) = tables false (report.encode true)
  counts : ∀ includeEmpty,
    (report.encode includeEmpty).member "nodes_visited" = .int report.nodesVisited ∧
    (report.encode includeEmpty).member "hooks_invoked" = .int report.hooksInvoked

theorem losesNothing : LosesNothing r where
  whole := by rw [results_encode, told_true]
  brief := results_encode_false r
  fragments := by rw [flatMap_allFragments_encode, flatMap_allFragments_encode]
  diagnostics := allDiagnostics_encode r
  tables := tables_encode_false r
  counts _ := ⟨rfl, rfl⟩

end Dictionary

end SchemaWeaver

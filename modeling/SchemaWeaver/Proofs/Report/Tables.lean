import SchemaWeaver.Proofs.Report.Dictionary
import SchemaWeaver.Proofs.Text.Markup

/-!
# Names in tables

Tables escape the fragments of an outcome and the messages of diagnostics, and show names as they
are: that of the node in a title, those of members, and the targets and nodes of diagnostics. They
are compared here with tables that escape names as well. The two agree exactly when escaping leaves
the names as they are; and the tags that a console reads in a table, apart from the mark of a
skipped node, all come from names.
-/

namespace SchemaWeaver

namespace Table

open Text
open Text.Markup (escape escape_eq_self_iff Plain)

/-- The tags in the title and in the cells of a table. -/
def tags (t : Table) : List String :=
  Markup.tags t.title ++ t.rows.flatMap fun row => row.flatMap Markup.tags

/-- The fragments that the table of an outcome shows. -/
def shown (o : Outcome) : List PlacedFragment :=
  (slotRows o).flatMap fun (slot, member, c) =>
    c.rows.map fun (list, text) => ⟨slot, member, list, text⟩

/-- The end of the title for an outcome that replaces default code. -/
def skipMark (o : Outcome) : String :=
  if o.action = .skip then " [red](replaces default code)[/red]" else ""

/-- The table of an outcome in which names are written in some way. -/
def outcomeWith (write : String → String) (o : Outcome) : Table where
  title := o.kind.name ++ " " ++ write o.name ++ skipMark o
  columns := (ofOutcome o).columns
  rows := (shown o).map fun f => [f.slot, write f.member, f.list, escape f.text]

/-- The table of diagnostics in which names are written in some way. -/
def diagnosticsWith (write : String → String) (ds : List Diagnostic) : Table where
  title := (ofDiagnostics ds).title
  columns := (ofDiagnostics ds).columns
  rows := ds.map fun d => [d.kind.name, write d.target, write d.node, escape d.message]

section Names

variable (write : String → String) (o : Outcome) (ds : List Diagnostic)

/-- Tables show names as they are. -/
theorem ofOutcome_eq : ofOutcome o = outcomeWith id o := by
  have title : (ofOutcome o).title = (outcomeWith id o).title := by
    unfold ofOutcome outcomeWith skipMark
    by_cases skips : o.action = .skip
    · simp only [if_pos skips, id]
    · simp only [if_neg skips, id, String.append_empty]
  have rows : (ofOutcome o).rows = (outcomeWith id o).rows := by
    simp only [ofOutcome, outcomeWith, shown, List.map_flatMap, List.map_map]
    rfl
  exact Table.mk.injEq .. |>.mpr ⟨title, rfl, rows⟩

theorem ofDiagnostics_eq : ofDiagnostics ds = diagnosticsWith id ds := rfl

theorem outcomeWith_eq_iff : ofOutcome o = outcomeWith write o ↔
    write o.name = o.name ∧ ∀ f ∈ shown o, write f.member = f.member := by
  rw [ofOutcome_eq]
  simp only [outcomeWith, Table.mk.injEq, List.map_inj_left, true_and]
  refine and_congr ?_ ?_
  · rw [← String.toList_inj]
    simp only [String.toList_append, List.append_cancel_left_eq, List.append_cancel_right_eq, id]
    rw [String.toList_inj, eq_comm]
  · simp only [List.cons.injEq, true_and, and_true, id]
    exact forall₂_congr fun f _ => eq_comm

theorem diagnosticsWith_eq_iff : ofDiagnostics ds = diagnosticsWith write ds ↔
    ∀ d ∈ ds, write d.target = d.target ∧ write d.node = d.node := by
  rw [ofDiagnostics_eq]
  simp only [diagnosticsWith, Table.mk.injEq, List.map_inj_left, true_and, List.cons.injEq,
    and_true, id]
  exact forall₂_congr fun d _ => and_congr eq_comm eq_comm

/-- The mark of a skipped node is markup of its own: it does not read on from the name. -/
theorem tags_title (name : String) : Markup.tags (o.kind.name ++ " " ++ name ++ skipMark o) =
    Markup.tags name ++ if o.action = .skip then ["red", "/red"] else [] := by
  have mark : Markup.Separate (skipMark o).toList ∧
      Markup.tags (skipMark o) = if o.action = .skip then ["red", "/red"] else [] := by
    unfold skipMark
    split
    · exact ⟨⟨by decide, by decide, fun run => rfl⟩, by decide⟩
    · exact ⟨⟨rfl, nofun, fun run => rfl⟩, rfl⟩
  have letters : (o.kind.name ++ " ").toList.all (fun c => c != '[' && c != '\\') = true := by
    cases o.kind <;> rfl
  have kind : ∀ c ∈ (o.kind.name ++ " ").toList, c ≠ '[' ∧ c ≠ '\\' := by
    intro c member
    simpa using List.all_eq_true.mp letters c member
  rw [Markup.tags_append mark.1, Markup.tags_append_of_plain kind, mark.2]

/-- The names of slots are plain. -/
theorem tags_slot {o : Outcome} {f : PlacedFragment} (member : f ∈ shown o) :
    Markup.tags f.slot = [] := by
  obtain ⟨⟨slot, name, c⟩, place, fragment⟩ := List.mem_flatMap.mp member
  obtain ⟨⟨list, text⟩, -, rfl⟩ := List.mem_map.mp fragment
  simp only [slotRows, List.mem_append, List.mem_map, Prod.mk.injEq] at place
  change Markup.tags slot = []
  rcases place with (((⟨_, _, rfl, _⟩ | ⟨_, _, rfl, _⟩) | ⟨_, _, rfl, _⟩) | ⟨_, _, rfl, _⟩) |
    ⟨_, _, rfl, _⟩ <;> decide

/-- Tags are read row by row. -/
theorem tags_rows {α : Type} {xs : List α} {row : α → List String} {told : α → List String}
    (each : ∀ x ∈ xs, (row x).flatMap Markup.tags = told x) :
    ((xs.map row).flatMap fun cells => cells.flatMap Markup.tags) = xs.flatMap told := by
  rw [List.flatMap_map, List.flatMap_def, List.map_congr_left each, ← List.flatMap_def]

theorem tags_outcomeWith : (outcomeWith write o).tags =
    (Markup.tags (write o.name) ++ if o.action = .skip then ["red", "/red"] else []) ++
      (shown o).flatMap fun f => Markup.tags (write f.member) ++ Markup.tags f.list := by
  have rows (f : PlacedFragment) (member : f ∈ shown o) :
      [f.slot, write f.member, f.list, escape f.text].flatMap Markup.tags =
        Markup.tags (write f.member) ++ Markup.tags f.list := by
    simp only [List.flatMap_cons, List.flatMap_nil, tags_slot member, Markup.tags_escape,
      List.nil_append, List.append_nil]
  rw [tags, outcomeWith, tags_title, tags_rows rows]

theorem tags_diagnosticsWith : (diagnosticsWith write ds).tags =
    ds.flatMap fun d =>
      Markup.tags (write d.target) ++ Markup.tags (write d.node) := by
  have rows (d : Diagnostic) (_ : d ∈ ds) :
      [d.kind.name, write d.target, write d.node, escape d.message].flatMap Markup.tags =
        Markup.tags (write d.target) ++ Markup.tags (write d.node) := by
    have kind : Markup.tags d.kind.name = [] := by
      cases d.kind <;> decide
    simp only [List.flatMap_cons, List.flatMap_nil, kind, Markup.tags_escape, List.nil_append,
      List.append_nil]
  have title : Markup.tags "Diagnostics" = [] := by decide
  change Markup.tags "Diagnostics" ++ _ = _
  rw [title, List.nil_append, diagnosticsWith, tags_rows rows]

end Names

/-- Whether the tables of an outcome and of diagnostics escape every text.

Fragments and messages are always escaped. The tables are those in which names are escaped as well
exactly when the names that are shown are plain: that of the node, those of the members with
fragments, and the targets and nodes of the diagnostics. When names are escaped, no tag is read in
the tables but those of the mark of a skipped node and those in the names of lists. As the tables
are, each tag in one of the names is read as well. -/
theorem tables_escape_iff (o : Outcome) (ds : List Diagnostic) :
    (ofOutcome o = outcomeWith escape o ↔ Plain o.name ∧ ∀ f ∈ shown o, Plain f.member) ∧
    (ofDiagnostics ds = diagnosticsWith escape ds ↔ ∀ d ∈ ds, Plain d.target ∧ Plain d.node) ∧
    (outcomeWith escape o).tags = (if o.action = .skip then ["red", "/red"] else []) ++
      (shown o).flatMap (fun f => Markup.tags f.list) ∧
    (diagnosticsWith escape ds).tags = [] ∧
    (ofOutcome o).tags =
      (Markup.tags o.name ++ if o.action = .skip then ["red", "/red"] else []) ++
        (shown o).flatMap (fun f => Markup.tags f.member ++ Markup.tags f.list) ∧
    (ofDiagnostics ds).tags = ds.flatMap fun d =>
      Markup.tags d.target ++ Markup.tags d.node := by
  refine ⟨?_, ?_, ?_, ?_, ?_, tags_diagnosticsWith id ds⟩
  · simpa only [escape_eq_self_iff] using outcomeWith_eq_iff escape o
  · simpa only [escape_eq_self_iff] using diagnosticsWith_eq_iff escape ds
  · rw [tags_outcomeWith]
    simp only [Markup.tags_escape, List.nil_append]
  · rw [tags_diagnosticsWith]
    simp only [Markup.tags_escape, List.append_nil]
    exact List.flatMap_eq_nil_iff.mpr fun _ _ => rfl
  · rw [ofOutcome_eq, tags_outcomeWith]
    rfl

/-- A record and a field whose names are tags, and a target that is one. The title closes a tag that
was never opened. -/
theorem tags_in_names :
    let c := Contribution.tabulate .rustField .keep fun list =>
      if list = "attributes" then ["[b]"] else []
    let o := { Outcome.start .rust .record "[/red]" with ofFields := .ofList [("[b]", c)] }
    let ds : List Diagnostic := [⟨.unresolvedTarget, "[link]", "[/red]", "[b]"⟩]
    ofOutcome o ≠ outcomeWith escape o ∧ ofDiagnostics ds ≠ diagnosticsWith escape ds ∧
      (ofOutcome o).title = "record [/red]" ∧ (outcomeWith escape o).title = "record \\[/red]" ∧
      (ofOutcome o).rows = [["field", "[b]", "attributes", "\\[b]"]] ∧
      (ofDiagnostics ds).rows = [["unresolved_target", "[link]", "[/red]", "\\[b]"]] ∧
      (ofOutcome o).tags = ["/red", "b"] ∧ (ofDiagnostics ds).tags = ["link", "/red"] := by
  decide

end Table

end SchemaWeaver

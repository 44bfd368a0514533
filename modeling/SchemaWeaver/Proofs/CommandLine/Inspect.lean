import SchemaWeaver.Proofs.Registry.Build
import SchemaWeaver.Proofs.Report.Dictionary
import SchemaWeaver.Proofs.Schema.RoundTrip
import SchemaWeaver.Proofs.Traversal.Coverage
import SchemaWeaver.Proofs.Traversal.Quiet

/-!
# What inspecting a schema prints

The command that inspects a schema prints a report either as JSON or as tables. A schema that loads
is visited without failure when a backend is shipped under the name that is asked for; otherwise
nothing is printed on the first console. The tables can be made from the JSON value that the same
request prints as JSON.
-/

namespace SchemaWeaver

/-- A traversal hands no outcome on. -/
theorem Service.traverse_open {σ : Type} (s : Service σ) (schema : Schema) :
    Engine.Ensures (s.traverse schema) fun report => ∀ o ∈ report.outcomes, o.consumed = false := by
  refine (s.sameVisit_invariant.traverse_ensures schema).mono ?_
  rintro report ⟨-, reported⟩
  exact ((List.forall₂_and_left _ _).mp
    (reported.flip.imp fun _ _ same => ⟨same.consumed, same⟩)).1

namespace CommandLine

/-- A request with other ways of showing the report. -/
def InspectRequest.showing (request : InspectRequest) (asJson includeEmpty : Bool) :
    InspectRequest :=
  { request with json := asJson, includeEmpty := includeEmpty }

/-- The report that a request is about: a schema is loaded and visited by the visitors that are
shipped for a backend. -/
structure Inspects (around : Config.Surroundings) (config : Config) (request : InspectRequest)
    (schema : Schema) (backend : Backend) (report : Report) (log : List LogRecord) : Prop where
  loaded : Schema.loadFile around.directory request.path = .ok schema
  shipped : backend ∈ Backend.all
  asked : backendName request.backend config = backend.name
  visited : ∃ (visitors : List (Visitor Unit)) (registry : Registry Unit) (final : Session Unit),
    Backend.defaultVisitors backend.name = .ok visitors ∧
    Registry.build visitors none config.duplicatePolicy = .ok (registry, []) ∧
    ((Service.start registry config request.workers).traverse schema).run.run ⟨(), [], []⟩ =
      (.ok report, final) ∧ final.log = log

/-- What a request prints, as JSON and as tables, when it shows a report. -/
structure Shows (around : Config.Surroundings) (verbose : Bool) (config : Config) (level : LogLevel)
    (request : InspectRequest) (backend : Backend) (report : Report) (log : List LogRecord) :
    Prop where
  asJson : ∀ includeEmpty, inspect around verbose config level (request.showing true includeEmpty) =
    .printed [.json (report.encode includeEmpty)] (LogRecord.atLeast level log)
  asTables : ∀ includeEmpty,
    inspect around verbose config level (request.showing false includeEmpty) =
      .printed (.text (Dictionary.headline backend.name (report.encode includeEmpty)) ::
        (Dictionary.tables includeEmpty (report.encode includeEmpty)).map .table)
        (LogRecord.atLeast level log)

variable {around : Config.Surroundings} {config : Config} {request : InspectRequest}
  {schema : Schema} {backend : Backend} {report : Report} {log : List LogRecord}

/-- A schema that loads is visited when the backend is known, and no outcome is handed on before it
is shown. -/
theorem exists_inspects (loaded : Schema.loadFile around.directory request.path = .ok schema)
    (shipped : backend ∈ Backend.all) (asked : backendName request.backend config = backend.name) :
    ∃ report log, Inspects around config request schema backend report log ∧
      ∀ o ∈ report.outcomes, o.consumed = false := by
  obtain ⟨visitors, defaults, -, built⟩ :=
    Backend.build_defaultVisitors (σ := Unit) shipped config.duplicatePolicy
  obtain ⟨report, final, run, isOpen⟩ :=
    (Service.start _ config request.workers).traverse_open schema ⟨(), [], []⟩
  exact ⟨report, final.log, ⟨loaded, shipped, asked, visitors, _, final, defaults, built, run, rfl⟩,
    isOpen⟩

/-- What was visited is shown in the way that is asked for. -/
theorem Inspects.shows (inspects : Inspects around config request schema backend report log)
    (verbose : Bool) (level : LogLevel) :
    Shows around verbose config level request backend report log := by
  obtain ⟨loaded, -, asked, visitors, registry, final, defaults, built, run, rfl⟩ := inspects
  have printed (asJson includeEmpty : Bool) :
      inspect around verbose config level (request.showing asJson includeEmpty) =
        .printed (if asJson then [.json (report.encode includeEmpty)]
          else .text (headline report backend.name) :: reportTables report includeEmpty)
          (LogRecord.atLeast level final.log) := by
    simp only [inspect, InspectRequest.showing, loaded, asked, defaults, bind, Except.bind, built,
      run]
    cases asJson <;> rfl
  refine ⟨printed true, fun includeEmpty => ?_⟩
  rw [printed, Dictionary.headline_encode, Dictionary.tables_encode]
  rfl

/-- Without a schema or without a backend nothing is printed on the first console. -/
theorem inspect_of_not_loaded (verbose : Bool) (level : LogLevel)
    (failed : (∀ schema, Schema.loadFile around.directory request.path ≠ .ok schema) ∨
      ∀ backend ∈ Backend.all, backendName request.backend config ≠ backend.name)
    (asJson includeEmpty : Bool) :
    (inspect around verbose config level (request.showing asJson includeEmpty)).out = [] := by
  simp only [inspect, InspectRequest.showing]
  cases loaded : Schema.loadFile around.directory request.path with
  | error reason => cases reason <;> rfl
  | ok schema =>
    have unknown := failed.resolve_left fun none => none schema loaded
    have noVisitors := Backend.defaultVisitors_of_unknown (σ := Unit) fun backend shipped =>
      (unknown backend shipped).symm
    simp only [noVisitors, bind, Except.bind]
    rfl

/-- The JSON value of a report and its tables carry the same content. To leave out the empty
outcomes loses nothing. The table of an outcome can be made from its JSON value, with a row for
every fragment that is found there, slot by slot; a contribution has its fragments list by list, in
the order of its shape. The program shows a report when the schema loads and the backend is known,
and else nothing. The tables that it prints, after it has handed the outcomes on, are those that can
be made from the JSON value which it prints instead when asked for JSON: one for every result that
has a fragment or asks to skip, or for all results, and one for the diagnostics if there are any. -/
theorem inspect_tells_same (report : Report) (o : Outcome) (c : Contribution)
    (around : Config.Surroundings) (verbose : Bool) (config : Config) (level : LogLevel)
    (request : InspectRequest) :
    Dictionary.LosesNothing report ∧
    (Table.ofOutcome o = Dictionary.table o.encode ∧
      (Table.ofOutcome o).rows = (Dictionary.allFragments o.encode).map PlacedFragment.row) ∧
    Dictionary.fragments c.encode =
      (c.shape.lists.flatMap fun list => (c.fragments list).map fun text => (list, text)) ∧
    ((∃ (schema : Schema) (backend : Backend) (shown : Report) (log : List LogRecord),
        Inspects around config request schema backend shown log ∧
        (∀ o ∈ shown.outcomes, ∃ o', o.consume = .ok o' ∧ Table.ofOutcome o' = Table.ofOutcome o) ∧
        Shows around verbose config level request backend shown log) ∨
      ((∀ schema, Schema.loadFile around.directory request.path ≠ .ok schema) ∨
        ∀ backend ∈ Backend.all, backendName request.backend config ≠ backend.name) ∧
      ∀ asJson includeEmpty, (inspect around verbose config level
        (request.showing asJson includeEmpty)).out = []) := by
  refine ⟨Dictionary.losesNothing report, ⟨(Dictionary.table_encode o).symm, ?_⟩,
    Dictionary.fragments_encode_eq c, ?_⟩
  · rw [← Dictionary.table_encode]
    rfl
  by_cases shows : ∃ schema, Schema.loadFile around.directory request.path = .ok schema ∧
      ∃ backend ∈ Backend.all, backendName request.backend config = backend.name
  · obtain ⟨schema, loaded, backend, shipped, asked⟩ := shows
    obtain ⟨shown, log, inspects, isOpen⟩ := exists_inspects loaded shipped asked
    refine .inl ⟨schema, backend, shown, log, inspects, fun o member => ?_,
      inspects.shows verbose level⟩
    refine ⟨{ o with consumed := true }, ?_, rfl⟩
    rw [Outcome.consume, Outcome.whenOpen, isOpen o member]
    rfl
  · have failed : (∀ schema, Schema.loadFile around.directory request.path ≠ .ok schema) ∨
        ∀ backend ∈ Backend.all, backendName request.backend config ≠ backend.name := by
      by_contra both
      push Not at both
      obtain ⟨⟨schema, loaded⟩, backend, shipped, asked⟩ := both
      exact shows ⟨schema, loaded, backend, shipped, asked⟩
    exact .inr ⟨failed, inspect_of_not_loaded verbose level failed⟩

/-- A schema with an interface that has nothing to say and with two functions. One of them is
traced, the other asks for a target without a visitor. -/
def quietSchema : Schema where
  version := "1.0"
  package := "demo"
  interfaces :=
    [⟨⟨"api", none, []⟩, none, [],
      [⟨⟨"get", none, [Service.traceDirective "info"]⟩, [], none⟩,
        ⟨⟨"put", none, [Service.styleDirective]⟩, [], none⟩]⟩]
  worlds := []

theorem loadFile_quiet :
    Schema.loadFile ⟨[("quiet.json", .file quietSchema.dump.toUTF8)]⟩ "quiet.json" =
      .ok quietSchema :=
  Schema.loadFile_dump (by simp [quietSchema, Schema.Identifiable, Interface.Identifiable])
    (by decide) rfl

/-- The titles of the tables, without and with empty outcomes. -/
def titles (report : Report) : List String × List String :=
  ((Dictionary.tables false (report.encode false)).map Table.title,
    (Dictionary.tables true (report.encode true)).map Table.title)

theorem inspect_tells_same_quiet :
    ∃ shown log,
      Shows ⟨∅, ⟨[("quiet.json", .file quietSchema.dump.toUTF8)]⟩⟩ false .defaults .info
        ⟨"quiet.json", some "python", false, none, false⟩ .python shown log ∧
      titles shown = (["function get", "Diagnostics"],
        ["interface api", "function get", "function put", "Diagnostics"]) ∧
      ∃ o ∈ shown.outcomes, ∃ o', o.consume = .ok o' ∧ Table.ofOutcome o' = Table.ofOutcome o := by
  have loaded := loadFile_quiet
  generalize (⟨[("quiet.json", .file quietSchema.dump.toUTF8)]⟩ : Directory) = directory at loaded ⊢
  obtain ⟨-, -, -, shown | ⟨failed, -⟩⟩ := inspect_tells_same ⟨"", []⟩
    (.start .rust .record "point") (.empty .rustType) ⟨∅, directory⟩ false .defaults .info
    ⟨"quiet.json", some "python", false, none, false⟩
  · obtain ⟨schema, backend, shown, log, inspects, handOn, shows⟩ := shown
    obtain ⟨loaded', shipped, asked, visitors, registry, final, defaults, built, run, -⟩ := inspects
    cases loaded.symm.trans loaded'
    have python : backend = .python := by
      rw [Backend.all, List.mem_cons, List.mem_singleton] at shipped
      rcases shipped with rfl | rfl
      · exact absurd asked (by decide)
      · rfl
    subst python
    cases defaults
    cases built
    -- The run is evaluated, and `shown` is what it ends in.
    have ends := congrArg (fun ending : Except Misuse Report × Session Unit =>
      ending.1.toOption.map fun report => (titles report, report.outcomes.length)) run
    obtain ⟨shownTitles, count⟩ := Prod.mk.inj (Option.some.inj (ends.symm.trans rfl))
    have first : 0 < shown.outcomes.length := by
      rw [count]
      decide
    exact ⟨shown, log, shows, shownTitles, shown.outcomes[0], List.getElem_mem first,
      handOn _ (List.getElem_mem first)⟩
  · rcases failed with notLoaded | unknown
    · exact absurd loaded (notLoaded _)
    · exact absurd rfl (unknown .python (by decide))

end CommandLine

end SchemaWeaver

import SchemaWeaver.CommandLine.Arguments
import SchemaWeaver.Config.Sources
import SchemaWeaver.Schema.Load
import SchemaWeaver.Table

/-!
# Running the program

The program has two commands: one shows what the built-in visitors contribute to a schema, the
other lists these visitors. A run is a function of its arguments and its surroundings; it tells an
exit code, what is printed on the two consoles, and the log records that the log level lets pass.
The wording of help and usage and the lines of a call trace are left out.
-/

namespace SchemaWeaver.CommandLine

/-- One thing printed on a console. -/
inductive Printed where
  | text (markup : String)
  | table (content : Table)
  | json (value : Json)

/-- A failure that no command reports by itself. -/
inductive Crash where
  | settings (reason : Config.ReadError)
  | schema (reason : LoadError)
  | misuse (reason : Misuse)
  deriving DecidableEq, Repr

/-- What a run of the program comes to. -/
structure Response where
  exitCode : Nat
  crash : Option Crash
  out : List Printed
  err : List Printed
  log : List LogRecord

namespace Response

/-- A run that ends well without printing anything that matters here, such as help. -/
def quiet : Response := ⟨0, none, [], [], []⟩

/-- A run that ends because its arguments are wrong. -/
def usage (_ : UsageError) : Response := ⟨2, none, [], [], []⟩

/-- A run that ends in a failure that no command reports. -/
def crashed (reason : Crash) : Response := ⟨1, some reason, [], [], []⟩

/-- A run that ends with a reported error. -/
def failed (err : List Printed) : Response := ⟨1, none, [], err, []⟩

/-- A run that ends well. -/
def printed (out : List Printed) (log : List LogRecord) : Response := ⟨0, none, out, [], log⟩

end Response

/-- What verbose mode prints after an error; the place of the call trace is marked. -/
def trace (verbose : Bool) : List Printed :=
  if verbose then
    [.text "\n[dim]--- Traceback (verbose mode) ---[/dim]", .text "[dim]<traceback>[/dim]"]
  else []

/-- The backend asked for; an empty name asks for none. -/
def backendName (requested : Option String) (config : Config) : String :=
  match requested with
  | none | some "" => config.defaultBackend
  | some name => name

/-- The tables of a report: an outcome each, and the diagnostics if there are any. -/
def reportTables (report : Report) (includeEmpty : Bool) : List Printed :=
  let shown := report.outcomes.filter fun o => includeEmpty || !o.isEmpty
  let outcomes := shown.map fun o => .table (.ofOutcome o)
  if report.diagnostics.isEmpty then outcomes
  else outcomes ++ [.table (.ofDiagnostics report.diagnostics)]

/-- The line above the tables of a report. -/
def headline (report : Report) (backend : String) : String :=
  "[bold]" ++ report.package ++ "[/bold]: " ++ IntegerText.write report.nodesVisited ++
    " nodes, " ++ IntegerText.write report.hooksInvoked ++ " hook calls ([cyan]" ++ backend ++
    "[/cyan] backend)"

/-- Shows what the visitors of a backend contribute to a schema. -/
def inspect (around : Config.Surroundings) (verbose : Bool) (config : Config) (level : LogLevel)
    (request : InspectRequest) : Response :=
  let backend := backendName request.backend config
  match Schema.loadFile around.directory request.path with
  | .error e =>
    match e.report? with
    | none => .crashed (.schema e)
    | some (message, details) =>
      .failed ([.text ("[red]Error:[/red] " ++ message), .text ("[dim]" ++ details ++ "[/dim]")] ++
        trace verbose)
  | .ok schema =>
    let registry? : Except SetupError (Registry Unit × List LogRecord) := do
      Registry.build (← Backend.defaultVisitors backend) none config.duplicatePolicy
    match registry? with
    | .error e =>
      .failed (.text ("[red]Configuration error:[/red] " ++ e.message) :: trace verbose)
    | .ok (registry, records) =>
      let service := Service.start registry config request.workers
      match (service.traverse schema).run.run ⟨(), records, []⟩ with
      | (.error reason, _) => .crashed (.misuse reason)
      | (.ok report, session) =>
        let log := LogRecord.atLeast level session.log
        if request.json then .printed [.json (report.encode request.includeEmpty)] log
        else
          .printed (.text (headline report backend) :: reportTables report request.includeEmpty) log

/-- Lists the visitors of a backend. -/
def listVisitors (backend : String) : Response :=
  match (Backend.defaultVisitors backend : Except SetupError (List (Visitor Unit))) with
  | .error e => .failed [.text ("[red]Error:[/red] " ++ e.message)]
  | .ok visitors => .printed [.table (.ofVisitors visitors)] []

/-- Runs a command whose arguments are read. -/
def perform (around : Config.Surroundings) (verbose : Bool) : Command → Response
  | .help => .quiet
  | .visitors (some name) =>
    if name = "" then fromSettings fun config => listVisitors config.defaultBackend
    else listVisitors name
  | .visitors none => fromSettings fun config => listVisitors config.defaultBackend
  | .inspect request =>
    fromSettings fun config =>
      inspect around verbose config (if verbose then .debug else config.logLevel) request
where
  /-- Goes on with the settings, if they can be read. -/
  fromSettings (next : Config → Response) : Response :=
    match Config.read [] around with
    | .ok config => next config
    | .error e => .crashed (.settings e)

/-- Runs the program. Settings are read before the arguments of the command, unless verbose mode
makes their log level irrelevant. -/
def run (around : Config.Surroundings) (words : List String) : Response :=
  match readArguments programOptions false words with
  | .error e => .usage e
  | .ok arguments =>
    if arguments.has "help" then .quiet
    else
      let verbose := arguments.has "verbose"
      let proceed (command : Except UsageError Command) : Response :=
        match verbose, Config.read [] around with
        | false, .error e => .crashed (.settings e)
        | _, _ =>
          match command with
          | .error e => .usage e
          | .ok command => perform around verbose command
      match arguments.operands with
      | [] => .usage .missingCommand
      | "inspect" :: words => proceed (readInspect around.directory words)
      | "visitors" :: words => proceed (readVisitors words)
      | _ => .usage .unknownCommand

end SchemaWeaver.CommandLine

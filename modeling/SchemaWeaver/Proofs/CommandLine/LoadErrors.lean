import SchemaWeaver.Proofs.CommandLine.Inspect
import SchemaWeaver.Proofs.Json.Stops

/-!
# How loading fails

A failure that has a headline and details is reported: the command that inspects a schema prints
both and ends. The faults of a text and the issues of a value are of this kind. Three failures are
not, and the command crashes on them: the bytes of a file are not UTF-8, an integer has more digits
than the reader converts, and brackets are nested more deeply than the reader goes. A text without
such integers and such nesting is loaded or its failure is reported.
-/

namespace SchemaWeaver

/-- A schema that is loaded, or a failure with a headline and details. -/
def Reports (result : Except LoadError Schema) : Prop :=
  (∃ schema, result = .ok schema) ∨
    ∃ e message details, result = .error e ∧ e.report? = some (message, details)

theorem not_reports_of_none {e : LoadError} (silent : e.report? = none) : ¬Reports (.error e) := by
  rintro (⟨schema, ⟨⟩⟩ | ⟨e, message, details, ⟨⟩, told⟩)
  rw [silent] at told
  cases told

namespace Schema

theorem load_of_beyond {text : String} {limit : Json.Limit}
    (stopped : Json.parse text = .error (.beyond limit)) : load text = .error (.beyond limit) := by
  rw [load, stopped]

/-- What is not reported of a text is that it goes beyond a limit of the reader, and the text gives
a reason for it. -/
theorem not_reports_load_iff {text : String} : ¬Reports (load text) ↔ ∃ limit : Json.Limit,
    load text = .error (.beyond limit) ∧ limit.Exceeded Json.maxDepth text.toList := by
  constructor
  · intro unreported
    cases read : Json.parse text with
    | error reason =>
      cases reason with
      | malformed fault place =>
        exact absurd (.inr ⟨.malformed fault place, _, _, by rw [load, read], rfl⟩) unreported
      | beyond limit => exact ⟨limit, load_of_beyond read, Json.exceeded_of_parse read⟩
    | ok value =>
      cases checked : Schema.check value with
      | valid schema => exact absurd (.inl ⟨schema, by simp only [load, read, checked]⟩) unreported
      | invalid first rest =>
        have failed : load text = .error (.invalid first rest) := by simp only [load, read, checked]
        exact absurd (.inr ⟨.invalid first rest, _, _, failed, rfl⟩) unreported
  · rintro ⟨limit, failed, -⟩
    rw [failed]
    exact not_reports_of_none rfl

/-- What is not reported of bytes is that they are not UTF-8, or what is not reported of their
text. -/
theorem not_reports_loadBytes_iff {bytes : ByteArray} : ¬Reports (loadBytes bytes) ↔
    String.fromUTF8? bytes = none ∨ ∃ text, String.fromUTF8? bytes = some text ∧
      ¬Reports (load (String.ofList (Text.unixNewlines text.toList))) := by
  cases decoded : String.fromUTF8? bytes with
  | none =>
    have failed : loadBytes bytes = .error .notUnicode := by rw [loadBytes, decoded]
    rw [failed]
    exact iff_of_true (not_reports_of_none rfl) (.inl rfl)
  | some text =>
    have loaded : loadBytes bytes = load (String.ofList (Text.unixNewlines text.toList)) := by
      rw [loadBytes, decoded]
    rw [loaded]
    refine ⟨fun unreported => .inr ⟨text, rfl, unreported⟩, ?_⟩
    rintro (absent | ⟨text', same, unreported⟩)
    · cases absent
    · rwa [Option.some.inj same]

theorem loadFile_of_readable {directory : Directory} {path : String} {bytes : ByteArray}
    (possible : '\x00' ∉ path.toList) (readable : directory.read path = .ok bytes) :
    loadFile directory path = loadBytes bytes := by
  have usable : path.toList.contains '\x00' = false := by simpa using possible
  rw [loadFile, usable, readable]
  rfl

end Schema

namespace CommandLine

variable {around : Config.Surroundings} {config : Config} {request : InspectRequest}

/-- What inspecting prints about a failure to load. -/
def loadReport (message details : String) (verbose : Bool) : List Printed :=
  [.text ("[red]Error:[/red] " ++ message), .text ("[dim]" ++ details ++ "[/dim]")] ++ trace verbose

theorem inspect_of_told {e : LoadError} {message details : String}
    (failed : Schema.loadFile around.directory request.path = .error e)
    (told : e.report? = some (message, details)) (verbose : Bool) (level : LogLevel) :
    inspect around verbose config level request = .failed (loadReport message details verbose) := by
  simp only [inspect, failed, told]
  rfl

theorem inspect_of_untold {e : LoadError}
    (failed : Schema.loadFile around.directory request.path = .error e)
    (untold : e.report? = none) (verbose : Bool) (level : LogLevel) :
    inspect around verbose config level request = .crashed (.schema e) := by
  simp only [inspect, failed, untold]

/-- A schema that loads does not make inspecting crash. -/
theorem crash_of_loaded {schema : Schema}
    (loaded : Schema.loadFile around.directory request.path = .ok schema) (verbose : Bool)
    (level : LogLevel) : (inspect around verbose config level request).crash = none := by
  simp only [inspect, loaded]
  split
  · rfl
  · rename_i registry records built
    obtain ⟨report, final, run, -⟩ :=
      (Service.start registry config request.workers).traverse_open schema ⟨(), records, []⟩
    rw [run]
    dsimp only
    split <;> rfl

/-- Inspecting crashes exactly when the failure to load is not reported. -/
theorem crash_eq_none_iff (verbose : Bool) (level : LogLevel) :
    (inspect around verbose config level request).crash = none ↔
      Reports (Schema.loadFile around.directory request.path) := by
  cases loaded : Schema.loadFile around.directory request.path with
  | ok schema => exact iff_of_true (crash_of_loaded loaded verbose level) (.inl ⟨schema, rfl⟩)
  | error e =>
    cases told : e.report? with
    | none =>
      rw [inspect_of_untold loaded told]
      exact iff_of_false nofun (not_reports_of_none told)
    | some report =>
      rw [inspect_of_told loaded told]
      exact iff_of_true rfl (.inr ⟨e, report.1, report.2, rfl, told⟩)

/-- What is loaded from a text is a schema or a failure that is reported, except when the text goes
beyond a limit of the reader: it has a run of digits longer than the reader converts, or more
opening brackets than may stand one inside the other. So every integer with too many digits is a
document whose failure is not reported. Of the bytes of a file it is also not reported that they are
not UTF-8. When a file can be read, inspecting crashes exactly when the failure to load it is not
reported, and otherwise prints the headline and the details of the failure. -/
theorem inspect_reports (text : String) (around : Config.Surroundings) (verbose : Bool)
    (config : Config) (level : LogLevel) (request : InspectRequest) {bytes : ByteArray}
    (possible : '\x00' ∉ request.path.toList)
    (readable : around.directory.read request.path = .ok bytes) :
    (¬Reports (Schema.load text) ↔ ∃ limit : Json.Limit,
      Schema.load text = .error (.beyond limit) ∧ limit.Exceeded Json.maxDepth text.toList) ∧
    (∀ n : Int, ¬Json.Convertible n →
      ¬Reports (Schema.load (String.ofList (IntegerText.digits n)))) ∧
    (¬Reports (Schema.loadBytes bytes) ↔ String.fromUTF8? bytes = none ∨
      ∃ text, String.fromUTF8? bytes = some text ∧
        ¬Reports (Schema.load (String.ofList (Text.unixNewlines text.toList)))) ∧
    ((inspect around verbose config level request).crash = none ↔
      Reports (Schema.loadBytes bytes)) ∧
    ∀ e message details, Schema.loadBytes bytes = .error e →
      e.report? = some (message, details) →
      inspect around verbose config level request =
        .failed (loadReport message details verbose) := by
  refine ⟨Schema.not_reports_load_iff, fun n long => ?_, Schema.not_reports_loadBytes_iff, ?_⟩
  · rw [Schema.load_of_beyond (Json.parse_of_not_convertible long)]
    exact not_reports_of_none rfl
  · rw [← Schema.loadFile_of_readable possible readable]
    exact ⟨crash_eq_none_iff verbose level,
      fun e message details failed told => inspect_of_told failed told verbose level⟩

/-- Three bytes of which the first one starts no character. -/
def undecodable : ByteArray := ⟨#[0xFF, 0x7B, 0x7D]⟩

/-- A directory with one file, which is not UTF-8. -/
def undecodableFile : Directory := ⟨[("a.json", .file undecodable)]⟩

theorem fromUTF8?_undecodable : String.fromUTF8? undecodable = none := by decide

theorem inspect_reports_undecodable :
    '\x00' ∉ "a.json".toList ∧ undecodableFile.read "a.json" = .ok undecodable ∧
      Reports (Schema.load "{}") ∧ ¬Reports (Schema.loadBytes undecodable) ∧
      ¬Reports (Schema.load (String.ofList (IntegerText.digits (10 ^ Json.maxIntegerDigits)))) ∧
      (inspect ⟨∅, undecodableFile⟩ false .defaults .info
        ⟨"a.json", none, false, none, false⟩).crash ≠ none := by
  have possible : '\x00' ∉ "a.json".toList := by decide
  obtain ⟨texts, integers, files, shown, -⟩ := inspect_reports "{}" ⟨∅, undecodableFile⟩ false
    .defaults .info ⟨"a.json", none, false, none, false⟩ possible rfl
  have unreported := files.mpr (.inl fromUTF8?_undecodable)
  refine ⟨possible, rfl, ?_, unreported, integers _ Json.not_convertible_pow,
    shown.not.mpr unreported⟩
  by_contra silent
  obtain ⟨limit, -, exceeded⟩ := texts.mp silent
  exact Json.not_exceeded_of_length_le (by decide) (by decide) exceeded

/-- A file that can be read, whose failure to load has neither a headline nor details. -/
theorem undecodable_file_untold :
    undecodableFile.read "a.json" = .ok undecodable ∧
      Schema.loadFile undecodableFile "a.json" = .error .notUnicode ∧
      LoadError.report? .notUnicode = none ∧
      ¬Reports (Schema.loadFile undecodableFile "a.json") := by
  have failed : Schema.loadFile undecodableFile "a.json" = .error .notUnicode := by
    rw [Schema.loadFile_of_readable (by decide) rfl, Schema.loadBytes, fromUTF8?_undecodable]
  refine ⟨rfl, failed, rfl, ?_⟩
  rw [failed]
  exact not_reports_of_none rfl

end CommandLine

end SchemaWeaver

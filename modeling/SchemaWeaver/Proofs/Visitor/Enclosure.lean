import SchemaWeaver.Proofs.Schema.RoundTrip
import SchemaWeaver.Proofs.Text.Quotes
import SchemaWeaver.Proofs.Visitor.Levels
import SchemaWeaver.Proofs.Visitor.Version

/-!
# Names and versions in generated lines

Names of functions and parameters are put into literals as they are, and versions into comments.
`lines_enclose_iff` says when they stay there: which names leave the literal open up to the quote
that is meant to close it, and that the line breaks of a comment are those of its version.
-/

namespace SchemaWeaver

open Text

/-- A line of code with a name in its first literal: what stands in front of the literal, around the
name in the literal, and behind the literal. -/
structure NamedLine where
  opening : String
  lead : String
  name : String
  trail : String
  behind : String

namespace NamedLine

/-- What stands between the quotes of the line. -/
def inside (l : NamedLine) : String := l.lead ++ l.name ++ l.trail

def render (l : NamedLine) : String := l.opening ++ "\"" ++ l.inside ++ "\"" ++ l.behind

/-- The first literal of the line ends at the quote behind the name that is meant to close it. -/
def Closes (l : NamedLine) : Prop :=
  Literal.first? l.render.toList = some (l.inside.toList, l.behind.toList)

/-- A text that neither closes the literal in which it stands nor skips a character. -/
def IsPlain (s : String) : Prop := '"' ∉ s.toList ∧ '\\' ∉ s.toList

instance (s : String) : Decidable (IsPlain s) := inferInstanceAs (Decidable (_ ∧ _))

/-- A line in which up to the closing quote only the name can have quotes and backslashes of its
own. -/
structure Plain (l : NamedLine) : Prop where
  opening : '"' ∉ l.opening.toList
  lead : IsPlain l.lead
  trail : IsPlain l.trail

/-- A name that stays in the literal of its line: none of its double quotes ends the literal, and
the closing quote, if it stands right behind the name, is not skipped with a backslash of the
name. -/
structure Encloses (l : NamedLine) : Prop where
  not_hasOpenQuote : ¬ Literal.HasOpenQuote l.name.toList
  even : l.trail = "" → Even (Literal.backslashesAtEnd l.name.toList)

variable {l : NamedLine}

/-- The first quote of the line is the one that opens its literal. -/
theorem first?_render (plain : l.Plain) : Literal.first? l.render.toList =
    Literal.close? (l.inside.toList ++ '"' :: l.behind.toList) := by
  have chars : l.render.toList =
      l.opening.toList ++ '"' :: (l.inside.toList ++ '"' :: l.behind.toList) := by
    simp [render]
  have before : ∀ c ∈ l.opening.toList, decide (c ≠ '"') = true := fun c member =>
    decide_eq_true fun same => plain.opening (same ▸ member)
  rw [Literal.first?, chars, List.dropWhile_append_of_pos before,
    List.dropWhile_cons_of_neg (by decide), List.tail_cons]

theorem even_inside_iff (plain : l.Plain) : Even (Literal.backslashesAtEnd l.inside.toList) ↔
    (l.trail = "" → Even (Literal.backslashesAtEnd l.name.toList)) := by
  rw [inside, String.toList_append, String.toList_append]
  by_cases bare : l.trail = ""
  · rw [bare, String.toList_empty, List.append_nil,
      Literal.backslashesAtEnd_append_of_notMem plain.lead.2]
    exact ⟨fun even _ => even, fun h => h rfl⟩
  · rw [Literal.backslashesAtEnd_of_behind plain.trail.2 (mt String.toList_eq_nil_iff.mp bare)]
    exact iff_of_true Even.zero fun empty => absurd empty bare

/-- A literal ends where it should exactly when its name stays in it. -/
theorem closes_iff (plain : l.Plain) : l.Closes ↔ l.Encloses := by
  have openQuote : Literal.HasOpenQuote l.inside.toList ↔ Literal.HasOpenQuote l.name.toList := by
    rw [inside, String.toList_append, String.toList_append,
      Literal.hasOpenQuote_append_right plain.trail.1,
      Literal.hasOpenQuote_append_left plain.lead.1 plain.lead.2]
  rw [Closes, first?_render plain, Literal.close?_iff, openQuote, even_inside_iff plain]
  exact ⟨fun ⟨quotes, even⟩ => ⟨quotes, even⟩, fun ⟨quotes, even⟩ => ⟨quotes, even⟩⟩

end NamedLine

/-- The lines that a contribution adds to the body of a function. -/
def Contribution.bodyLines (c : Contribution) : List String :=
  ["body_prefix", "body_suffix", "body_prologue", "body_epilogue"].flatMap c.fragments

namespace Visitor

variable {σ : Type}

/-- The line that traces the entry of a function. -/
def tracedLine (f : Function) (level : String) : NamedLine :=
  ⟨"tracing::" ++ level ++ "!(", "Entering function: ", f.name, "", ");"⟩

/-- The line that logs the entry of a function. -/
def loggedLine (f : Function) (level : String) : NamedLine :=
  ⟨"logger." ++ level ++ "(", "Entering function: ", f.name, "", ")"⟩

/-- The line that prints a parameter. -/
def parameterLine (p : Parameter) : NamedLine :=
  ⟨"println!(", "  param '", p.name, "' = \x7b:?\x7d", ", " ++ p.name ++ ");"⟩

/-- The line that prints the exit of a function, with its result if it has one. -/
def exitLine (f : Function) : NamedLine :=
  if f.result.isSome then
    ⟨"println!(", "[EXIT] ", f.name, " => \x7b:?\x7d", ", __wit_result);"⟩
  else ⟨"println!(", "[EXIT] ", f.name, "", ");"⟩

/-- The line that prints the entry of a function. -/
def entryLine (f : Function) : NamedLine := ⟨"println!(", "[ENTRY] ", f.name, "", ");"⟩

/-- The lines that print a call. -/
def callLines (f : Function) : List NamedLine :=
  entryLine f :: f.parameters.map parameterLine ++ [exitLine f]

/-- The visitors that name a function in its body, each with the lines that it may add there. -/
def bodyTemplates (f : Function) : List (Visitor σ × List (List NamedLine)) :=
  [(tracing, tracingLevels.map fun level => [tracedLine f level]),
    (callLog, [callLines f]),
    (loggerTrace, loggerLevels.map fun level => [loggedLine f level])]

section Body

variable {p : Payload} {f : Function}

theorem plain_empty : NamedLine.IsPlain "" := by decide

theorem plain_entering : NamedLine.IsPlain "Entering function: " := by decide

theorem plain_tracedLine {level : String} (known : level ∈ tracingLevels) :
    (tracedLine f level).Plain := by
  have unquoted : ∀ level ∈ tracingLevels, '"' ∉ ("tracing::" ++ level ++ "!(").toList := by decide
  exact ⟨unquoted level known, plain_entering, plain_empty⟩

theorem plain_loggedLine {level : String} (known : level ∈ loggerLevels) :
    (loggedLine f level).Plain := by
  have unquoted : ∀ level ∈ loggerLevels, '"' ∉ ("logger." ++ level ++ "(").toList := by decide
  exact ⟨unquoted level known, plain_entering, plain_empty⟩

theorem plain_of_mem_callLines {l : NamedLine} (h : l ∈ callLines f) : l.Plain := by
  have unquoted : '"' ∉ "println!(".toList := by decide
  rcases List.mem_append.mp h with entry | exit
  · rcases List.mem_cons.mp entry with rfl | parameter
    · exact ⟨unquoted, (by decide : NamedLine.IsPlain "[ENTRY] "), plain_empty⟩
    · obtain ⟨p, -, rfl⟩ := List.mem_map.mp parameter
      exact ⟨unquoted, (by decide : NamedLine.IsPlain "  param '"),
        (by decide : NamedLine.IsPlain "' = \x7b:?\x7d")⟩
  · obtain rfl := List.mem_singleton.mp exit
    have exit_plain : NamedLine.IsPlain "[EXIT] " := by decide
    rw [exitLine]
    split
    · exact ⟨unquoted, exit_plain, (by decide : NamedLine.IsPlain " => \x7b:?\x7d")⟩
    · exact ⟨unquoted, exit_plain, plain_empty⟩

theorem render_tracedLine (f : Function) (level : String) : (tracedLine f level).render =
    "tracing::" ++ level ++ "!(\"Entering function: " ++ f.name ++ "\");" := by
  rw [← String.toList_inj]
  simp [NamedLine.render, NamedLine.inside, tracedLine]

theorem render_loggedLine (f : Function) (level : String) : (loggedLine f level).render =
    "logger." ++ level ++ "(\"Entering function: " ++ f.name ++ "\")" := by
  rw [← String.toList_inj]
  simp [NamedLine.render, NamedLine.inside, loggedLine]

theorem render_entryLine (f : Function) :
    (entryLine f).render = "println!(\"[ENTRY] " ++ f.name ++ "\");" := by
  rw [← String.toList_inj]
  simp [NamedLine.render, NamedLine.inside, entryLine]

theorem render_parameterLine (p : Parameter) : (parameterLine p).render =
    "println!(\"  param '" ++ p.name ++ "' = \x7b:?\x7d\", " ++ p.name ++ ");" := by
  rw [← String.toList_inj]
  simp [NamedLine.render, NamedLine.inside, parameterLine]

theorem render_exitLine (f : Function) : (exitLine f).render =
    if f.result.isSome then
      "println!(\"[EXIT] " ++ f.name ++ " => \x7b:?\x7d\", " ++ resultBinding ++ ");"
    else "println!(\"[EXIT] " ++ f.name ++ "\");" := by
  rw [← String.toList_inj, exitLine]
  split <;> simp [NamedLine.render, NamedLine.inside, resultBinding]

theorem Tracer.run_function (t : Tracer) (state : σ) :
    (t.visitor.hook ⟨p, .function f, none⟩).run state = (.nothing, state) ∨
    ∃ level ∈ t.levels, (t.visitor.hook ⟨p, .function f, none⟩).run state =
      (.contribution (t.entry level f.name), state) := by
  rw [Tracer.visitor, run_ofFunction rfl, Tracer.answer]
  split
  · rename_i known
    exact .inr ⟨_, known, rfl⟩
  · exact .inl rfl

theorem callLog_run_function (state : σ) :
    ∃ c, (callLog.hook ⟨p, .function f, none⟩).run state = (.contribution c, state) ∧
      c.bodyLines = (callLines f).map NamedLine.render := by
  rw [callLog, run_ofFunction rfl]
  refine ⟨_, rfl, ?_⟩
  rw [callLines, List.map_append, List.map_cons, List.map_map, List.map_singleton, render_entryLine,
    render_exitLine, Function.comp_def, funext render_parameterLine]
  rfl

/-- The literals in the lines of a tracer end where they should exactly when their names stay in
them. -/
theorem Tracer.encloses (t : Tracer) {line : String → NamedLine}
    (plain : ∀ level ∈ t.levels, (line level).Plain)
    (writes : ∀ level, (t.entry level f.name).bodyLines = [(line level).render]) (state : σ) :
    (t.visitor.hook ⟨p, .function f, none⟩).run state = (.nothing, state) ∨
    ∃ lines ∈ t.levels.map fun level => [line level], ∃ c,
      (t.visitor.hook ⟨p, .function f, none⟩).run state = (.contribution c, state) ∧
      c.bodyLines = lines.map NamedLine.render ∧ ∀ l ∈ lines, (l.Closes ↔ l.Encloses) := by
  rcases t.run_function (p := p) (f := f) state with nothing | ⟨level, known, answer⟩
  · exact .inl nothing
  · refine .inr ⟨_, List.mem_map_of_mem known, _, answer, writes level, fun l member => ?_⟩
    obtain rfl := List.mem_singleton.mp member
    exact NamedLine.closes_iff (plain level known)

/-- A visitor adds the lines of one of its templates to a body, if any, and each literal in them
ends where it should exactly when its name stays in it. -/
theorem body_encloses {template : Visitor σ × List (List NamedLine)}
    (writes : template ∈ bodyTemplates f) (state : σ) :
    (template.1.hook ⟨p, .function f, none⟩).run state = (.nothing, state) ∨
    ∃ lines ∈ template.2, ∃ c,
      (template.1.hook ⟨p, .function f, none⟩).run state = (.contribution c, state) ∧
      c.bodyLines = lines.map NamedLine.render ∧ ∀ l ∈ lines, (l.Closes ↔ l.Encloses) := by
  simp only [bodyTemplates, List.mem_cons, List.not_mem_nil, or_false] at writes
  rcases writes with rfl | rfl | rfl
  · rw [tracing_eq]
    exact Tracer.rust.encloses (fun _ => plain_tracedLine)
      (fun level => congrArg ([·]) (render_tracedLine f level).symm) state
  · obtain ⟨c, answer, body⟩ := callLog_run_function (p := p) (f := f) state
    exact .inr ⟨_, List.mem_singleton_self _, c, answer, body, fun l member =>
      NamedLine.closes_iff (plain_of_mem_callLines member)⟩
  · rw [loggerTrace_eq]
    exact Tracer.python.encloses (fun _ => plain_loggedLine)
      (fun level => congrArg ([·]) (render_loggedLine f level).symm) state

end Body

/-- The characters at which a text breaks into lines. -/
def lineBreaks : List Char :=
  ['\n', '\x0b', '\x0c', '\r', '\x1c', '\x1d', '\x1e', '\x85', '\u2028', '\u2029']

theorem lineBreaks_disjoint {s : String}
    (h : lineBreaks.any s.toList.contains = false) : lineBreaks.Disjoint s.toList :=
  fun _ listed member => List.any_eq_false.mp h _ listed (List.contains_iff_mem.mpr member)

/-- A comment breaks where its version does. -/
theorem lineBreak_mem_note_iff {node : Node} (commented : node.kind ∈ [.interface, .world])
    (version : String) {c : Char} (lineBreak : c ∈ lineBreaks) :
    c ∈ (versionNote version node).2.toList ↔ c ∈ version.toList := by
  have behind {start : String} (unbroken : lineBreaks.Disjoint start.toList) :
      c ∈ (start ++ version).toList ↔ c ∈ version.toList := by
    rw [String.toList_append, List.mem_append, or_iff_right (unbroken lineBreak)]
  have versioned : node.kind ∈ versionedKinds := List.mem_cons_of_mem _ commented
  obtain ⟨f, rfl⟩ | ⟨i, rfl⟩ | ⟨w, rfl⟩ := exists_of_versionedKinds versioned
  · exact absurd commented (by decide : NodeKind.function ∉ [.interface, .world])
  · exact behind (lineBreaks_disjoint (by decide))
  · exact behind (lineBreaks_disjoint (by decide))

/-- When names stay in their literals and versions in their comments. Each line that a visitor adds
to a body has one of the forms of the visitor, with a name in its first literal. The literal ends
where it should exactly when no double quote of the name has an even number of backslashes right
before it and, where the closing quote stands right behind the name, the name ends with an even
number of backslashes. The comment at an interface or a world has the line breaks of its version. -/
theorem lines_enclose_iff (f : Function) (p : Payload) (state : σ) :
    (∀ template ∈ bodyTemplates f,
      (template.1.hook ⟨p, .function f, none⟩).run state = (.nothing, state) ∨
      ∃ lines ∈ template.2, ∃ c,
        (template.1.hook ⟨p, .function f, none⟩).run state = (.contribution c, state) ∧
        c.bodyLines = lines.map NamedLine.render ∧ ∀ l ∈ lines, (l.Closes ↔ l.Encloses)) ∧
    ∀ node : Node, node.kind ∈ [.interface, .world] →
      (version? p = none ∧ (since.hook ⟨p, node, none⟩).run state = (.nothing, state)) ∨
      ∃ version c, version? p = some version ∧
        (since.hook ⟨p, node, none⟩).run state = (.contribution c, state) ∧
        c.NotesVersion node version ∧
        ∀ lineBreak ∈ lineBreaks,
          (lineBreak ∈ (versionNote version node).2.toList ↔ lineBreak ∈ version.toList) := by
  refine ⟨fun template writes => body_encloses writes state, fun node commented => ?_⟩
  have versioned : node.kind ∈ versionedKinds := List.mem_cons_of_mem _ commented
  cases told : version? p with
  | none => exact .inl ⟨rfl, since_run_of_none versioned told state⟩
  | some version =>
    obtain ⟨c, answer, notes⟩ := since_run_of_some versioned told state
    exact .inr ⟨version, c, rfl, answer, notes, fun _ => lineBreak_mem_note_iff commented version⟩

/-- A function whose parameter ends with a backslash, which skips a character of the line but not
its closing quote. -/
def backslashedFunction : Function := ⟨⟨"get\\\"s", none, []⟩, [⟨"path\\", "string"⟩], none⟩

theorem lines_enclose_iff_backslashed :
    (∃ c, (callLog.hook ⟨⟨"log", [], ∅⟩, .function backslashedFunction, none⟩).run () =
        (.contribution c, ()) ∧
      c.bodyLines = (callLines backslashedFunction).map NamedLine.render ∧
      ∀ l ∈ callLines backslashedFunction, l.Closes) ∧
    versionedInterface.kind ∈ [NodeKind.interface, .world] ∧
    ∃ c, (since.hook ⟨versionText "since" " 1.4 ", versionedInterface, none⟩).run () =
        (.contribution c, ()) ∧
      c.NotesVersion versionedInterface "1.4" ∧
      ∀ lineBreak ∈ lineBreaks, lineBreak ∉ (versionNote "1.4" versionedInterface).2.toList := by
  have commented : versionedInterface.kind ∈ [NodeKind.interface, .world] := by decide
  refine ⟨?_, commented, ?_⟩
  · obtain ⟨body, -⟩ := lines_enclose_iff backslashedFunction ⟨"log", [], ∅⟩ ()
    have function : ¬ Literal.HasOpenQuote "get\\\"s".toList ∧
        Even (Literal.backslashesAtEnd "get\\\"s".toList) :=
      (Literal.close?_iff _ []).mp (by decide)
    have parameter : ¬ Literal.HasOpenQuote "path\\".toList := fun h =>
      absurd (Literal.quote_mem_of_hasOpenQuote h) (by decide)
    rcases body (callLog, [callLines backslashedFunction]) (.tail _ (.head _)) with
      nothing | ⟨lines, member, c, answer, added, closes⟩
    · cases nothing
    · obtain rfl := List.mem_singleton.mp member
      refine ⟨c, answer, added, fun l line => (closes l line).mpr ?_⟩
      have each : l = entryLine backslashedFunction ∨ l = parameterLine ⟨"path\\", "string"⟩ ∨
          l = exitLine backslashedFunction := by
        simpa [callLines, backslashedFunction] using line
      rcases each with rfl | rfl | rfl
      · exact ⟨function.1, fun _ => function.2⟩
      · exact ⟨parameter, fun bare => absurd bare (by decide)⟩
      · exact ⟨function.1, fun _ => function.2⟩
  · obtain ⟨-, comments⟩ :=
      lines_enclose_iff backslashedFunction (versionText "since" " 1.4 ") ()
    have told : version? (versionText "since" " 1.4 ") = some "1.4" := by decide
    rcases comments versionedInterface commented with
      ⟨untold, -⟩ | ⟨version, c, told', answer, notes, breaks⟩
    · exact absurd (told.symm.trans untold) (Option.some_ne_none _)
    · obtain rfl := Option.some.inj (told.symm.trans told')
      have unbroken : lineBreaks.Disjoint "1.4".toList := lineBreaks_disjoint (by decide)
      exact ⟨c, answer, notes, fun lineBreak listed =>
        mt (breaks lineBreak listed).mp (unbroken listed)⟩

/-- A function with a double quote in its name. -/
def quotedFunction : Function := ⟨⟨"a\"b", none, []⟩, [], none⟩

/-- A schema with a function that has a double quote in its name. -/
def quotedSchema : Schema :=
  ⟨"1.0", "app", [⟨⟨"api", none, []⟩, none, [], [quotedFunction]⟩], []⟩

/-- A double quote in the name of a function of a schema that is loaded ends the literal of its
line, so that the rest of the name is read as code, and a version with a line break leaves its
comment. -/
theorem quoted_name_leaves_literal :
    Schema.load quotedSchema.dump = .ok quotedSchema ∧
    (∃ c, (tracing.hook ⟨⟨"trace", [], ∅⟩, .function quotedFunction, none⟩).run () =
        (.contribution c, ()) ∧
      c.bodyLines = ["tracing::debug!(\"Entering function: a\"b\");"]) ∧
    Literal.first? "tracing::debug!(\"Entering function: a\"b\");".toList =
      some ("Entering function: a".toList, "b\");".toList) ∧
    ∃ c, (since.hook ⟨versionText "since" "1\n2", versionedInterface, none⟩).run () =
        (.contribution c, ()) ∧
      c.NotesVersion versionedInterface "1\n2" ∧
      (versionNote "1\n2" versionedInterface).2 = "// Interface available since version: 1\n2" := by
  have short : quotedSchema.Identifiable := by
    simp [quotedSchema, Schema.Identifiable, Interface.Identifiable]
  refine ⟨Schema.load_dump short, ⟨_, rfl, by decide⟩, by decide, ?_⟩
  have told : version? (versionText "since" "1\n2") = some "1\n2" := by decide
  have versioned : versionedInterface.kind ∈ versionedKinds := by decide
  obtain ⟨c, answer, notes⟩ := since_run_of_some versioned told ()
  exact ⟨c, answer, notes, by decide⟩

end Visitor

end SchemaWeaver

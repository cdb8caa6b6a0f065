import CssSelector.Proofs.Arguments
import CssSelector.Proofs.AssemblyFailure
import CssSelector.Proofs.PrintableMessages
import CssSelector.Proofs.StandardToolkit

set_option autoImplicit false

namespace CssSelector

/-- All events are details, which no level but the lowest lets through. -/
theorem Event.reports_eq_nil {threshold : Level} (quiet : threshold ≠ .debug)
    (events : List Event) : reports threshold events = [] := by
  rw [reports, List.map_eq_nil_iff, List.filter_eq_nil_iff]
  intro event _
  cases threshold with
  | debug => exact absurd rfl quiet
  | info => exact Bool.false_ne_true
  | warning => exact Bool.false_ne_true
  | error => exact Bool.false_ne_true

theorem assemble_ne_emptySeparator {config : Config} (separated : config.kindSeparator ≠ "")
    (tokens : List String) : (assemble config tokens).result ≠ .error .emptySeparator := by
  intro failed
  rcases (assemble_eq_error_iff separated).mp failed with ⟨_, _, _, _, _, fault⟩ | ⟨_, _, other⟩
  · cases fault
  · cases other

/-- The name of a level among the conventions does not matter for the tokens. -/
theorem assemble_conventions (level : Level) (tokens : List String) :
    assemble (CommandLine.Program.conventions level) tokens = assemble {} tokens := by
  have run (assembly : Assembly) : assembly.run (CommandLine.Program.conventions level) tokens =
      assembly.run {} tokens := by
    induction tokens generalizing assembly with
    | nil => rfl
    | cons token rest ih =>
      simp only [Assembly.run, ih]
      rfl
  exact run {}

namespace CommandLine

open Text.ControlSequence (strip strip_append_of_plain strip_of_plain)

namespace Report

/-- A report that tells the result of assembling a selector: its text without control sequences, or
the error, behind the usage of the command if the tokens are malformed. No error stays uncaught. -/
inductive Tells (toolkit : Toolkit) : Except AssemblyError Selector → Report → Prop where
  | selector (selector : Selector) :
      Tells toolkit (.ok selector)
        { exitCode := 0, output := strip selector.text ++ "\n", level := .warning }
  | rejected (error : PartError) :
      Tells toolkit (.error (.rejected error))
        { exitCode := 1, errorOutput := "Error: " ++ error.message ++ "\n", level := .warning }
  | malformed (error : TokenError) :
      Tells toolkit (.error (.malformed error))
        { exitCode := 2
          errorOutput :=
            toolkit.usage Command.build.interface "cssbuilder build" ++
              ("Error: Invalid value for TOKENS: " ++ strip error.message ++ "\n")
          level := .warning }

/-- A report of a selector whose text the output stream refuses. -/
def Withholds (toolkit : Toolkit) (result : Except AssemblyError Selector) (report : Report) :
    Prop :=
  ∃ selector message, result = .ok selector ∧ toolkit.echo selector.text = .error message ∧
    report = escape .warning (.unwritable message)

theorem not_withholds {toolkit : Toolkit} (writes : toolkit.WritesAll)
    {result : Except AssemblyError Selector} {report : Report} :
    ¬ Withholds toolkit result report := by
  rintro ⟨selector, message, _, refused, _⟩
  obtain ⟨line, taken⟩ := writes selector.text
  rw [taken] at refused
  cases refused

theorem withEvents_of_quiet (report : Report) (quiet : report.level ≠ .debug)
    (events : List Event) : report.withEvents events = report := by
  simp only [withEvents, Event.reports_eq_nil quiet, List.map_nil, String.join_nil,
    String.empty_append]

section Echoing

variable {toolkit : Toolkit} (level : Level) {text : String}

theorem echoing_of_ok {line : String} (taken : toolkit.echo text = .ok line) :
    echoing toolkit level [text] = answer level line := by
  simp only [echoing, taken, answer, String.append_empty]

theorem echoing_of_error {message : String} (refused : toolkit.echo text = .error message)
    (rest : List String) :
    echoing toolkit level (text :: rest) = escape level (.unwritable message) := by
  simp only [echoing, refused]

theorem echoing_of_taken {texts : List String}
    (taken : ∀ text ∈ texts, ∃ line, toolkit.echo text = .ok line) :
    ∃ lines : List String, texts.map toolkit.echo = lines.map .ok ∧
      echoing toolkit level texts = answer level (String.join lines) := by
  induction texts with
  | nil => exact ⟨[], rfl, rfl⟩
  | cons text rest ih =>
    obtain ⟨⟨line, first⟩, others⟩ := List.forall_mem_cons.mp taken
    obtain ⟨lines, same, told⟩ := ih others
    refine ⟨line :: lines, ?_, ?_⟩
    · rw [List.map_cons, List.map_cons, first, same]
    · simp only [echoing, first, told, answer, String.join_cons]

end Echoing

end Report

namespace Toolkit

variable {toolkit : Toolkit}

theorem Captured.echoError_partError (captured : toolkit.Captured) (error : PartError) :
    toolkit.echoError ("Error: " ++ error.message) = "Error: " ++ error.message ++ "\n" := by
  rw [captured.echoError_eq, strip_append_of_plain "Error: " error.message (by decide),
    strip_of_plain _ error.prints_message.isInert.unescaped]

theorem badOperand_tokens (documented : toolkit.Documented) (captured : toolkit.Captured)
    (command : CommandInterface) (path message : String) :
    toolkit.badOperand command path "TOKENS" message =
      toolkit.usage command path ++
        ("Error: Invalid value for TOKENS: " ++ strip message ++ "\n") := by
  have plain : '\x1b' ∉ ("Error: Invalid value for TOKENS: ").toList := by decide +kernel
  have opening : "Error: Invalid value for " ++ "TOKENS" ++ ": " =
      "Error: Invalid value for TOKENS: " := by
    decide +kernel
  rw [documented.badOperand_eq, captured.echoError_eq, opening, strip_append_of_plain _ _ plain]

end Toolkit

namespace Command

section Results

variable (toolkit : Toolkit) {config : Config} {tokens : List String} (path : String)
  (level : Level)

theorem reportSelector_of_ok {selector : Selector}
    (outcome : (assemble config tokens).result = .ok selector) :
    reportSelector toolkit path level config tokens =
      (Report.echoing toolkit level [selector.text]).withEvents
        (assemble config tokens).events := by
  simp only [reportSelector, outcome]

theorem reportSelector_of_malformed {error : TokenError}
    (outcome : (assemble config tokens).result = .error (.malformed error)) :
    reportSelector toolkit path level config tokens =
      (Report.refusal toolkit level
        (toolkit.badOperand build.interface path "TOKENS" error.message)).withEvents
          (assemble config tokens).events := by
  simp only [reportSelector, outcome]

theorem reportSelector_of_rejected {error : PartError}
    (outcome : (assemble config tokens).result = .error (.rejected error)) :
    reportSelector toolkit path level config tokens =
      Report.withEvents
        { exitCode := 1, errorOutput := toolkit.echoError ("Error: " ++ error.message), level }
        (assemble config tokens).events := by
  simp only [reportSelector, outcome]

theorem reportSelector_of_emptySeparator
    (outcome : (assemble config tokens).result = .error .emptySeparator) :
    reportSelector toolkit path level config tokens =
      (Report.escape level .emptySeparator).withEvents (assemble config tokens).events := by
  simp only [reportSelector, outcome]

end Results

/-- Under its own conventions the program runs a command as under the default ones. -/
theorem run_conventions (toolkit : Toolkit) (command : Command) (path : String)
    (level chosen : Level) (arguments : List String) :
    command.run toolkit path level (Program.conventions chosen) arguments =
      command.run toolkit path level {} arguments := by
  have performs (operands : List String) :
      command.perform toolkit path level (Program.conventions chosen) operands =
        command.perform toolkit path level {} operands := by
    cases command with
    | kinds => rfl
    | build => simp only [perform, reportSelector, assemble_conventions]
  exact congrArg (Report.ofOutcome toolkit level _) (funext performs)

section Documented

variable {toolkit : Toolkit} (documented : toolkit.Documented)

include documented

/-- Under conventions with a separator, what is reported without events is the result, unless it is
a text that is refused. -/
theorem reportSelector_tells (captured : toolkit.Captured) (tokens : List String) :
    Report.Tells toolkit (assemble {} tokens).result
        (reportSelector toolkit "cssbuilder build" .warning {} tokens) ∨
      Report.Withholds toolkit (assemble {} tokens).result
        (reportSelector toolkit "cssbuilder build" .warning {} tokens) := by
  have separated : ({} : Config).kindSeparator ≠ "" := by decide
  have quiet : Level.warning ≠ .debug := by decide
  cases outcome : (assemble {} tokens).result with
  | ok selector =>
    rw [reportSelector_of_ok toolkit _ _ outcome]
    cases taken : toolkit.echo selector.text with
    | ok line =>
      rw [Report.echoing_of_ok _ taken, Report.withEvents_of_quiet _ quiet, captured.echo_eq taken]
      exact .inl (.selector selector)
    | error message =>
      rw [Report.echoing_of_error _ taken, Report.withEvents_of_quiet _ quiet]
      exact .inr ⟨selector, message, rfl, taken, rfl⟩
  | error error =>
    cases error with
    | emptySeparator => exact absurd outcome (assemble_ne_emptySeparator separated tokens)
    | malformed error =>
      rw [reportSelector_of_malformed toolkit _ _ outcome, Report.withEvents_of_quiet _ quiet,
        toolkit.badOperand_tokens documented captured, Report.refusal, documented.refusalCode_eq]
      exact .inl (.malformed error)
    | rejected error =>
      rw [reportSelector_of_rejected toolkit _ _ outcome, Report.withEvents_of_quiet _ quiet,
        captured.echoError_partError]
      exact .inl (.rejected error)

theorem run_build (arguments : List String) (config : Config) :
    Entry.run toolkit .program ("build" :: arguments) config =
      build.run toolkit "cssbuilder build" .warning {} arguments := by
  have read : toolkit.read Program.interface.options ("build" :: arguments) =
      .ok { operands := "build" :: arguments } :=
    documented.read_first rfl build.isOption_name arguments
  exact Program.run_of_passed (documented.enter_of_level read rfl)

theorem run_of_operands {arguments tokens : List String} (given : tokens ≠ [])
    (read : toolkit.read CommandInterface.options arguments = .ok { operands := tokens })
    (path : String) (level : Level) (config : Config) :
    build.run toolkit path level config arguments =
      reportSelector toolkit path level config tokens := by
  have accepted : build.interface.accepts tokens = true := by
    cases tokens with
    | nil => exact absurd rfl given
    | cons first others => rfl
  exact run_of_passed (documented.call_accepted read rfl accepted) level config

end Documented

end Command

/-- A stream whose encoding has no more characters than ASCII refuses the text of an element. -/
example :
    Entry.run
      { Toolkit.captured with
        echo := fun text =>
          if text.toList.all (·.toNat < 0x80) then .ok (text ++ "\n") else .error "not ASCII" }
      .program ["build", "element:é"] {} =
        { exitCode := 1, level := .warning, uncaught := some (.unwritable "not ASCII") } := by
  decide +kernel

end CommandLine

end CssSelector

import CssSelector.Proofs.BuildReport

set_option autoImplicit false

namespace CssSelector

/-- The lines on which events are reported when details are let through. -/
def Event.lines (events : List Event) : String :=
  String.join (events.map fun event => "DEBUG:cssbuilder:" ++ event.message ++ "\n")

theorem Event.lines_eq (events : List Event) :
    lines events = String.join ((reports .debug events).map (· ++ "\n")) := by
  rw [reports_debug, List.map_map]
  rfl

namespace CommandLine

namespace Report

/-- Events come before what else is told of errors, and only at the least level. -/
theorem withEvents_eq (report : Report) (events : List Event) :
    report.withEvents events =
      { report with
        errorOutput :=
          (if report.level = .debug then Event.lines events else "") ++ report.errorOutput } := by
  by_cases loud : report.level = .debug
  · rw [if_pos loud, Event.lines_eq, withEvents, loud]
  · rw [if_neg loud, String.empty_append]
    exact report.withEvents_of_quiet loud events

@[simp] theorem withEvents_nil (report : Report) : report.withEvents [] = report :=
  congrArg (fun text => { report with errorOutput := text }) String.empty_append

theorem echoing_level (toolkit : Toolkit) (level other : Level) (texts : List String) :
    echoing toolkit level texts = { echoing toolkit other texts with level } := by
  induction texts with
  | nil => rfl
  | cons text rest ih =>
    simp only [echoing, ih]
    cases toolkit.echo text <;> rfl

theorem uncaught_echoing {toolkit : Toolkit} (writes : toolkit.WritesAll) (level : Level)
    (texts : List String) : (echoing toolkit level texts).uncaught = none := by
  obtain ⟨lines, _, told⟩ := echoing_of_taken level fun text (_ : text ∈ texts) => writes text
  rw [told]
  rfl

end Report

namespace Command

/-- Whether a command that is called by a path assembles tokens when it is given some arguments: it
is the one that builds, and the tokens are passed on to it. -/
structure Assembles (toolkit : Toolkit) (command : Command) (path : String)
    (arguments tokens : List String) : Prop where
  builds : command = .build
  passed : toolkit.call command.interface path arguments = .passed tokens

section Assembles

variable {toolkit : Toolkit} {command : Command} {path : String} {arguments tokens : List String}

theorem Assembles.unique {others : List String}
    (reached : command.Assembles toolkit path arguments tokens)
    (again : command.Assembles toolkit path arguments others) : tokens = others :=
  Outcome.passed.inj (reached.passed.symm.trans again.passed)

theorem Assembles.run_eq (reached : command.Assembles toolkit path arguments tokens)
    (level : Level) (config : Config) :
    command.run toolkit path level config arguments =
      reportSelector toolkit path level config tokens := by
  rw [run_of_passed reached.passed, reached.builds]
  rfl

/-- The command that builds is not called without tokens. -/
theorem Assembles.given (reached : command.Assembles toolkit path arguments tokens)
    (documented : toolkit.Documented) : tokens ≠ [] := by
  rintro rfl
  have passed := reached.passed
  rw [reached.builds] at passed
  rcases documented.call_cases build.interface path arguments with
    ⟨text, _, shown⟩ | ⟨complaint, refused⟩ | ⟨operands, accepted, again⟩
  · rw [shown] at passed
    cases passed
  · rw [refused] at passed
    cases passed
  · rw [again] at passed
    obtain rfl := Outcome.passed.inj passed
    cases accepted

end Assembles

section Levels

variable {toolkit : Toolkit}

/-- A command that assembles no tokens shows a text, or complains, or lists the kinds of parts. -/
theorem run_of_idle (documented : toolkit.Documented) (command : Command) (path : String)
    (config : Config) {arguments : List String}
    (idle : ∀ tokens, ¬ command.Assembles toolkit path arguments tokens) :
    (∃ text, text ≠ "" ∧
      ∀ level, command.run toolkit path level config arguments = Report.answer level text) ∨
    (∃ complaint, ∀ level,
      command.run toolkit path level config arguments = Report.refusal toolkit level complaint) ∨
    ∀ level,
      command.run toolkit path level config arguments =
        Report.echoing toolkit level kindLines := by
  rcases documented.call_cases command.interface path arguments with
    ⟨text, full, shown⟩ | ⟨complaint, refused⟩ | ⟨operands, _, passed⟩
  · refine .inl ⟨text, full, ?_⟩
    intro level
    rw [run, shown]
    rfl
  · refine .inr (.inl ⟨complaint, ?_⟩)
    intro level
    rw [run, refused]
    rfl
  · cases command with
    | build => exact absurd ⟨rfl, passed⟩ (idle operands)
    | kinds =>
      refine .inr (.inr ?_)
      intro level
      exact run_of_passed passed level config

/-- What comes of the tokens is reported in the same way at every level, but for the events. -/
theorem reportSelector_at_level (toolkit : Toolkit) (path : String) {config : Config}
    (separated : config.kindSeparator ≠ "") (tokens : List String) :
    ∃ report : Report, (toolkit.WritesAll → report.uncaught = none) ∧
      ∀ level, reportSelector toolkit path level config tokens =
        Report.withEvents { report with level } (assemble config tokens).events := by
  cases outcome : (assemble config tokens).result with
  | ok selector =>
    refine ⟨Report.echoing toolkit .warning [selector.text],
      fun writes => Report.uncaught_echoing writes _ _, ?_⟩
    intro level
    rw [reportSelector_of_ok toolkit path level outcome,
      Report.echoing_level toolkit level .warning]
  | error error =>
    cases error with
    | emptySeparator => exact absurd outcome (assemble_ne_emptySeparator separated tokens)
    | malformed error =>
      refine ⟨Report.refusal toolkit .warning
        (toolkit.badOperand build.interface path "TOKENS" error.message), fun _ => rfl, ?_⟩
      intro level
      exact reportSelector_of_malformed toolkit path level outcome
    | rejected error =>
      refine ⟨{ exitCode := 1, errorOutput := toolkit.echoError ("Error: " ++ error.message)
                level := .warning }, fun _ => rfl, ?_⟩
      intro level
      exact reportSelector_of_rejected toolkit path level outcome

/-- A command has one report for all levels, with the events in front of it that occur while it
assembles tokens, and none if it does not come to that. -/
theorem run_at_level (documented : toolkit.Documented) (command : Command) (path : String)
    {config : Config} (separated : config.kindSeparator ≠ "") (arguments : List String) :
    ∃ (report : Report) (events : List Event), (toolkit.WritesAll → report.uncaught = none) ∧
      (∀ level, command.run toolkit path level config arguments =
        Report.withEvents { report with level } events) ∧
      (∀ tokens, command.Assembles toolkit path arguments tokens →
        events = (assemble config tokens).events) ∧
      ((∀ tokens, ¬ command.Assembles toolkit path arguments tokens) → events = []) := by
  by_cases idle : ∀ tokens, ¬ command.Assembles toolkit path arguments tokens
  · have told : ∃ report : Report, (toolkit.WritesAll → report.uncaught = none) ∧
        ∀ level, command.run toolkit path level config arguments = { report with level } := by
      rcases run_of_idle documented command path config idle with
        ⟨text, _, shows⟩ | ⟨complaint, refuses⟩ | lists
      · exact ⟨Report.answer .warning text, fun _ => rfl, shows⟩
      · exact ⟨Report.refusal toolkit .warning complaint, fun _ => rfl, refuses⟩
      · refine ⟨Report.echoing toolkit .warning kindLines,
          fun writes => Report.uncaught_echoing writes _ _, ?_⟩
        intro level
        exact (lists level).trans (Report.echoing_level toolkit level .warning kindLines)
    obtain ⟨report, caught, told⟩ := told
    refine ⟨report, [], caught, ?_, ?_, fun _ => rfl⟩
    · intro level
      rw [told, Report.withEvents_nil]
    · intro tokens reached
      exact absurd reached (idle tokens)
  · rw [not_forall_not] at idle
    obtain ⟨tokens, reached⟩ := idle
    obtain ⟨report, caught, told⟩ := reportSelector_at_level toolkit path separated tokens
    refine ⟨report, (assemble config tokens).events, caught, ?_, ?_, ?_⟩
    · intro level
      rw [reached.run_eq, told]
    · intro others again
      rw [reached.unique again]
    · intro idle
      exact absurd reached (idle tokens)

end Levels

end Command

section Spelled

variable {toolkit : Toolkit} (documented : toolkit.Documented)

include documented

/-- The program runs the command that follows an option for the level, at the level that the word in
it names. -/
theorem run_at_spelled_level (config : Config) (command : Command) (arguments : List String)
    {level : Level} {word : String} (spelled : level.IsSpelled word) :
    Entry.run toolkit .program ("--log-level" :: word :: command.name :: arguments) config =
      command.run toolkit (Program.path command) level {} arguments := by
  have read : toolkit.read Program.interface.options
      ("--log-level" :: word :: command.name :: arguments) =
        .ok { words := [word], operands := command.name :: arguments } := by
    have choice : Program.interface.options.choice? = some "--log-level" := rfl
    rw [documented.read_apart choice, documented.read_first rfl command.isOption_name]
    rfl
  have passed := documented.enter_of_level read spelled.ofWord?
  exact (Program.run_of_passed passed).trans (Command.run_conventions _ _ _ _ _ _)

end Spelled

end CommandLine

end CssSelector

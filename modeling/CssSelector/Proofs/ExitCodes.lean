import CssSelector.Proofs.EventLevels

set_option autoImplicit false

namespace CssSelector

/-- No token can be read without a separator, and there is no other reason for this error. -/
theorem assemble_eq_emptySeparator_iff {config : Config} {tokens : List String} :
    (assemble config tokens).result = .error .emptySeparator ↔
      config.kindSeparator = "" ∧ tokens ≠ [] := by
  constructor
  · intro failed
    constructor
    · by_contra separated
      exact assemble_ne_emptySeparator separated tokens failed
    · rintro rfl
      cases failed
  · intro unreadable
    obtain ⟨blank, given⟩ := unreadable
    cases tokens with
    | nil => exact absurd rfl given
    | cons first others =>
      have unread : Token.read? config.kindSeparator first = none := by
        rw [Token.read?, if_pos blank]
      have failed : Assembly.step config {} first = .failure .emptySeparator [] := by
        simp only [Assembly.step, unread]
      rw [assemble, Assembly.run, failed, Attempt.bind_failure]
      rfl

namespace CommandLine

/-- The errors that no message tells of, by the result of assembling a selector: there is no
separator, or the output stream refuses the text of the selector. -/
inductive Toolkit.Escapes (toolkit : Toolkit) :
    Except AssemblyError Selector → Escape → Prop where
  | emptySeparator : Escapes toolkit (.error .emptySeparator) .emptySeparator
  | unwritable {selector : Selector} {message : String}
      (refused : toolkit.echo selector.text = .error message) :
      Escapes toolkit (.ok selector) (.unwritable message)

theorem Toolkit.Escapes.eq_emptySeparator {toolkit : Toolkit}
    {result : Except AssemblyError Selector} {error : Escape}
    (escapes : toolkit.Escapes result error) (writes : toolkit.WritesAll) :
    error = .emptySeparator := by
  cases escapes with
  | emptySeparator => rfl
  | @unwritable selector message refused =>
    obtain ⟨line, taken⟩ := writes selector.text
    rw [taken] at refused
    cases refused

theorem Toolkit.Escapes.result_eq {toolkit : Toolkit} {result : Except AssemblyError Selector}
    (escapes : toolkit.Escapes result .emptySeparator) : result = .error .emptySeparator := by
  cases escapes
  rfl

/-- Whether an entry assembles tokens, and under which conventions. The program has its own and
comes to it by way of the command; a command by itself takes those that are given. -/
def Entry.Assembles (toolkit : Toolkit) (entry : Entry) (arguments : List String)
    (config conventions : Config) (tokens : List String) : Prop :=
  match entry with
  | .program =>
    ∃ (level : Level) (single : Command) (rest : List String),
      toolkit.enter Program.interface arguments = .passed ⟨level.name, single, rest⟩ ∧
        conventions = Program.conventions level ∧
        single.Assembles toolkit (Program.path single) rest tokens
  | .command single =>
    conventions = config ∧ single.Assembles toolkit Program.name arguments tokens

/-- All the ways in which a run can end. -/
inductive Report.Ends (toolkit : Toolkit) (assembles : Config → List String → Prop) :
    Report → Prop where
  | answered (level : Level) {output : String} (full : output ≠ "") :
      Ends toolkit assembles (.answer level output)
  | refused (level : Level) (complaint : String) :
      Ends toolkit assembles { exitCode := 2, errorOutput := complaint, level }
  | built (level : Level) {conventions : Config} {tokens : List String} {line : String}
      (reached : assembles conventions tokens) (full : line ≠ "") :
      Ends toolkit assembles
        (Report.withEvents (.answer level line) (assemble conventions tokens).events)
  | rejected (level : Level) (complaint : String) {conventions : Config} {tokens : List String}
      {error : PartError} (reached : assembles conventions tokens)
      (outcome : (assemble conventions tokens).result = .error (.rejected error)) :
      Ends toolkit assembles { exitCode := 1, errorOutput := complaint, level }
  | escaped (level : Level) (complaint : String) {conventions : Config} {tokens : List String}
      {error : Escape} (reached : assembles conventions tokens)
      (escapes : toolkit.Escapes (assemble conventions tokens).result error) :
      Ends toolkit assembles
        { exitCode := 1, errorOutput := complaint, level, uncaught := some error }

namespace Report.Ends

variable {toolkit : Toolkit} {assembles : Config → List String → Prop} {report : Report}
  (ends : Ends toolkit assembles report)

include ends

theorem exitCode_cases : report.exitCode = 0 ∨ report.exitCode = 1 ∨ report.exitCode = 2 := by
  cases ends with
  | answered | built => exact .inl rfl
  | rejected | escaped => exact .inr (.inl rfl)
  | refused => exact .inr (.inr rfl)

theorem output_eq_empty_iff : report.output = "" ↔ report.exitCode ≠ 0 := by
  cases ends with
  | answered level full => exact iff_of_false full (fun failed => failed rfl)
  | built level reached full => exact iff_of_false full (fun failed => failed rfl)
  | refused | rejected | escaped => exact iff_of_true rfl (Nat.succ_ne_zero _)

theorem failure (failed : report.exitCode = 1) :
    ∃ conventions tokens, assembles conventions tokens ∧
      ((∃ rejection, (assemble conventions tokens).result = .error (.rejected rejection)) ∨
        ∃ error, toolkit.Escapes (assemble conventions tokens).result error) := by
  cases ends with
  | answered | built | refused => cases failed
  | @rejected level complaint conventions tokens error reached outcome =>
    exact ⟨conventions, tokens, reached, .inl ⟨error, outcome⟩⟩
  | @escaped level complaint conventions tokens error reached escapes =>
    exact ⟨conventions, tokens, reached, .inr ⟨error, escapes⟩⟩

theorem escape {error : Escape} (uncaught : report.uncaught = some error) :
    ∃ conventions tokens, assembles conventions tokens ∧
      toolkit.Escapes (assemble conventions tokens).result error := by
  cases ends with
  | answered | built | refused | rejected => cases uncaught
  | @escaped level complaint conventions tokens other reached escapes =>
    obtain rfl := Option.some.inj uncaught
    exact ⟨conventions, tokens, reached, escapes⟩

theorem events_of_success (succeeded : report.exitCode = 0) :
    report.errorOutput = "" ∨ ∃ conventions tokens, assembles conventions tokens ∧
      report.level = .debug ∧
      report.errorOutput = Event.lines (assemble conventions tokens).events := by
  cases ends with
  | answered => exact .inl rfl
  | refused | rejected | escaped => cases succeeded
  | @built level conventions tokens line reached full =>
    rw [withEvents_eq]
    by_cases loud : level = .debug
    · refine .inr ⟨conventions, tokens, reached, loud, ?_⟩
      simp only [answer, loud, ↓reduceIte, String.append_empty]
    · refine .inl ?_
      simp only [answer, loud, ↓reduceIte, String.append_empty]

end Report.Ends

section Ends

variable {toolkit : Toolkit} {assembles : Config → List String → Prop}

theorem Toolkit.Captured.echo_ne_empty (captured : toolkit.Captured) {text line : String}
    (taken : toolkit.echo text = .ok line) : line ≠ "" := by
  rw [captured.echo_eq taken, ne_eq, String.append_eq_empty_iff]
  exact fun blank => absurd blank.2 (by decide)

theorem Command.reportSelector_of_escape {result : Except AssemblyError Selector} {error : Escape}
    (escapes : toolkit.Escapes result error) {config : Config} {tokens : List String}
    (outcome : (assemble config tokens).result = result) (path : String) (level : Level) :
    reportSelector toolkit path level config tokens =
      (Report.escape level error).withEvents (assemble config tokens).events := by
  cases escapes with
  | emptySeparator => exact reportSelector_of_emptySeparator toolkit path level outcome
  | unwritable refused =>
    rw [reportSelector_of_ok toolkit path level outcome, Report.echoing_of_error level refused]

theorem Report.refusal_ends (documented : toolkit.Documented) (level : Level)
    (complaint : String) : Ends toolkit assembles (refusal toolkit level complaint) := by
  rw [refusal, documented.refusalCode_eq]
  exact .refused level complaint

theorem Command.reportSelector_ends (documented : toolkit.Documented)
    (captured : toolkit.Captured) (path : String) (level : Level) {config : Config}
    {tokens : List String} (reached : assembles config tokens) :
    Report.Ends toolkit assembles (reportSelector toolkit path level config tokens) := by
  cases outcome : (assemble config tokens).result with
  | ok selector =>
    cases taken : toolkit.echo selector.text with
    | ok line =>
      rw [reportSelector_of_ok toolkit path level outcome, Report.echoing_of_ok level taken]
      exact .built level reached (captured.echo_ne_empty taken)
    | error message =>
      have escapes := Toolkit.Escapes.unwritable taken
      rw [reportSelector_of_escape escapes outcome]
      exact .escaped level _ reached (outcome ▸ escapes)
  | error error =>
    cases error with
    | emptySeparator =>
      have escapes : toolkit.Escapes (.error .emptySeparator) .emptySeparator := .emptySeparator
      rw [reportSelector_of_escape escapes outcome]
      exact .escaped level _ reached (outcome ▸ escapes)
    | malformed error =>
      rw [reportSelector_of_malformed toolkit path level outcome, Report.refusal,
        documented.refusalCode_eq]
      exact .refused level _
    | rejected error =>
      rw [reportSelector_of_rejected toolkit path level outcome]
      exact .rejected level _ reached outcome

/-- The kinds of parts are written in ASCII, so that every stream takes them. -/
theorem Command.echoing_kindLines_ends (captured : toolkit.Captured) (level : Level) :
    Report.Ends toolkit assembles (Report.echoing toolkit level kindLines) := by
  have ascii : ∀ text ∈ kindLines, text.toList.all (·.toNat < 0x80) = true := by
    rw [← List.all_eq_true]
    decide +kernel
  obtain ⟨lines, taken, told⟩ := Report.echoing_of_taken level
    fun text member => captured.echo_ascii (ascii text member)
  rw [told]
  refine .answered level ?_
  cases lines with
  | nil => cases taken
  | cons line others =>
    intro blank
    rw [String.join_cons, String.append_eq_empty_iff] at blank
    exact captured.echo_ne_empty (List.cons.inj taken).1 blank.1

theorem Command.run_ends (documented : toolkit.Documented) (captured : toolkit.Captured)
    (command : Command) (path : String) (level : Level) (config : Config)
    (arguments : List String)
    (reaches : ∀ tokens, command.Assembles toolkit path arguments tokens →
      assembles config tokens) :
    Report.Ends toolkit assembles (command.run toolkit path level config arguments) := by
  by_cases idle : ∀ tokens, ¬ command.Assembles toolkit path arguments tokens
  · rcases run_of_idle documented command path config idle with
      ⟨text, full, shows⟩ | ⟨complaint, refuses⟩ | lists
    · rw [shows]
      exact .answered level full
    · rw [refuses]
      exact Report.refusal_ends documented level complaint
    · rw [lists]
      exact echoing_kindLines_ends captured level
  · rw [not_forall_not] at idle
    obtain ⟨tokens, reached⟩ := idle
    rw [reached.run_eq]
    exact reportSelector_ends documented captured path level (reaches tokens reached)

end Ends

namespace Entry

variable {toolkit : Toolkit}

theorem run_ends (documented : toolkit.Documented) (captured : toolkit.Captured) (entry : Entry)
    (arguments : List String) (config : Config) :
    Report.Ends toolkit (entry.Assembles toolkit arguments config)
      (entry.run toolkit arguments config) := by
  cases entry with
  | command single =>
    apply Command.run_ends documented captured
    intro tokens reached
    exact ⟨rfl, reached⟩
  | program =>
    rcases documented.enter_cases arguments with
      ⟨text, full, shown⟩ | ⟨complaint, refused⟩ | ⟨_, level, single, rest, _, _, passed⟩
    · rw [run, Program.run, shown]
      exact .answered _ full
    · rw [run, Program.run, refused]
      exact Report.refusal_ends documented _ complaint
    · rw [run, Program.run_of_passed passed]
      apply Command.run_ends documented captured
      intro tokens reached
      exact ⟨level, single, rest, passed, rfl, reached⟩

theorem Assembles.run_eq {entry : Entry} {arguments tokens : List String}
    {config conventions : Config}
    (reached : entry.Assembles toolkit arguments config conventions tokens) :
    ∃ path level, entry.run toolkit arguments config =
      Command.reportSelector toolkit path level conventions tokens := by
  cases entry with
  | program =>
    obtain ⟨level, single, rest, passed, rfl, reached⟩ := reached
    refine ⟨Program.path single, level, (Program.run_of_passed passed).trans ?_⟩
    exact reached.run_eq level _
  | command single =>
    obtain ⟨rfl, reached⟩ := reached
    exact ⟨_, _, reached.run_eq _ _⟩

/-- Only the command that builds can come to assemble tokens without a separator, when it is run by
itself: the program has one. -/
theorem Assembles.emptySeparator {entry : Entry} {arguments tokens : List String}
    {config conventions : Config}
    (reached : entry.Assembles toolkit arguments config conventions tokens)
    (failed : (assemble conventions tokens).result = .error .emptySeparator) :
    entry = .command .build ∧ config.kindSeparator = "" := by
  obtain ⟨blank, _⟩ := assemble_eq_emptySeparator_iff.mp failed
  cases entry with
  | program =>
    obtain ⟨level, _, _, _, rfl, _⟩ := reached
    exact absurd blank (show ":" ≠ "" by decide)
  | command single =>
    obtain ⟨rfl, reached⟩ := reached
    rw [reached.builds]
    exact ⟨rfl, blank⟩

section Captured

variable (documented : toolkit.Documented) (captured : toolkit.Captured) (entry : Entry)
  (arguments : List String) (config : Config)

include documented captured

theorem uncaught_run_eq_some_iff (error : Escape) :
    (entry.run toolkit arguments config).uncaught = some error ↔
      ∃ conventions tokens, entry.Assembles toolkit arguments config conventions tokens ∧
        toolkit.Escapes (assemble conventions tokens).result error := by
  constructor
  · exact (entry.run_ends documented captured arguments config).escape
  · rintro ⟨conventions, tokens, reached, escapes⟩
    obtain ⟨path, level, told⟩ := reached.run_eq
    rw [Command.reportSelector_of_escape escapes rfl] at told
    exact congrArg Report.uncaught told

theorem exitCode_run_eq_one_iff :
    (entry.run toolkit arguments config).exitCode = 1 ↔
      ∃ conventions tokens, entry.Assembles toolkit arguments config conventions tokens ∧
        ((∃ rejection, (assemble conventions tokens).result = .error (.rejected rejection)) ∨
          ∃ error, toolkit.Escapes (assemble conventions tokens).result error) := by
  constructor
  · exact (entry.run_ends documented captured arguments config).failure
  · rintro ⟨conventions, tokens, reached, reason⟩
    obtain ⟨path, level, told⟩ := reached.run_eq
    rcases reason with ⟨rejection, outcome⟩ | ⟨error, escapes⟩
    · rw [Command.reportSelector_of_rejected toolkit path level outcome] at told
      exact congrArg Report.exitCode told
    · rw [Command.reportSelector_of_escape escapes rfl] at told
      exact congrArg Report.exitCode told

/-- The lack of a separator escapes only from the command that builds when it is run by itself, if
it comes to assemble tokens. -/
theorem uncaught_run_eq_emptySeparator_iff :
    (entry.run toolkit arguments config).uncaught = some .emptySeparator ↔
      entry = .command .build ∧ config.kindSeparator = "" ∧
        ∃ tokens, entry.Assembles toolkit arguments config config tokens := by
  rw [entry.uncaught_run_eq_some_iff documented captured]
  constructor
  · rintro ⟨conventions, tokens, reached, escapes⟩
    obtain ⟨rfl, blank⟩ := reached.emptySeparator escapes.result_eq
    obtain rfl : conventions = config := reached.1
    exact ⟨rfl, blank, tokens, reached⟩
  · rintro ⟨rfl, blank, tokens, reached⟩
    have given := reached.2.given documented
    refine ⟨config, tokens, reached, ?_⟩
    rw [assemble_eq_emptySeparator_iff.mpr ⟨blank, given⟩]
    exact .emptySeparator

end Captured

end Entry

end CommandLine

end CssSelector

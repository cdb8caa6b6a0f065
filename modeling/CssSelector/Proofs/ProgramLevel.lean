import CssSelector.Proofs.BuildReport
import CssSelector.Proofs.ProgramOptions

set_option autoImplicit false

namespace CssSelector.CommandLine

theorem Report.level_echoing (toolkit : Toolkit) (level : Level) (texts : List String) :
    (echoing toolkit level texts).level = level := by
  induction texts with
  | nil => rfl
  | cons text rest ih =>
    rw [echoing]
    cases toolkit.echo text with
    | ok line => exact ih
    | error message => rfl

namespace Command

theorem level_reportSelector (toolkit : Toolkit) (path : String) (level : Level) (config : Config)
    (tokens : List String) : (reportSelector toolkit path level config tokens).level = level := by
  simp only [reportSelector, Report.withEvents]
  split
  · exact Report.level_echoing toolkit level _
  · rfl
  · rfl
  · rfl

/-- A command leaves the level as it is, whether it succeeds, fails or shows its manual. -/
theorem level_run (toolkit : Toolkit) (command : Command) (path : String) (level : Level)
    (config : Config) (arguments : List String) :
    (command.run toolkit path level config arguments).level = level := by
  unfold run Report.ofOutcome
  split
  · rfl
  · rfl
  · cases command with
    | build => exact level_reportSelector toolkit path level config _
    | kinds => exact Report.level_echoing toolkit level _

end Command

namespace Program

def effectiveLevel : Outcome (Entrance Command) → Level
  | .passed entrance => (Level.ofWord? entrance.word).getD Report.defaultLevel
  | _ => Report.defaultLevel

theorem level_run (toolkit : Toolkit) (arguments : List String) :
    (run toolkit arguments).level = effectiveLevel (toolkit.enter interface arguments) := by
  unfold run Report.ofOutcome
  split
  · rename_i shown
    rw [shown]
    rfl
  · rename_i refused
    rw [refused]
    rfl
  · rename_i entrance passed
    rw [passed, effectiveLevel, start]
    cases known : Level.ofWord? entrance.word with
    | none => rfl
    | some level => exact Command.level_run toolkit _ _ level _ _

section Unpassed

variable {outcome : Outcome (Entrance Command)}

theorem effectiveLevel_of_shown (shown : ∃ text, text ≠ "" ∧ outcome = .shown text) :
    effectiveLevel outcome = .warning := by
  obtain ⟨text, _, rfl⟩ := shown
  rfl

theorem effectiveLevel_of_refused (refused : ∃ complaint, outcome = .refused complaint) :
    effectiveLevel outcome = .warning := by
  obtain ⟨complaint, rfl⟩ := refused
  rfl

end Unpassed

theorem chosenLevel_eq_some_iff {words : List String} {level : Level} :
    chosenLevel words = some level ↔
      match words.getLast? with
      | none => level = .warning
      | some word => level.IsSpelled word := by
  unfold chosenLevel
  cases words.getLast? with
  | none =>
    rw [Option.some.injEq, eq_comm]
    rfl
  | some word => exact Level.ofWord?_eq_some_iff

theorem exists_words {choices : List (Option String)} (levels : none ∉ choices) :
    ∃ words : List String, choices = words.map some := by
  induction choices with
  | nil => exact ⟨[], rfl⟩
  | cons choice rest ih =>
    rw [List.mem_cons, not_or] at levels
    obtain ⟨words, rfl⟩ := ih levels.2
    obtain ⟨word, rfl⟩ := Option.ne_none_iff_exists'.mp (Ne.symm levels.1)
    exact ⟨word :: words, rfl⟩

/-- Whether arguments call a command at a level: its name is behind options that are all for the
level, and the last of these, if there are any, gives the level's name in any mixture of upper and
lower case. -/
def CallsAt (arguments : List String) (level : Level) : Prop :=
  ∃ (front words rest : List String) (command : Command) (tail : List String),
    Options front (words.map some) ∧ Operands rest (command.name :: tail) ∧
    arguments = front ++ rest ∧
    match words.getLast? with
    | none => level = .warning
    | some word => level.IsSpelled word

section Levels

variable {toolkit : Toolkit} (documented : toolkit.Documented)

include documented

/-- Options that are all for the level are read as their words; any others leave the level as it is,
whatever is behind them. -/
theorem Options.enter_cases {front : List String} {choices : List (Option String)}
    (options : Options front choices) :
    (∃ words : List String, choices = words.map some ∧
      ∀ rest operands, Operands rest operands →
        toolkit.read interface.options (front ++ rest) = .ok { words, operands }) ∨
    none ∈ choices ∧
      ∀ rest, effectiveLevel (toolkit.enter interface (front ++ rest)) = .warning := by
  cases options.settles documented with
  | failed unrelated fails =>
    refine .inr ⟨unrelated, ?_⟩
    intro rest
    obtain ⟨message, failed⟩ := fails rest
    exact effectiveLevel_of_refused (documented.enter_unread failed)
  | read flags words asked chosen reads =>
    by_cases unrelated : none ∈ choices
    · refine .inr ⟨unrelated, ?_⟩
      intro rest
      have read := reads rest
      cases behind : toolkit.read interface.options rest with
      | error message =>
        rw [behind] at read
        exact effectiveLevel_of_refused (documented.enter_unread read)
      | ok reading =>
        rw [behind] at read
        have given : flags ++ reading.flags ≠ [] :=
          List.append_ne_nil_of_left_ne_nil (asked.mp unrelated) _
        exact effectiveLevel_of_shown (documented.enter_asked read given)
    · obtain ⟨levels, rfl⟩ := exists_words unrelated
      have same : levels = words := by
        rw [← chosen, List.filterMap_map, Function.id_comp, List.filterMap_some]
      have none : flags = [] := by
        by_contra given
        exact unrelated (asked.mpr given)
      refine .inl ⟨levels, rfl, ?_⟩
      intro rest operands shape
      rw [reads, shape.read documented, same, none]
      simp [Reading.before, Except.map]

theorem effectiveLevel_of_unknown {arguments words tail : List String} {word : String}
    (read : toolkit.read interface.options arguments = .ok { words, operands := word :: tail })
    (unknown : interface.command? word = none) :
    effectiveLevel (toolkit.enter interface arguments) = .warning := by
  rcases documented.enter_unknown read unknown with shown | refused
  · exact effectiveLevel_of_shown shown
  · exact effectiveLevel_of_refused refused

theorem effectiveLevel_of_command {arguments words tail : List String} {command : Command}
    (read : toolkit.read interface.options arguments =
      .ok { words, operands := command.name :: tail }) :
    effectiveLevel (toolkit.enter interface arguments) =
      (chosenLevel words).getD Report.defaultLevel := by
  cases chosen : chosenLevel words with
  | none =>
    exact effectiveLevel_of_refused (documented.enter_of_no_level read chosen)
  | some level =>
    rw [documented.enter_of_level read chosen, effectiveLevel, Level.ofWord?_name]

theorem effectiveLevel_of_callsAt {arguments : List String} {level : Level}
    (calls : CallsAt arguments level) :
    effectiveLevel (toolkit.enter interface arguments) = level := by
  obtain ⟨front, words, rest, command, tail, options, shape, rfl, chosen⟩ := calls
  rcases options.enter_cases documented with ⟨levels, same, reads⟩ | ⟨unrelated, _⟩
  · obtain rfl : words = levels := (List.map_inj_right fun _ _ => Option.some.inj).mp same
    rw [effectiveLevel_of_command documented (reads rest _ shape),
      chosenLevel_eq_some_iff.mpr chosen, Option.getD_some]
  · obtain ⟨_, _, absurd⟩ := List.mem_map.mp unrelated
    cases absurd

theorem effectiveLevel_of_missing_word {front : List String} {choices : List (Option String)}
    (options : Options front choices) :
    effectiveLevel (toolkit.enter interface (front ++ ["--log-level"])) = .warning := by
  have unread :
      ∃ message, toolkit.read interface.options (front ++ ["--log-level"]) = .error message := by
    cases options.settles documented with
    | failed unrelated fails => exact fails _
    | read flags words asked chosen reads =>
      have choice : interface.options.choice? = some "--log-level" := rfl
      obtain ⟨message, missing⟩ := documented.read_missing choice
      exact ⟨message, by rw [reads, missing]; rfl⟩
  obtain ⟨message, unread⟩ := unread
  exact effectiveLevel_of_refused (documented.enter_unread unread)

theorem effectiveLevel_of_idle {arguments : List String}
    (idle : ∀ level, ¬ CallsAt arguments level) :
    effectiveLevel (toolkit.enter interface arguments) = .warning := by
  obtain ⟨front, choices, rest, options, rfl, rfl | ⟨operands, shape⟩⟩ := exists_options arguments
  · exact effectiveLevel_of_missing_word documented options
  · rcases options.enter_cases documented with ⟨words, rfl, reads⟩ | ⟨_, quiet⟩
    · rcases documented.enter_cases (front ++ rest) with
        shown | refused | ⟨_, level, command, tail, read, chosen, _⟩
      · exact effectiveLevel_of_shown shown
      · exact effectiveLevel_of_refused refused
      · rw [reads rest operands shape, Except.ok.injEq, Reading.mk.injEq] at read
        obtain ⟨_, rfl, rfl⟩ := read
        exact absurd ⟨front, words, rest, command, tail, options, shape, rfl,
          chosenLevel_eq_some_iff.mp chosen⟩ (idle level)
    · exact quiet rest

/-- What is done with the arguments behind the first operand has no influence. -/
theorem effectiveLevel_of_same_options {front rest others : List String}
    {choices : List (Option String)} (options : Options front choices) {word : String}
    {tail arguments : List String} (shape : Operands rest (word :: tail))
    (other : Operands others (word :: arguments)) :
    effectiveLevel (toolkit.enter interface (front ++ rest)) =
      effectiveLevel (toolkit.enter interface (front ++ others)) := by
  rcases options.enter_cases documented with ⟨words, rfl, reads⟩ | ⟨_, quiet⟩
  · have read := reads rest _ shape
    have again := reads others _ other
    cases known : interface.command? word with
    | none =>
      rw [effectiveLevel_of_unknown documented read known,
        effectiveLevel_of_unknown documented again known]
    | some command =>
      obtain rfl := Command.name_of_command? known
      rw [effectiveLevel_of_command documented read, effectiveLevel_of_command documented again]
  · rw [quiet, quiet]

end Levels

end Program

/-- After a run the level is the one at which a command was called, and the default if none was
called: the options were wrong or asked for a text, the last word for the level names none, or the
first operand is missing or names no command. So the level depends on the options and the first
operand only. -/
theorem level_of_program_run {toolkit : Toolkit} (documented : toolkit.Documented)
    (config : Config) :
    (∀ arguments level, Program.CallsAt arguments level →
      (Entry.run toolkit .program arguments config).level = level) ∧
    (∀ arguments, (∀ level, ¬ Program.CallsAt arguments level) →
      (Entry.run toolkit .program arguments config).level = .warning) ∧
    ∀ front choices word rest tail others arguments,
      Program.Options front choices → Program.Operands rest (word :: tail) →
      Program.Operands others (word :: arguments) →
      (Entry.run toolkit .program (front ++ rest) config).level =
        (Entry.run toolkit .program (front ++ others) config).level := by
  refine ⟨?_, ?_, ?_⟩
  · intro arguments level calls
    exact (Program.level_run toolkit arguments).trans
      (Program.effectiveLevel_of_callsAt documented calls)
  · intro arguments idle
    exact (Program.level_run toolkit arguments).trans
      (Program.effectiveLevel_of_idle documented idle)
  · intro front choices word rest tail others arguments options shape other
    have same := Program.effectiveLevel_of_same_options documented options shape other
    exact (Program.level_run toolkit _).trans (same.trans (Program.level_run toolkit _).symm)

/-- The first option for the level takes what looks like a request for help, and the last one
counts. A command is called by the very letters of its name. -/
theorem level_of_program_run_last_word :
    Toolkit.captured.Documented ∧
      Program.CallsAt ["--log-level", "--help", "--log-level=eRRor", "--", "build", "--help"]
        .error ∧
      (Entry.run .captured .program
        ["--log-level", "--help", "--log-level=eRRor", "--", "build", "--help"] {}).level =
          .error ∧
      (∀ level, ¬ Program.CallsAt ["--log-level", "debug", "Build"] level) ∧
      (Entry.run .captured .program ["--log-level", "debug", "Build"] {}).level = .warning ∧
      (Entry.run .captured .program ["--log-level", "debug", "build", "id:a", "id:b"] {}).level =
        (Entry.run .captured .program ["--log-level", "debug", "build", "--help"] {}).level := by
  obtain ⟨calls, idle, same⟩ := level_of_program_run Toolkit.captured_documented {}
  have spelled : Level.error.IsSpelled "eRRor" := by decide
  have late : Program.CallsAt
      ["--log-level", "--help", "--log-level=eRRor", "--", "build", "--help"] .error :=
    ⟨["--log-level", "--help", "--log-level=eRRor"], ["--help", "eRRor"],
      ["--", "build", "--help"], .build, ["--help"],
      .apart "--help" (.attached "eRRor" .start), .ended _, rfl, spelled⟩
  have strange : ∀ level, ¬ Program.CallsAt ["--log-level", "debug", "Build"] level := by
    rintro level ⟨front, words, rest, command, tail, _, shape, whole, _⟩
    have called : command.name ∈ rest := by
      cases shape with
      | ended => exact List.mem_cons_of_mem _ List.mem_cons_self
      | first => exact List.mem_cons_self
    have given : command.name ∈ ["--log-level", "debug", "Build"] :=
      whole ▸ List.mem_append_right front called
    revert given
    cases command <;> decide
  have operand : isOption "build" = false := Command.build.isOption_name
  refine ⟨Toolkit.captured_documented, late, calls _ _ late, strange, idle _ strange, ?_⟩
  exact same ["--log-level", "debug"] [some "debug"] "build" _ ["id:a", "id:b"] _ ["--help"]
    (.apart "debug" .start) (.first operand _) (.first operand _)

end CssSelector.CommandLine

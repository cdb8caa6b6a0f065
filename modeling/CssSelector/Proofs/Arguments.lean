import CssSelector.CommandLine.Program

set_option autoImplicit false

namespace CssSelector

theorem Level.IsSpelled.ofWord? {level : Level} {word : String} (spelled : level.IsSpelled word) :
    ofWord? word = some level := by
  simp only [Level.ofWord?, IsSpelled, show word.toList.map Char.toUpper = _ from spelled]
  cases level <;> decide

theorem Level.ofWord?_eq_some_iff {level : Level} {word : String} :
    ofWord? word = some level ↔ level.IsSpelled word := by
  constructor
  · intro found
    have spelled := List.find?_some found
    exact of_decide_eq_true spelled
  · exact IsSpelled.ofWord?

theorem Level.ofWord?_name (level : Level) : ofWord? level.name = some level := by
  cases level <;> decide

namespace CommandLine

/-- An option begins with a hyphen and is longer than that. -/
theorem isOption_eq_true_iff {argument : String} :
    isOption argument = true ↔ 1 < argument.length ∧ argument.toList.head? = some '-' := by
  rw [← String.length_toList]
  constructor
  · intro option
    unfold isOption at option
    split at option
    · rename_i second rest spelled
      rw [spelled]
      exact ⟨Nat.succ_lt_succ (Nat.succ_pos rest.length), rfl⟩
    · cases option
  · rintro ⟨long, hyphen⟩
    obtain ⟨rest, spelled⟩ := List.head?_eq_some_iff.mp hyphen
    rw [spelled] at long
    cases rest with
    | nil => exact absurd long (Nat.lt_irrefl 1)
    | cons second rest => simp only [isOption, spelled]

theorem Command.isOption_name (command : Command) : isOption command.name = false := by
  cases command <;> decide

theorem Command.command?_name (command : Command) :
    Program.interface.command? command.name = some command := by
  cases command <;> decide

theorem Command.name_of_command? {word : String} {command : Command}
    (known : Program.interface.command? word = some command) : command.name = word := by
  have named := List.find?_some known
  exact of_decide_eq_true named

/-- The level that the last of some words names, or the default if there is none. -/
def Program.chosenLevel (words : List String) : Option Level :=
  match words.getLast? with
  | none => some Report.defaultLevel
  | some word => Level.ofWord? word

namespace Toolkit.Documented

variable {toolkit : Toolkit} (documented : toolkit.Documented)

include documented

/-- Arguments without an option are the operands, whether or not options could come after them. -/
theorem read_of_operands (options : OptionTable) {operands : List String}
    (free : ∀ operand ∈ operands, isOption operand = false) :
    toolkit.read options operands = .ok { operands } := by
  induction operands with
  | nil => exact documented.read_nil options
  | cons operand rest ih =>
    obtain ⟨first, others⟩ := List.forall_mem_cons.mp free
    cases strict : options.interspersed with
    | false => exact documented.read_first strict first rest
    | true =>
      rw [documented.read_among strict first, ih others]
      rfl

theorem call_cases (command : CommandInterface) (path : String) (arguments : List String) :
    (∃ text, text ≠ "" ∧ toolkit.call command path arguments = .shown text) ∨
    (∃ complaint, toolkit.call command path arguments = .refused complaint) ∨
    ∃ operands, command.accepts operands = true ∧
      toolkit.call command path arguments = .passed operands := by
  cases read : toolkit.read CommandInterface.options arguments with
  | error message => exact .inr (.inl (documented.call_unread read))
  | ok reading =>
    by_cases unasked : reading.flags = []
    · cases accepted : command.accepts reading.operands with
      | true => exact .inr (.inr ⟨_, accepted, documented.call_accepted read unasked accepted⟩)
      | false => exact .inr (.inl (documented.call_unaccepted read unasked accepted))
    · exact .inl (documented.call_asked read unasked)

/-- The word that is found among the names of the levels is the name of the level that it spells. -/
theorem find?_levels (word : String) :
    Program.levelChoice.words.find? (toolkit.sameLetters word) =
      (Level.ofWord? word).map Level.name := by
  have same : (fun level : Level => toolkit.sameLetters word level.name) =
      fun level => decide (level.IsSpelled word) := by
    funext level
    rw [Bool.eq_iff_iff, documented.ignores_case, decide_eq_true_iff]
  show (Level.all.map Level.name).find? (toolkit.sameLetters word) = _
  rw [List.find?_map]
  exact congrArg (fun test => (Level.all.find? test).map Level.name) same

variable {arguments words : List String}

/-- The word for a command, behind words of which the last one names a level. -/
theorem enter_of_level {rest : List String} {command : Command} {level : Level}
    (read : toolkit.read Program.interface.options arguments =
      .ok { words, operands := command.name :: rest })
    (chosen : Program.chosenLevel words = some level) :
    toolkit.enter Program.interface arguments = .passed ⟨level.name, command, rest⟩ := by
  unfold Program.chosenLevel at chosen
  cases last : words.getLast? with
  | none =>
    rw [last] at chosen
    obtain rfl := Option.some.inj chosen
    obtain rfl := List.getLast?_eq_none_iff.mp last
    exact documented.enter_default read command.command?_name
  | some word =>
    rw [last] at chosen
    refine documented.enter_chosen read last ?_ command.command?_name
    exact (documented.find?_levels word).trans (congrArg _ chosen)

theorem enter_of_no_level {operands : List String}
    (read : toolkit.read Program.interface.options arguments = .ok { words, operands })
    (unchosen : Program.chosenLevel words = none) :
    ∃ complaint, toolkit.enter Program.interface arguments = .refused complaint := by
  unfold Program.chosenLevel at unchosen
  cases last : words.getLast? with
  | none =>
    rw [last] at unchosen
    cases unchosen
  | some word =>
    rw [last] at unchosen
    refine documented.enter_unchosen read last ?_
    exact (documented.find?_levels word).trans (congrArg _ unchosen)

theorem enter_cases (arguments : List String) :
    (∃ text, text ≠ "" ∧ toolkit.enter Program.interface arguments = .shown text) ∨
    (∃ complaint, toolkit.enter Program.interface arguments = .refused complaint) ∨
    ∃ (words : List String) (level : Level) (command : Command) (rest : List String),
      toolkit.read Program.interface.options arguments =
        .ok { words, operands := command.name :: rest } ∧
      Program.chosenLevel words = some level ∧
      toolkit.enter Program.interface arguments = .passed ⟨level.name, command, rest⟩ := by
  cases read : toolkit.read Program.interface.options arguments with
  | error message => exact .inr (.inl (documented.enter_unread read))
  | ok reading =>
    by_cases unasked : reading.flags = []
    · rcases reading with ⟨_, words, operands⟩
      obtain rfl := unasked
      cases operands with
      | nil => exact .inr (.inl (documented.enter_missing read))
      | cons name rest =>
        cases known : Program.interface.command? name with
        | none => exact (documented.enter_unknown read known).imp_right .inl
        | some command =>
          obtain rfl := Command.name_of_command? known
          cases chosen : Program.chosenLevel words with
          | none => exact .inr (.inl (documented.enter_of_no_level read chosen))
          | some level =>
            exact .inr (.inr ⟨words, level, command, rest, rfl, chosen,
              documented.enter_of_level read chosen⟩)
    · exact .inl (documented.enter_asked read unasked)

end Toolkit.Documented

theorem Command.run_of_passed {toolkit : Toolkit} {command : Command} {path : String}
    {arguments operands : List String}
    (passed : toolkit.call command.interface path arguments = .passed operands) (level : Level)
    (config : Config) :
    command.run toolkit path level config arguments =
      command.perform toolkit path level config operands := by
  rw [run, passed]
  rfl

theorem Program.run_of_passed {toolkit : Toolkit} {level : Level} {command : Command}
    {arguments rest : List String}
    (passed : toolkit.enter interface arguments = .passed ⟨level.name, command, rest⟩) :
    run toolkit arguments = command.run toolkit (path command) level (conventions level) rest := by
  rw [run, passed]
  simp only [Report.ofOutcome, start, Level.ofWord?_name]

end CommandLine

end CssSelector

import CssSelector.Proofs.Arguments

set_option autoImplicit false

namespace CssSelector.CommandLine.Program

/-- The options of the program as they are written, with the word for a level that each of them
gives, if it is for the level: a word is attached to it, or else it takes the next argument,
whatever that looks like. -/
inductive Options : List String → List (Option String) → Prop where
  | start : Options [] []
  | apart (word : String) {rest : List String} {choices : List (Option String)}
      (more : Options rest choices) : Options ("--log-level" :: word :: rest) (some word :: choices)
  | attached (word : String) {rest : List String} {choices : List (Option String)}
      (more : Options rest choices) :
      Options (("--log-level=" ++ word) :: rest) (some word :: choices)
  | other {argument : String} {rest : List String} {choices : List (Option String)}
      (option : isOption argument = true) (goesOn : argument ≠ "--")
      (unrelated : argument ≠ "--log-level")
      (unattached : ∀ word, argument ≠ "--log-level=" ++ word)
      (more : Options rest choices) : Options (argument :: rest) (none :: choices)

/-- The operands behind the options. The first one does not look like an option, or `--` is in front
of it. -/
inductive Operands : List String → List String → Prop where
  | nil : Operands [] []
  | ended (operands : List String) : Operands ("--" :: operands) operands
  | first {operand : String} (free : isOption operand = false) (rest : List String) :
      Operands (operand :: rest) (operand :: rest)

/-- Arguments are options and then operands, unless at their end there is no word for the level. -/
theorem exists_options (arguments : List String) :
    ∃ front choices rest, Options front choices ∧ arguments = front ++ rest ∧
      (rest = ["--log-level"] ∨ ∃ operands, Operands rest operands) := by
  induction size : arguments.length using Nat.strongRecOn generalizing arguments with
  | ind size ih =>
    cases arguments with
    | nil => exact ⟨[], [], [], .start, rfl, .inr ⟨[], .nil⟩⟩
    | cons argument rest =>
      by_cases ends : argument = "--"
      · subst ends
        exact ⟨[], [], _, .start, rfl, .inr ⟨rest, .ended rest⟩⟩
      cases option : isOption argument with
      | false => exact ⟨[], [], _, .start, rfl, .inr ⟨_, .first option rest⟩⟩
      | true =>
        rw [List.length_cons] at size
        by_cases level : argument = "--log-level"
        · subst level
          cases rest with
          | nil => exact ⟨[], [], _, .start, rfl, .inl rfl⟩
          | cons word others =>
            rw [List.length_cons] at size
            obtain ⟨front, choices, behind, options, rfl, shape⟩ := ih _ (by omega) others rfl
            exact ⟨_, _, behind, .apart word options, rfl, shape⟩
        · obtain ⟨front, choices, behind, options, rfl, shape⟩ := ih _ (by omega) rest rfl
          by_cases attached : ∃ word, argument = "--log-level=" ++ word
          · obtain ⟨word, rfl⟩ := attached
            exact ⟨_, _, behind, .attached word options, rfl, shape⟩
          · rw [not_exists] at attached
            exact ⟨_, _, behind, .other option ends level attached options, rfl, shape⟩

section Reading

variable {toolkit : Toolkit} (documented : toolkit.Documented)

include documented

theorem Operands.read {rest operands : List String} (shape : Operands rest operands) :
    toolkit.read interface.options rest = .ok { operands } := by
  cases shape with
  | nil => exact documented.read_nil _
  | ended operands => exact documented.read_end _ operands
  | first free rest => exact documented.read_first rfl free rest

/-- An option that is not for the level asks for a text, or it is an error. -/
theorem read_other {argument : String} (option : isOption argument = true)
    (goesOn : argument ≠ "--") (unrelated : argument ≠ "--log-level")
    (unattached : ∀ word, argument ≠ "--log-level=" ++ word) :
    (∀ rest, toolkit.read interface.options (argument :: rest) =
      (toolkit.read interface.options rest).map (·.addFlag argument)) ∨
    ∀ rest, ∃ message, toolkit.read interface.options (argument :: rest) = .error message := by
  by_cases flag : argument ∈ interface.options.flags
  · exact .inl (documented.read_flag flag)
  · refine .inr (documented.read_other option goesOn flag ?_)
    intro name declared
    obtain rfl := Option.some.inj declared
    exact ⟨unrelated, unattached⟩

end Reading

end CssSelector.CommandLine.Program

namespace CssSelector.CommandLine

def Reading.before (front rest : Reading) : Reading where
  flags := front.flags ++ rest.flags
  words := front.words ++ rest.words
  operands := front.operands ++ rest.operands

namespace Program

/-- What options come to, whatever is behind them: they are read in front of what is read there, or
one of them is an error, which is then not an option for the level. -/
inductive Settles (toolkit : Toolkit) (front : List String) (choices : List (Option String)) :
    Prop where
  | read (flags words : List String) (asked : none ∈ choices ↔ flags ≠ [])
      (chosen : choices.filterMap id = words)
      (reads : ∀ rest, toolkit.read interface.options (front ++ rest) =
        (toolkit.read interface.options rest).map (Reading.before { flags, words }))
  | failed (unrelated : none ∈ choices)
      (fails : ∀ rest, ∃ message, toolkit.read interface.options (front ++ rest) = .error message)

theorem error_behind {toolkit : Toolkit} {item front rest : List String}
    {change : Reading → Reading}
    (first : ∀ rest, toolkit.read interface.options (item ++ rest) =
      (toolkit.read interface.options rest).map change)
    (fails : ∃ message, toolkit.read interface.options (front ++ rest) = .error message) :
    ∃ message, toolkit.read interface.options (item ++ front ++ rest) = .error message := by
  obtain ⟨message, failed⟩ := fails
  refine ⟨message, ?_⟩
  rw [List.append_assoc, first, failed]
  rfl

namespace Settles

variable {toolkit : Toolkit} {front : List String} {choices : List (Option String)}
  (settles : Settles toolkit front choices) (item : List String)

include settles

theorem addWord {word : String}
    (first : ∀ rest, toolkit.read interface.options (item ++ rest) =
      (toolkit.read interface.options rest).map (·.addWord word)) :
    Settles toolkit (item ++ front) (some word :: choices) := by
  cases settles with
  | read flags words asked chosen reads =>
    refine .read flags (word :: words) (by simpa using asked) (by simpa using chosen) ?_
    intro rest
    rw [List.append_assoc, first, reads]
    cases toolkit.read interface.options rest <;> rfl
  | failed unrelated fails =>
    exact .failed (List.mem_cons_of_mem _ unrelated) fun rest => error_behind first (fails rest)

theorem addFlag {flag : String}
    (first : ∀ rest, toolkit.read interface.options (item ++ rest) =
      (toolkit.read interface.options rest).map (·.addFlag flag)) :
    Settles toolkit (item ++ front) (none :: choices) := by
  cases settles with
  | read flags words asked chosen reads =>
    refine .read (flag :: flags) words (by simp) (by simpa using chosen) ?_
    intro rest
    rw [List.append_assoc, first, reads]
    cases toolkit.read interface.options rest <;> rfl
  | failed unrelated fails =>
    exact .failed List.mem_cons_self fun rest => error_behind first (fails rest)

end Settles

theorem Options.settles {toolkit : Toolkit} (documented : toolkit.Documented)
    {front : List String} {choices : List (Option String)} (options : Options front choices) :
    Settles toolkit front choices := by
  have choice : interface.options.choice? = some "--log-level" := rfl
  induction options with
  | start =>
    refine .read [] [] (by simp) rfl ?_
    intro rest
    rw [List.nil_append]
    cases toolkit.read interface.options rest <;> rfl
  | apart word more ih => exact ih.addWord ["--log-level", word] (documented.read_apart choice word)
  | attached word more ih =>
    exact ih.addWord ["--log-level=" ++ word] (documented.read_attached choice word)
  | @other argument rest choices option goesOn unrelated unattached more ih =>
    rcases read_other documented option goesOn unrelated unattached with first | fails
    · exact ih.addFlag [argument] first
    · exact .failed List.mem_cons_self fun behind => fails _

end Program

end CssSelector.CommandLine

import CssSelector.CommandLine.Standard
import CssSelector.Proofs.FirstOccurrence

set_option autoImplicit false

namespace CssSelector.CommandLine

namespace IsOptionName

variable {name : String} (named : IsOptionName name)

include named

theorem spelled : ∃ first rest, name.toList = '-' :: '-' :: first :: rest := by
  obtain ⟨hyphens, long, _⟩ := named
  rw [← String.length_toList] at long
  obtain ⟨first, rest, behind⟩ := List.exists_cons_of_length_pos
    (show 0 < (name.toList.drop 2).length by rw [List.length_drop]; omega)
  refine ⟨first, rest, ?_⟩
  rw [← List.take_append_drop 2 name.toList, hyphens, behind]
  rfl

theorem isOption_append (more : String) : isOption (name ++ more) = true := by
  obtain ⟨first, rest, spelled⟩ := named.spelled
  simp only [isOption, String.toList_append, spelled, List.cons_append]

theorem append_ne_end (more : String) : name ++ more ≠ "--" := by
  intro same
  have long := named.2.1
  have size := congrArg String.length same
  rw [String.length_append] at size
  have two : "--".length = 2 := by decide
  omega

theorem not_occurs : ¬ Text.Occurs "=" name := by
  rintro ⟨before, after, whole⟩
  apply named.2.2
  rw [whole, String.toList_append, String.toList_append]
  exact List.mem_append_left _ (List.mem_append_right _ List.mem_cons_self)

theorem splitOption_eq : splitOption name = (name, none) := by
  rw [splitOption, Text.splitOnce?_eq_none_iff.mpr named.not_occurs]

/-- The name ends at the first sign of equality, since there is none in it. -/
theorem splitOption_attached (word : String) :
    splitOption (name ++ "=" ++ word) = (name, some word) := by
  have cut : Text.FirstCut "=" (name ++ "=" ++ word) name word := by
    refine ⟨rfl, ?_⟩
    intro left right occurs
    apply Nat.le_of_not_lt
    intro earlier
    rw [String.append_assoc] at occurs
    obtain ⟨rest, inside⟩ := Text.exists_rest_of_append occurs earlier
    exact named.not_occurs ⟨left, rest, inside⟩
  rw [splitOption, Text.splitOnce?_eq_some_iff.mpr cut]

end IsOptionName

namespace OptionTable

variable (options : OptionTable) {name : String}

theorem named_of_choice (declared : options.choice? = some name) : IsOptionName name := by
  apply options.named
  rw [declared]
  exact List.mem_append_right _ List.mem_cons_self

theorem not_mem_of_choice (declared : options.choice? = some name) : name ∉ options.flags :=
  fun flag => options.apart name flag declared

theorem read_operand {argument : String} (free : isOption argument = false)
    (rest : List String) :
    options.read (argument :: rest) =
      if options.interspersed then (options.read rest).map (·.addOperand argument)
      else .ok { operands := argument :: rest } := by
  have goesOn : argument ≠ "--" := by
    rintro rfl
    cases free
  simp only [read, goesOn, free, Bool.false_eq_true, ↓reduceIte]

theorem read_flag (declared : name ∈ options.flags) (rest : List String) :
    options.read (name :: rest) = (options.read rest).map (·.addFlag name) := by
  have named := options.named name (List.mem_append_left _ declared)
  have goesOn := named.append_ne_end ""
  have option := named.isOption_append ""
  rw [String.append_empty] at goesOn option
  simp only [read, goesOn, option, named.splitOption_eq, declared, ↓reduceIte]

theorem read_choice (declared : options.choice? = some name) (rest : List String) :
    options.read (name :: rest) =
      match rest with
      | word :: others => (options.read others).map (·.addWord word)
      | [] => .error (.missingValue name) := by
  have named := options.named_of_choice declared
  have goesOn := named.append_ne_end ""
  have option := named.isOption_append ""
  rw [String.append_empty] at goesOn option
  cases rest <;>
    simp only [read, goesOn, option, named.splitOption_eq, options.not_mem_of_choice declared,
      declared, ↓reduceIte]

theorem read_attached (declared : options.choice? = some name) (word : String)
    (rest : List String) :
    options.read ((name ++ "=" ++ word) :: rest) = (options.read rest).map (·.addWord word) := by
  have named := options.named_of_choice declared
  have goesOn := named.append_ne_end ("=" ++ word)
  have option := named.isOption_append ("=" ++ word)
  rw [← String.append_assoc] at goesOn option
  simp only [read, goesOn, option, named.splitOption_attached, options.not_mem_of_choice declared,
    declared, ↓reduceIte]

/-- An option that is neither a flag nor the choice is not known, unless it is a flag with a word
attached to it, which is not known to take one. -/
theorem read_other {argument : String} (option : isOption argument = true)
    (goesOn : argument ≠ "--") (notFlag : argument ∉ options.flags)
    (notChoice : ∀ name, options.choice? = some name →
      argument ≠ name ∧ ∀ word, argument ≠ name ++ "=" ++ word) (rest : List String) :
    ∃ error, options.read (argument :: rest) = .error error := by
  cases found : Text.splitOnce? argument "=" with
  | none =>
    have unchosen : options.choice? ≠ some argument := fun same => (notChoice _ same).1 rfl
    simp only [read, goesOn, option, splitOption, found, notFlag, unchosen, ↓reduceIte]
    exact ⟨_, rfl⟩
  | some sides =>
    rcases sides with ⟨name, value⟩
    have whole := (Text.splitOnce?_eq_some_iff.mp found).whole
    have unchosen : options.choice? ≠ some name := fun same => (notChoice _ same).2 value whole
    by_cases flag : name ∈ options.flags
    · simp only [read, goesOn, option, splitOption, found, flag, ↓reduceIte]
      exact ⟨_, rfl⟩
    · simp only [read, goesOn, option, splitOption, found, flag, unchosen, ↓reduceIte]
      exact ⟨_, rfl⟩

end OptionTable

theorem Manual.page_ne_empty (path synopsis : String) (about tables : List String) :
    page path synopsis about tables ≠ "" := by
  simp [page, usage, String.append_eq_empty_iff]

namespace Standard

variable {κ : Type} (terminal : Bool) (program : ProgramInterface κ) {arguments : List String}

theorem refusal_eq {α : Type} (hint : String) (error : UsageError) :
    ∃ complaint, refusal (α := α) terminal hint error = .refused complaint :=
  ⟨_, rfl⟩

theorem enter_of_error {error : UsageError}
    (unread : program.options.read arguments = .error error) :
    enter terminal program arguments = refusal terminal program.hint error := by
  have given : arguments ≠ [] := by
    rintro rfl
    cases unread
  simp only [enter, given, enterUpTo, unread, ↓reduceIte]

theorem enterUpTo_of_flags {α : Type} {reading : Reading}
    (read : program.options.read arguments = .ok reading) (asked : reading.flags ≠ [])
    (goOn : String → List String → Outcome α) :
    ∃ text, text ≠ "" ∧ enterUpTo terminal program arguments goOn = .shown text := by
  obtain ⟨flag, others, known⟩ := List.exists_cons_of_ne_nil asked
  simp only [enterUpTo, read, known]
  refine ⟨_, ?_, rfl⟩
  split
  · simp [ProgramInterface.versionLine, String.append_eq_empty_iff]
  · exact Manual.page_ne_empty _ _ _ _

theorem enter_of_flags {reading : Reading} (read : program.options.read arguments = .ok reading)
    (asked : reading.flags ≠ []) :
    ∃ text, text ≠ "" ∧ enter terminal program arguments = .shown text := by
  have given : arguments ≠ [] := by
    rintro rfl
    cases read
    exact asked rfl
  rw [enter, if_neg given]
  exact enterUpTo_of_flags terminal program read asked _

theorem enter_of_words {words operands : List String} (given : arguments ≠ [])
    (read : program.options.read arguments = .ok { words, operands }) :
    enter terminal program arguments =
      match chosen program.choice words with
      | .error error => refusal terminal program.hint error
      | .ok word => dispatch terminal program word operands := by
  cases choice : chosen program.choice words <;>
    simp only [enter, if_neg given, enterUpTo, read, choice]

theorem given_of_operands {words rest : List String} {name : String}
    (read : program.options.read arguments = .ok { words, operands := name :: rest }) :
    arguments ≠ [] := by
  rintro rfl
  cases read

theorem dispatch_of_unknown {name : String} (unknown : program.command? name = none)
    (word : String) (rest : List String) :
    (∃ text, text ≠ "" ∧ dispatch terminal program word (name :: rest) = .shown text) ∨
      ∃ complaint, dispatch terminal program word (name :: rest) = .refused complaint := by
  simp only [dispatch, unknown]
  cases read : program.options.read (name :: rest) with
  | error error =>
    right
    simp only [enterUpTo, read]
    exact refusal_eq terminal _ _
  | ok reading =>
    by_cases unasked : reading.flags = []
    · right
      simp only [enterUpTo, read, unasked]
      split <;> exact refusal_eq terminal _ _
    · exact .inl (enterUpTo_of_flags terminal program read unasked _)

theorem enter_of_unknown {words rest : List String} {name : String}
    (read : program.options.read arguments = .ok { words, operands := name :: rest })
    (unknown : program.command? name = none) :
    (∃ text, text ≠ "" ∧ enter terminal program arguments = .shown text) ∨
      ∃ complaint, enter terminal program arguments = .refused complaint := by
  rw [enter_of_words terminal program (given_of_operands program read) read]
  cases chosen program.choice words with
  | error error => exact .inr (refusal_eq terminal _ _)
  | ok word => exact dispatch_of_unknown terminal program unknown word rest

theorem enter_of_command {words rest : List String} {name word : String} {command : κ}
    (read : program.options.read arguments = .ok { words, operands := name :: rest })
    (choice : chosen program.choice words = .ok word)
    (known : program.command? name = some command) :
    enter terminal program arguments = .passed ⟨word, command, rest⟩ := by
  rw [enter_of_words terminal program (given_of_operands program read) read, choice]
  simp only [dispatch, known]

theorem enter_of_missing {words : List String}
    (read : program.options.read arguments = .ok { words }) :
    ∃ complaint, enter terminal program arguments = .refused complaint := by
  by_cases given : arguments = []
  · rw [enter, if_pos given]
    exact ⟨_, rfl⟩
  · rw [enter_of_words terminal program given read]
    split <;> exact refusal_eq terminal _ _

theorem chosen_of_unknown {choice : Choice} {words : List String} {word : String}
    (last : words.getLast? = some word) (unknown : choice.words.find? (sameLetters word) = none) :
    chosen choice words = .error (.unknownWord choice word) := by
  simp only [chosen, last, unknown]

theorem chosen_of_known {choice : Choice} {words : List String} {word known : String}
    (last : words.getLast? = some word)
    (found : choice.words.find? (sameLetters word) = some known) :
    chosen choice words = .ok known := by
  simp only [chosen, last, found]

theorem call_of_reading (command : CommandInterface) (path : String) {reading : Reading}
    (read : CommandInterface.options.read arguments = .ok reading) :
    call terminal command path arguments =
      if reading.flags ≠ [] then .shown (command.help path)
      else if command.accepts reading.operands then .passed reading.operands
      else refusal terminal (command.hint path) (miscount command reading.operands) := by
  simp only [call, read]

/-- Every level is spelled with capital letters. -/
theorem sameLetters_level_iff (level : Level) (word : String) :
    sameLetters word level.name = true ↔ level.IsSpelled word := by
  have capital : level.name.toList.map Char.toUpper = level.name.toList := by
    cases level <;> decide
  rw [sameLetters, decide_eq_true_iff, capital, Level.IsSpelled]

end Standard

namespace Toolkit

variable (terminal errorTerminal : Bool)

theorem on_read_eq_ok_iff {options : OptionTable} {arguments : List String} {reading : Reading} :
    (on terminal errorTerminal).read options arguments = .ok reading ↔
      options.read arguments = .ok reading := by
  simp only [on]
  cases options.read arguments with
  | error error => constructor <;> intro same <;> cases same
  | ok found => constructor <;> intro same <;> cases same <;> rfl

theorem on_read_eq_error {options : OptionTable} {arguments : List String} {message : String}
    (unread : (on terminal errorTerminal).read options arguments = .error message) :
    ∃ error, options.read arguments = .error error := by
  simp only [on] at unread
  cases read : options.read arguments with
  | error error => exact ⟨error, rfl⟩
  | ok reading =>
    rw [read] at unread
    cases unread

theorem on_read_of_error {options : OptionTable} {arguments : List String}
    (unread : ∃ error, options.read arguments = .error error) :
    ∃ message, (on terminal errorTerminal).read options arguments = .error message := by
  obtain ⟨error, unread⟩ := unread
  simp only [on, unread]
  exact ⟨_, rfl⟩

/-- What is found in front of other arguments is found by the toolkit as well. -/
theorem on_read_map {options : OptionTable} {arguments rest : List String}
    {change : Reading → Reading} (read : options.read arguments = (options.read rest).map change) :
    (on terminal errorTerminal).read options arguments =
      ((on terminal errorTerminal).read options rest).map change := by
  simp only [on, read]
  cases options.read rest <;> rfl

/-- The toolkit that runs is one that behaves as documented. -/
theorem on_documented : (on terminal errorTerminal).Documented where
  read_nil options := rfl
  read_end options operands := by
    rw [on_read_eq_ok_iff]
    simp only [OptionTable.read, ↓reduceIte]
  read_first := by
    intro options strict argument free rest
    rw [on_read_eq_ok_iff, options.read_operand free, strict]
    rfl
  read_among := by
    intro options interspersed argument free rest
    apply on_read_map
    rw [options.read_operand free, if_pos interspersed]
  read_flag {options} _ declared rest :=
    on_read_map terminal errorTerminal (options.read_flag declared rest)
  read_apart {options} _ declared word rest :=
    on_read_map terminal errorTerminal (options.read_choice declared (word :: rest))
  read_attached {options} _ declared word rest :=
    on_read_map terminal errorTerminal (options.read_attached declared word rest)
  read_missing {options} _ declared :=
    on_read_of_error terminal errorTerminal ⟨_, options.read_choice declared []⟩
  read_other {options} _ option goesOn notFlag notChoice rest :=
    on_read_of_error terminal errorTerminal
      (options.read_other option goesOn notFlag notChoice rest)
  ignores_case := Standard.sameLetters_level_iff
  enter_unread := by
    intro κ program arguments message unread
    obtain ⟨error, unread⟩ := on_read_eq_error terminal errorTerminal unread
    have refused := Standard.enter_of_error errorTerminal program unread
    exact ⟨_, refused⟩
  enter_asked := by
    intro κ program arguments reading read asked
    rw [on_read_eq_ok_iff] at read
    exact Standard.enter_of_flags errorTerminal program read asked
  enter_unchosen := by
    intro κ program arguments operands words read word last unknown
    rw [on_read_eq_ok_iff] at read
    have given : arguments ≠ [] := by
      rintro rfl
      cases read
      cases last
    have refused := Standard.enter_of_words errorTerminal program given read
    rw [Standard.chosen_of_unknown last unknown] at refused
    exact ⟨_, refused⟩
  enter_missing := by
    intro κ program arguments words read
    rw [on_read_eq_ok_iff] at read
    exact Standard.enter_of_missing errorTerminal program read
  enter_unknown := by
    intro κ program arguments words rest name read unknown
    rw [on_read_eq_ok_iff] at read
    exact Standard.enter_of_unknown errorTerminal program read unknown
  enter_default := by
    intro κ program arguments rest name command read known
    rw [on_read_eq_ok_iff] at read
    exact Standard.enter_of_command errorTerminal program read rfl known
  enter_chosen := by
    intro κ program arguments words rest name word chosen command read last found known
    rw [on_read_eq_ok_iff] at read
    have choice := Standard.chosen_of_known last found
    exact Standard.enter_of_command errorTerminal program read choice known
  call_unread := by
    intro command path arguments message unread
    obtain ⟨error, unread⟩ := on_read_eq_error terminal errorTerminal unread
    simp only [on, Standard.call, unread]
    exact Standard.refusal_eq errorTerminal _ _
  call_asked := by
    intro command path arguments reading read asked
    rw [on_read_eq_ok_iff] at read
    have shown := Standard.call_of_reading errorTerminal command path read
    rw [if_pos asked] at shown
    exact ⟨_, Manual.page_ne_empty _ _ _ _, shown⟩
  call_accepted := by
    intro command path arguments reading read unasked accepted
    rw [on_read_eq_ok_iff] at read
    have passed := Standard.call_of_reading errorTerminal command path read
    rw [if_neg (not_not_intro unasked), if_pos accepted] at passed
    exact passed
  call_unaccepted := by
    intro command path arguments reading read unasked unaccepted
    rw [on_read_eq_ok_iff] at read
    have refused := Standard.call_of_reading errorTerminal command path read
    rw [if_neg (not_not_intro unasked), if_neg (Bool.not_eq_true _ ▸ unaccepted)] at refused
    exact ⟨_, refused⟩
  badOperand_eq _ _ _ _ := rfl
  refusalCode_eq := rfl

theorem captured_documented : captured.Documented :=
  on_documented false false

theorem captured_captured : captured.Captured where
  echo_eq printed := (Except.ok.inj printed).symm
  echo_ascii _ := ⟨_, rfl⟩
  echoError_eq _ := rfl

theorem captured_writesAll : captured.WritesAll :=
  fun _ => ⟨_, rfl⟩

end Toolkit

end CssSelector.CommandLine

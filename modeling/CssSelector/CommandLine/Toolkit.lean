import CssSelector.CommandLine.Interface
import CssSelector.Diagnostic
import CssSelector.Text.ControlSequence

set_option autoImplicit false

namespace CssSelector.CommandLine

/-- What becomes of arguments: they ask for a text, which is printed; something is wrong with them,
which is told on the error stream; or else they are passed on. -/
inductive Outcome (α : Type) where
  | shown (text : String)
  | refused (complaint : String)
  | passed (value : α)

/-- What a program passes on: the word that it chooses, a command, and the command's arguments. -/
structure Entrance (κ : Type) where
  word : String
  command : κ
  arguments : List String

/-- The toolkit by which command lines are read and texts are shown, on the streams of a run. It is
not a part of this library, so nothing is known of it but what the structures below assume. -/
structure Toolkit where
  /-- Reads the arguments for a table of options, or says what is wrong with them. -/
  read : OptionTable → List String → Except String Reading
  /-- Whether two words differ in nothing but upper and lower case. -/
  sameLetters : String → String → Bool
  /-- Works on the arguments of a program, before the program itself does anything. -/
  enter {κ : Type} : ProgramInterface κ → List String → Outcome (Entrance κ)
  /-- Works on the arguments of a command that is called by a path. The operands are passed on. -/
  call : CommandInterface → String → List String → Outcome (List String)
  /-- The lines that show how a command is called by a path. -/
  usage : CommandInterface → String → String
  /-- What a command by a path tells of operands, here named, that it finds to be bad itself. -/
  badOperand : CommandInterface → String → String → String → String
  /-- The exit code of a run whose arguments are refused. -/
  refusalCode : Nat
  /-- What is printed when a text is echoed, or why the encoding of the stream refuses the text. -/
  echo : String → Except String String
  /-- What is told on the error stream when a text is echoed there. -/
  echoError : String → String

namespace Toolkit

/-- What the documentation of the toolkit says of arguments, as far as it matters here. -/
structure Documented (toolkit : Toolkit) : Prop where
  read_nil (options : OptionTable) : toolkit.read options [] = .ok {}
  /-- `--` ends the options. -/
  read_end (options : OptionTable) (operands : List String) :
    toolkit.read options ("--" :: operands) = .ok { operands }
  /-- What does not look like an option is an operand, be it a lone hyphen. Unless options are
  interspersed with operands, they end with the first of these. -/
  read_first {options : OptionTable} (strict : options.interspersed = false) {argument : String}
    (free : isOption argument = false) (rest : List String) :
    toolkit.read options (argument :: rest) = .ok { operands := argument :: rest }
  read_among {options : OptionTable} (interspersed : options.interspersed = true)
    {argument : String} (free : isOption argument = false) (rest : List String) :
    toolkit.read options (argument :: rest) =
      (toolkit.read options rest).map (·.addOperand argument)
  read_flag {options : OptionTable} {name : String} (declared : name ∈ options.flags)
    (rest : List String) :
    toolkit.read options (name :: rest) = (toolkit.read options rest).map (·.addFlag name)
  /-- An option that takes a word takes the next argument, whatever that looks like. -/
  read_apart {options : OptionTable} {name : String} (declared : options.choice? = some name)
    (word : String) (rest : List String) :
    toolkit.read options (name :: word :: rest) = (toolkit.read options rest).map (·.addWord word)
  /-- The word may be attached to the option by a sign of equality. -/
  read_attached {options : OptionTable} {name : String} (declared : options.choice? = some name)
    (word : String) (rest : List String) :
    toolkit.read options ((name ++ "=" ++ word) :: rest) =
      (toolkit.read options rest).map (·.addWord word)
  read_missing {options : OptionTable} {name : String} (declared : options.choice? = some name) :
    ∃ message, toolkit.read options [name] = .error message
  /-- Other options are not known, or are flags to which a word is attached. -/
  read_other {options : OptionTable} {argument : String} (option : isOption argument = true)
    (goesOn : argument ≠ "--") (notFlag : argument ∉ options.flags)
    (notChoice : ∀ name, options.choice? = some name →
      argument ≠ name ∧ ∀ word, argument ≠ name ++ "=" ++ word) (rest : List String) :
    ∃ message, toolkit.read options (argument :: rest) = .error message
  /-- Choices are made without regard to upper and lower case. -/
  ignores_case (level : Level) (word : String) :
    toolkit.sameLetters word level.name = true ↔ level.IsSpelled word
  enter_unread {κ : Type} {program : ProgramInterface κ} {arguments : List String}
    {message : String} (unread : toolkit.read program.options arguments = .error message) :
    ∃ complaint, toolkit.enter program arguments = .refused complaint
  /-- A flag counts before anything else that is given. -/
  enter_asked {κ : Type} {program : ProgramInterface κ} {arguments : List String}
    {reading : Reading} (read : toolkit.read program.options arguments = .ok reading)
    (asked : reading.flags ≠ []) :
    ∃ text, text ≠ "" ∧ toolkit.enter program arguments = .shown text
  /-- The last word counts, and it has to be one of those that can be chosen. -/
  enter_unchosen {κ : Type} {program : ProgramInterface κ} {arguments operands words : List String}
    (read : toolkit.read program.options arguments = .ok { words, operands }) {word : String}
    (last : words.getLast? = some word)
    (unknown : program.choice.words.find? (toolkit.sameLetters word) = none) :
    ∃ complaint, toolkit.enter program arguments = .refused complaint
  enter_missing {κ : Type} {program : ProgramInterface κ} {arguments words : List String}
    (read : toolkit.read program.options arguments = .ok { words }) :
    ∃ complaint, toolkit.enter program arguments = .refused complaint
  /-- A command that does not exist is refused, or read as an option if it looks like one. -/
  enter_unknown {κ : Type} {program : ProgramInterface κ} {arguments words rest : List String}
    {name : String}
    (read : toolkit.read program.options arguments = .ok { words, operands := name :: rest })
    (unknown : program.command? name = none) :
    (∃ text, text ≠ "" ∧ toolkit.enter program arguments = .shown text) ∨
      ∃ complaint, toolkit.enter program arguments = .refused complaint
  /-- The command is looked up before the program begins, and its arguments are left to it. -/
  enter_default {κ : Type} {program : ProgramInterface κ} {arguments rest : List String}
    {name : String} {command : κ}
    (read : toolkit.read program.options arguments = .ok { operands := name :: rest })
    (known : program.command? name = some command) :
    toolkit.enter program arguments = .passed ⟨program.choice.default, command, rest⟩
  enter_chosen {κ : Type} {program : ProgramInterface κ} {arguments words rest : List String}
    {name word chosen : String} {command : κ}
    (read : toolkit.read program.options arguments = .ok { words, operands := name :: rest })
    (last : words.getLast? = some word)
    (found : program.choice.words.find? (toolkit.sameLetters word) = some chosen)
    (known : program.command? name = some command) :
    toolkit.enter program arguments = .passed ⟨chosen, command, rest⟩
  call_unread {command : CommandInterface} {path : String} {arguments : List String}
    {message : String} (unread : toolkit.read CommandInterface.options arguments = .error message) :
    ∃ complaint, toolkit.call command path arguments = .refused complaint
  call_asked {command : CommandInterface} {path : String} {arguments : List String}
    {reading : Reading} (read : toolkit.read CommandInterface.options arguments = .ok reading)
    (asked : reading.flags ≠ []) :
    ∃ text, text ≠ "" ∧ toolkit.call command path arguments = .shown text
  /-- A command is given its operands if it takes so many, and otherwise they are refused. -/
  call_accepted {command : CommandInterface} {path : String} {arguments : List String}
    {reading : Reading} (read : toolkit.read CommandInterface.options arguments = .ok reading)
    (unasked : reading.flags = []) (accepted : command.accepts reading.operands = true) :
    toolkit.call command path arguments = .passed reading.operands
  call_unaccepted {command : CommandInterface} {path : String} {arguments : List String}
    {reading : Reading} (read : toolkit.read CommandInterface.options arguments = .ok reading)
    (unasked : reading.flags = []) (unaccepted : command.accepts reading.operands = false) :
    ∃ complaint, toolkit.call command path arguments = .refused complaint
  /-- What is wrong with an operand is told behind the lines that show the usage. -/
  badOperand_eq (command : CommandInterface) (path name message : String) :
    toolkit.badOperand command path name message =
      toolkit.usage command path ++
        toolkit.echoError ("Error: Invalid value for " ++ name ++ ": " ++ message)
  refusalCode_eq : toolkit.refusalCode = 2

/-- What the documentation says of echoed texts, for streams of which neither is a terminal. The
error stream is taken to have every character, while the output stream may have none but ASCII. -/
structure Captured (toolkit : Toolkit) : Prop where
  /-- A text is printed without control sequences, on a line of its own. -/
  echo_eq {text line : String} (printed : toolkit.echo text = .ok line) :
    line = Text.ControlSequence.strip text ++ "\n"
  /-- Every encoding has the characters of ASCII. -/
  echo_ascii {text : String} (ascii : text.toList.all (·.toNat < 0x80) = true) :
    ∃ line, toolkit.echo text = .ok line
  echoError_eq (text : String) :
    toolkit.echoError text = Text.ControlSequence.strip text ++ "\n"

/-- The encoding of the output stream has every character, as UTF-8 does. A text consists of
characters: there is no half of a surrogate pair in it, which UTF-8 would refuse. -/
def WritesAll (toolkit : Toolkit) : Prop :=
  ∀ text, ∃ line, toolkit.echo text = .ok line

end Toolkit

end CssSelector.CommandLine

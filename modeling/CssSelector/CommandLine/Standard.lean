import CssSelector.CommandLine.Arguments
import CssSelector.CommandLine.Toolkit

set_option autoImplicit false

namespace CssSelector.CommandLine

namespace Standard

/-- A text as it is echoed: on a terminal as it is, and elsewhere without control sequences. -/
def echoed (terminal : Bool) (text : String) : String :=
  (if terminal then text else Text.ControlSequence.strip text) ++ "\n"

def sameLetters (word other : String) : Bool :=
  word.toList.map Char.toUpper = other.toList.map Char.toUpper

def refusal {α : Type} (terminal : Bool) (hint : String) (error : UsageError) : Outcome α :=
  .refused ((if error.hasHint then hint else "") ++ echoed terminal ("Error: " ++ error.message))

/-- The word that the last of some words chooses, or the one that stands in for it. -/
def chosen (choice : Choice) (words : List String) : Except UsageError String :=
  match words.getLast? with
  | none => .ok choice.default
  | some word =>
    match choice.words.find? (sameLetters word) with
    | some known => .ok known
    | none => .error (.unknownWord choice word)

def enterUpTo {κ α : Type} (terminal : Bool) (program : ProgramInterface κ)
    (arguments : List String) (goOn : String → List String → Outcome α) : Outcome α :=
  match program.options.read arguments with
  | .error error => refusal terminal program.hint error
  | .ok reading =>
    match reading.flags with
    | flag :: _ => .shown (if flag = "--version" then program.versionLine else program.help)
    | [] =>
      match chosen program.choice reading.words with
      | .error error => refusal terminal program.hint error
      | .ok word => goOn word reading.operands

/-- The name of a command that does not exist is first read as an argument of the program, since it
may be an option that came after `--`. -/
def dispatch {κ : Type} (terminal : Bool) (program : ProgramInterface κ) (word : String) :
    List String → Outcome (Entrance κ)
  | [] => refusal terminal program.hint .missingCommand
  | name :: rest =>
    match program.command? name with
    | some command => .passed ⟨word, command, rest⟩
    | none =>
      enterUpTo terminal program (name :: rest) fun _ _ =>
        refusal terminal program.hint (.unknownCommand name)

/-- Without any argument the help is told as a complaint. -/
def enter {κ : Type} (terminal : Bool) (program : ProgramInterface κ) (arguments : List String) :
    Outcome (Entrance κ) :=
  if arguments = [] then .refused program.help
  else enterUpTo terminal program arguments (dispatch terminal program)

def miscount (command : CommandInterface) : List String → UsageError
  | [] => .missingOperands (command.operands?.getD "")
  | first :: others => .extraOperands first others

def call (terminal : Bool) (command : CommandInterface) (path : String)
    (arguments : List String) : Outcome (List String) :=
  match CommandInterface.options.read arguments with
  | .error error => refusal terminal (command.hint path) error
  | .ok reading =>
    if reading.flags ≠ [] then .shown (command.help path)
    else if command.accepts reading.operands then .passed reading.operands
    else refusal terminal (command.hint path) (miscount command reading.operands)

end Standard

/-- A toolkit that runs, for streams of which either may be a terminal and none refuses a text. -/
def Toolkit.on (terminal errorTerminal : Bool) : Toolkit where
  read options arguments := (options.read arguments).mapError (·.message)
  sameLetters := Standard.sameLetters
  enter program arguments := Standard.enter errorTerminal program arguments
  call := Standard.call errorTerminal
  usage := CommandInterface.hint
  badOperand command path name message :=
    command.hint path ++
      Standard.echoed errorTerminal ("Error: Invalid value for " ++ name ++ ": " ++ message)
  refusalCode := 2
  echo text := .ok (Standard.echoed terminal text)
  echoError := Standard.echoed errorTerminal

def Toolkit.captured : Toolkit :=
  Toolkit.on false false

end CssSelector.CommandLine

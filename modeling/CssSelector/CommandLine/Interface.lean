set_option autoImplicit false

namespace CssSelector.CommandLine

/-- The name of an option: two hyphens and something more, without a sign of equality. -/
def IsOptionName (name : String) : Prop :=
  name.toList.take 2 = ['-', '-'] ∧ 2 < name.length ∧ '=' ∉ name.toList

instance (name : String) : Decidable (IsOptionName name) :=
  inferInstanceAs (Decidable (_ ∧ _ ∧ _))

/-- Whether an argument looks like an option. A lone hyphen does not. -/
def isOption (argument : String) : Bool :=
  match argument.toList with
  | '-' :: _ :: _ => true
  | _ => false

/-- The options that are declared for some arguments: flags, each of which asks for a text, and at
most one option that takes a word. They may be interspersed with operands, or end with the first. -/
structure OptionTable where
  flags : List String
  choice? : Option String
  interspersed : Bool
  named : ∀ name ∈ flags ++ choice?.toList, IsOptionName name
  apart : ∀ name ∈ flags, choice? ≠ some name

/-- What is found among arguments, each kind in order. -/
structure Reading where
  flags : List String := []
  words : List String := []
  operands : List String := []
deriving DecidableEq

namespace Reading

def addFlag (reading : Reading) (name : String) : Reading :=
  { reading with flags := name :: reading.flags }

def addWord (reading : Reading) (word : String) : Reading :=
  { reading with words := word :: reading.words }

def addOperand (reading : Reading) (operand : String) : Reading :=
  { reading with operands := operand :: reading.operands }

end Reading

/-- What a command declares: its name, what it is for, and the name of its operands. It takes at
least one of them if they have a name, and otherwise none. -/
structure CommandInterface where
  name : String
  about : List String
  operands? : Option String

namespace CommandInterface

/-- A command has no option but the flag that asks for help. -/
def options : OptionTable where
  flags := ["--help"]
  choice? := none
  interspersed := true
  named := by decide
  apart := by simp

def accepts (command : CommandInterface) (operands : List String) : Bool :=
  command.operands?.isSome == !operands.isEmpty

end CommandInterface

/-- The option of a program that takes one of some words, and the word that stands in for it. -/
structure Choice where
  name : String
  about : String
  words : List String
  default : String
  named : IsOptionName name
  apart : name ∉ ["--version", "--help"]

/-- What a program declares: its name and version, what it is for, its choice, and its commands. -/
structure ProgramInterface (κ : Type) where
  name : String
  version : String
  about : List String
  choice : Choice
  commands : List κ
  interface : κ → CommandInterface

namespace ProgramInterface

variable {κ : Type}

/-- No option of a program may follow the word for its command. -/
def options (program : ProgramInterface κ) : OptionTable where
  flags := ["--version", "--help"]
  choice? := some program.choice.name
  interspersed := false
  named := by
    intro name member
    rw [Option.toList_some, List.mem_append, List.mem_singleton] at member
    rcases member with flag | rfl
    · exact (by decide : ∀ name ∈ ["--version", "--help"], IsOptionName name) name flag
    · exact program.choice.named
  apart := by
    intro name flag same
    exact program.choice.apart (Option.some.inj same ▸ flag)

/-- The command that a word names, in these very letters. -/
def command? (program : ProgramInterface κ) (word : String) : Option κ :=
  program.commands.find? fun command => (program.interface command).name = word

end ProgramInterface

end CssSelector.CommandLine

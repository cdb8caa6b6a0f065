import CssSelector.CommandLine.Command

set_option autoImplicit false

namespace CssSelector.CommandLine

namespace Program

def name : String := "cssbuilder"

def version : String := "0.1.0"

/-- The names that the library has for its users, in order. -/
def publicNames : List String :=
  ["BuilderConfig", "DuplicateError", "OrderError", "Rank", "Selector", "SelectorBuilder",
    "SelectorError", "SelectorParts", "__version__", "builder"]

def levelChoice : Choice where
  name := "--log-level"
  about := "Logging verbosity"
  words := Level.all.map Level.name
  default := ({} : Config).logLevel
  named := by decide
  apart := by decide

def interface : ProgramInterface Command where
  name := name
  version := version
  about := ["cssbuilder - build CSS selectors from ordered parts."]
  choice := levelChoice
  commands := Command.all
  interface := Command.interface

def path (command : Command) : String :=
  name ++ " " ++ command.name

def conventions (level : Level) : Config :=
  { logLevel := level.name }

/-- Lets the chosen level take effect, and then runs the command. -/
def start (toolkit : Toolkit) (entrance : Entrance Command) : Report :=
  match Level.ofWord? entrance.word with
  | none => Report.escape Report.defaultLevel (.unknownLevel entrance.word)
  | some level =>
    entrance.command.run toolkit (path entrance.command) level (conventions level)
      entrance.arguments

def run (toolkit : Toolkit) (arguments : List String) : Report :=
  Report.ofOutcome toolkit Report.defaultLevel (toolkit.enter interface arguments) (start toolkit)

end Program

/-- What is run: the program, or one of its commands under the program's name. -/
inductive Entry where
  | program
  | command (command : Command)
deriving DecidableEq

/-- Runs an entry with its arguments. The program has conventions of its own; a command by itself
takes the given ones. -/
def Entry.run (toolkit : Toolkit) (entry : Entry) (arguments : List String) (config : Config) :
    Report :=
  match entry with
  | .program => Program.run toolkit arguments
  | .command single => single.run toolkit Program.name Report.defaultLevel config arguments

end CssSelector.CommandLine

import CssSelector.CommandLine.Interface
import CssSelector.Text.Quoted

set_option autoImplicit false

namespace CssSelector.CommandLine

inductive UsageError where
  | unknownOption (name : String)
  | unexpectedValue (option : String)
  | missingValue (option : String)
  | unknownWord (choice : Choice) (word : String)
  | missingCommand
  | unknownCommand (name : String)
  | missingOperands (name : String)
  | extraOperands (first : String) (others : List String)

namespace UsageError

def message : UsageError → String
  | unknownOption name => "No such option " ++ Text.quote name ++ "."
  | unexpectedValue option => "Option " ++ Text.quote option ++ " does not take a value."
  | missingValue option => "Option " ++ Text.quote option ++ " requires an argument."
  | unknownWord choice word =>
    "Invalid value for " ++ Text.quote choice.name ++ ": " ++ Text.quote word ++
      " is not one of " ++
        String.intercalate ", " (choice.words.map fun known => Text.quote known.toLower) ++ "."
  | missingCommand => "Missing command."
  | unknownCommand name => "No such command " ++ Text.quote name ++ "."
  | missingOperands name => "Missing argument '" ++ name ++ "...'."
  | extraOperands first [] => "Got unexpected extra argument (" ++ first ++ ")"
  | extraOperands first others =>
    "Got unexpected extra arguments (" ++ String.intercalate " " (first :: others) ++ ")"

/-- Whether a complaint begins with a hint to the manual. It does not where the option is known and
only its value is amiss: one too many, or one too few. -/
def hasHint : UsageError → Bool
  | unexpectedValue _ | missingValue _ => false
  | _ => true

end UsageError

namespace Manual

def usage (path synopsis : String) : String :=
  "Usage: " ++ path ++ " " ++ synopsis ++ "\n"

/-- The way of calling something, and where to find the rest of its manual. -/
def hint (path synopsis : String) : String :=
  usage path synopsis ++ "Try '" ++ path ++ " --help' for help.\n\n"

def spaces (count : Nat) : String :=
  String.ofList (List.replicate count ' ')

/-- The width of the first column of a table, which long entries of it exceed. -/
def width (rows : List (String × String)) : Nat :=
  min 30 (rows.foldl (fun widest row => max widest row.1.length) 0)

def row (width : Nat) : String × String → String
  | (entry, about) =>
    let gap :=
      if entry.length ≤ width then spaces (width + 2 - entry.length)
      else "\n" ++ spaces (width + 4)
    "  " ++ entry ++ gap ++ about ++ "\n"

def table (title : String) (rows : List (String × String)) : String :=
  "\n" ++ title ++ ":\n" ++ String.join (rows.map (row (width rows)))

def paragraphs (lines : List String) : String :=
  String.join (lines.map fun line => if line = "" then "\n" else "  " ++ line ++ "\n")

def page (path synopsis : String) (about : List String) (tables : List String) : String :=
  usage path synopsis ++ "\n" ++ paragraphs about ++ String.join tables

def helpRow : String × String :=
  ("--help", "Show this message and exit.")

end Manual

namespace CommandInterface

def synopsis (command : CommandInterface) : String :=
  match command.operands? with
  | some name => "[OPTIONS] " ++ name ++ "..."
  | none => "[OPTIONS]"

def help (command : CommandInterface) (path : String) : String :=
  Manual.page path command.synopsis command.about [Manual.table "Options" [Manual.helpRow]]

def hint (command : CommandInterface) (path : String) : String :=
  Manual.hint path command.synopsis

end CommandInterface

namespace ProgramInterface

variable {κ : Type} (program : ProgramInterface κ)

def synopsis : String :=
  "[OPTIONS] COMMAND [ARGS]..."

def hint : String :=
  Manual.hint program.name synopsis

def versionLine : String :=
  program.name ++ ", version " ++ program.version ++ "\n"

def help : String :=
  let choice := program.choice
  let words := String.intercalate "|" (choice.words.map String.toLower)
  let options :=
    [("--version", "Show the version and exit."),
      (choice.name ++ " [" ++ words ++ "]",
        choice.about ++ "  [default: " ++ choice.default ++ "]"),
      Manual.helpRow]
  let commands := program.commands.map fun command =>
    ((program.interface command).name, (program.interface command).about.headD "")
  Manual.page program.name synopsis program.about
    [Manual.table "Options" options, Manual.table "Commands" commands]

end ProgramInterface

end CssSelector.CommandLine

import CssSelector.Assembly.Attempt
import CssSelector.CommandLine.Toolkit

set_option autoImplicit false

namespace CssSelector.CommandLine

/-- An error that ends a run and of which no message tells: tokens cannot be split, the encoding of
the output stream refuses a text, or a word names no level. -/
inductive Escape where
  | emptySeparator
  | unwritable (message : String)
  | unknownLevel (word : String)
deriving DecidableEq

def Escape.message : Escape → String
  | emptySeparator => AssemblyError.emptySeparator.message
  | unwritable message => message
  | unknownLevel word => "Unknown level: " ++ Text.quote word

/-- What a run leaves behind: its exit code, what it prints on its two streams, the level from which
events are reported afterwards, and the error that ended it if no message tells of one. -/
structure Report where
  exitCode : Nat
  output : String := ""
  errorOutput : String := ""
  level : Level
  uncaught : Option Escape := none
deriving DecidableEq

namespace Report

def defaultLevel : Level := .warning

def answer (level : Level) (output : String) : Report :=
  { exitCode := 0, output, level }

def refusal (toolkit : Toolkit) (level : Level) (complaint : String) : Report :=
  { exitCode := toolkit.refusalCode, errorOutput := complaint, level }

def escape (level : Level) (error : Escape) : Report :=
  { exitCode := 1, level, uncaught := some error }

/-- Echoes texts, up to the first one that the output stream refuses. -/
def echoing (toolkit : Toolkit) (level : Level) : List String → Report
  | [] => answer level ""
  | text :: rest =>
    match toolkit.echo text with
    | .ok line =>
      let report := echoing toolkit level rest
      { report with output := line ++ report.output }
    | .error message => escape level (.unwritable message)

/-- What comes of arguments: a text that they ask for, a complaint, or what is done with them. -/
def ofOutcome {α : Type} (toolkit : Toolkit) (level : Level) (outcome : Outcome α)
    (goOn : α → Report) : Report :=
  match outcome with
  | .shown text => answer level text
  | .refused complaint => refusal toolkit level complaint
  | .passed value => goOn value

def withEvents (report : Report) (events : List Event) : Report :=
  { report with
    errorOutput :=
      String.join ((Event.reports report.level events).map (· ++ "\n")) ++ report.errorOutput }

end Report

end CssSelector.CommandLine

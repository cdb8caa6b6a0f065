import CssSelector.Assembly
import CssSelector.CommandLine.Report

set_option autoImplicit false

namespace CssSelector.CommandLine

/-- The commands of the program: one assembles a selector from tokens, the other one lists the kinds
of parts. -/
inductive Command where
  | build
  | kinds
deriving DecidableEq

namespace Command

def all : List Command := [build, kinds]

def name : Command → String
  | build => "build"
  | kinds => "kinds"

def interface (command : Command) : CommandInterface where
  name := command.name
  about :=
    match command with
    | build =>
      ["Build a CSS selector from KIND:VALUE parts and combinators.",
        "",
        "Kinds are element, id, class, attr, pseudo-class and pseudo-element.",
        "Combinators are >, + and ~; use _ for the descendant combinator.",
        "",
        "Example:",
        "    cssbuilder build element:a 'attr:href$=\".png\"' pseudo-class:focus"]
    | kinds => ["List selector part kinds in the order they must appear."]
  operands? :=
    match command with
    | build => some "TOKENS"
    | kinds => none

/-- The kinds of parts with their ranks, one on each line. -/
def kindLines : List String :=
  Category.all.map fun category => toString category.rank ++ "  " ++ category.keyword

/-- Assembles a selector and prints its text, or tells why there is none. An empty separator is an
error of the conventions, for which no message is printed. -/
def reportSelector (toolkit : Toolkit) (path : String) (level : Level) (config : Config)
    (tokens : List String) : Report :=
  let attempt := assemble config tokens
  let report :=
    match attempt.result with
    | .ok selector => Report.echoing toolkit level [selector.text]
    | .error (.malformed error) =>
      Report.refusal toolkit level (toolkit.badOperand build.interface path "TOKENS" error.message)
    | .error (.rejected error) =>
      { exitCode := 1, errorOutput := toolkit.echoError ("Error: " ++ error.message), level }
    | .error .emptySeparator => Report.escape level .emptySeparator
  report.withEvents attempt.events

def perform (toolkit : Toolkit) (command : Command) (path : String) (level : Level)
    (config : Config) (operands : List String) : Report :=
  match command with
  | build => reportSelector toolkit path level config operands
  | kinds => Report.echoing toolkit level kindLines

def run (toolkit : Toolkit) (command : Command) (path : String) (level : Level) (config : Config)
    (arguments : List String) : Report :=
  Report.ofOutcome toolkit level (toolkit.call command.interface path arguments)
    (command.perform toolkit path level config)

end Command

end CssSelector.CommandLine

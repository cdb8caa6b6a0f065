import CssSelector.CommandLine.Usage
import CssSelector.Text.Split

set_option autoImplicit false

namespace CssSelector.CommandLine

/-- The name of an option, and the value that the same argument gives it. -/
def splitOption (argument : String) : String × Option String :=
  match Text.splitOnce? argument "=" with
  | some (name, value) => (name, some value)
  | none => (argument, none)

/-- The name under which an unknown option is reported: after a single hyphen, every character is
an option of its own, and the first one counts. -/
def unknownName (argument : String) : String :=
  match argument.toList with
  | '-' :: '-' :: _ => (splitOption argument).1
  | characters => String.ofList (characters.take 2)

/-- Reads arguments from left to right, up to the first error. -/
def OptionTable.read (options : OptionTable) : List String → Except UsageError Reading
  | [] => .ok {}
  | argument :: rest =>
    if argument = "--" then .ok { operands := rest }
    else if isOption argument then
      let (name, value?) := splitOption argument
      if name ∈ options.flags then
        match value? with
        | none => (options.read rest).map (·.addFlag name)
        | some _ => .error (.unexpectedValue name)
      else if options.choice? = some name then
        match value? with
        | some value => (options.read rest).map (·.addWord value)
        | none =>
          match rest with
          | word :: others => (options.read others).map (·.addWord word)
          | [] => .error (.missingValue name)
      else .error (.unknownOption (unknownName argument))
    else if options.interspersed then (options.read rest).map (·.addOperand argument)
    else .ok { operands := argument :: rest }

end CssSelector.CommandLine

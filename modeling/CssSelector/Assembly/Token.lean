import CssSelector.Text.Quoted
import CssSelector.Text.Split

set_option autoImplicit false

namespace CssSelector

inductive Token where
  | part (kind value : String)
  | combinator (symbol : String)
deriving DecidableEq

/-- Reads a token: a part's kind ends where the separator first occurs. With an empty separator no
token can be read. -/
def Token.read? (separator text : String) : Option Token :=
  if separator = "" then none
  else
    match Text.splitOnce? text separator with
    | some (kind, value) => some (.part kind value)
    | none => some (.combinator text)

inductive TokenError where
  | unknownKind (kind token : String)
  | strayCombinator (token : String)
  | missingPart
deriving DecidableEq

namespace TokenError

/-- What is said of a fault in the tokens; a text from the tokens is quoted. -/
def message : TokenError → String
  | unknownKind kind token =>
    "unknown part kind " ++ Text.quote kind ++ " in " ++ Text.quote token
  | strayCombinator token => "combinator " ++ Text.quote token ++ " must follow a selector part"
  | missingPart => "expected a selector part after the last combinator"

end TokenError

end CssSelector

import CssSelector.Assembly.Attempt
import CssSelector.Config
import CssSelector.Selector

set_option autoImplicit false

namespace CssSelector

/-- A half-read sequence of tokens: the selector so far with the combinator that follows it, and the
compound selector under way. The combinator is applied when that one is complete. -/
structure Assembly where
  left : Option (Selector × String) := none
  current : Option Selector := none

namespace Assembly

/-- Adds a part to the compound selector under way, or to a new one. -/
def addPart (assembly : Assembly) (part : Part) : Attempt Assembly :=
  let addition := (assembly.current.getD {}).add part
  match addition.error? with
  | none => .success { assembly with current := some addition.selector }
  | some error => .failure (.rejected error) addition.events

/-- Joins a complete compound selector to what stands on its left. -/
def close (assembly : Assembly) (current : Selector) : Attempt Selector :=
  match assembly.left with
  | none => .success current
  | some (left, combinator) =>
    ⟨.ok (({} : Selector).join left combinator current),
      [Selector.joining left combinator current]⟩

def step (config : Config) (assembly : Assembly) (text : String) : Attempt Assembly :=
  match Token.read? config.kindSeparator text with
  | none => .failure .emptySeparator []
  | some (.part kind value) =>
    match Category.ofKeyword? kind with
    | none => .failure (.malformed (.unknownKind kind text)) []
    | some category => assembly.addPart ⟨category, value⟩
  | some (.combinator symbol) =>
    match assembly.current with
    | none => .failure (.malformed (.strayCombinator symbol)) []
    | some current =>
      (assembly.close current).map fun joined =>
        { left := some (joined, config.combinator symbol) }

/-- The selector that is complete at the end of the tokens. -/
def finish (assembly : Assembly) : Attempt Selector :=
  match assembly.current with
  | none => .failure (.malformed .missingPart) []
  | some current => assembly.close current

def run (config : Config) : Assembly → List String → Attempt Selector
  | assembly, [] => assembly.finish
  | assembly, text :: rest => (step config assembly text).bind fun next => run config next rest

end Assembly

def assemble (config : Config) (tokens : List String) : Attempt Selector :=
  Assembly.run config {} tokens

end CssSelector

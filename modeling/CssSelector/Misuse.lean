import CssSelector.Diagnostic

set_option autoImplicit false

namespace CssSelector

/-- Why a selector rejects a part. -/
inductive PartError where
  | duplicate (category : Category)
  | misplaced (category previous : Category)
deriving DecidableEq

namespace PartError

def category : PartError → Category
  | duplicate category => category
  | misplaced category _ => category

/-- The category that the rejected part should have come before. -/
def previous? : PartError → Option Category
  | duplicate _ => none
  | misplaced _ previous => some previous

/-- What is said of a rejected part, which is the same for every part. -/
def message : PartError → String
  | duplicate _ =>
    "Element, id and pseudo-element should not occur more than one time inside the selector"
  | misplaced _ _ =>
    "Selector parts should be arranged in the following order: " ++
      "element, id, class, attribute, pseudo-class, pseudo-element"

def event (text : String) : PartError → Event
  | duplicate category => .duplicate category text
  | misplaced category previous => .misplaced category previous text

end PartError

/-- A misuse: a rejected part, or something that only its message describes. -/
inductive Misuse where
  | general (message : String)
  | part (error : PartError)
deriving DecidableEq

namespace Misuse

def name : Misuse → String
  | general _ => "SelectorError"
  | part (.duplicate _) => "DuplicateError"
  | part (.misplaced _ _) => "OrderError"

def message : Misuse → String
  | general message => message
  | part error => error.message

def describe (misuse : Misuse) : String :=
  misuse.name ++ "(" ++ Text.quote misuse.message ++ ")"

end Misuse

end CssSelector

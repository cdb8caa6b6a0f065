import CssSelector.Misuse
import CssSelector.Parts

set_option autoImplicit false

namespace CssSelector

/-- A selector: its parts, the text that replaces theirs once it joins two selectors, and the
category of the last part that it accepted. -/
structure Selector where
  parts : Parts := {}
  joinedText : Option String := none
  lastCategory : Option Category := none
deriving DecidableEq

namespace Selector

def text (selector : Selector) : String :=
  selector.joinedText.getD selector.parts.text

def isJoined (selector : Selector) : Bool :=
  selector.joinedText.isSome

def describe (selector : Selector) : String :=
  describeSelector selector.text

/-- What adding a part leaves: the selector, and the reason if it rejects the part. -/
structure Addition where
  selector : Selector
  error? : Option PartError := none
deriving DecidableEq

/-- The events of adding a part: a rejection is reported with the text that the selector has after
it. -/
def Addition.events (addition : Addition) : List Event :=
  (addition.error?.map (PartError.event addition.selector.text)).toList

/-- The accepted category that a new part would have to come before. -/
def overtaken? (selector : Selector) (category : Category) : Option Category :=
  selector.lastCategory.filter fun last => category < last

/-- Adds a part. A second part of a single category is rejected and changes nothing; a part that
comes too late is rejected, yet it stays among the parts. -/
def add (selector : Selector) (part : Part) : Addition :=
  if selector.parts.isTaken part.category then ⟨selector, some (.duplicate part.category)⟩
  else
    let parts := selector.parts.insert part
    match selector.overtaken? part.category with
    | some previous => ⟨{ selector with parts }, some (.misplaced part.category previous)⟩
    | none => ⟨{ selector with parts, lastCategory := some part.category }, none⟩

def joinTexts (left combinator right : String) : String :=
  left ++ " " ++ combinator ++ " " ++ right

/-- Makes a selector the join of two selectors, whose texts it takes as they are now. -/
def join (selector left : Selector) (combinator : String) (right : Selector) : Selector :=
  { selector with joinedText := some (joinTexts left.text combinator right.text) }

def joining (left : Selector) (combinator : String) (right : Selector) : Event :=
  .combined left.text combinator right.text

@[simp] theorem text_join (selector left : Selector) (combinator : String) (right : Selector) :
    (selector.join left combinator right).text = joinTexts left.text combinator right.text := rfl

theorem add_of_taken (selector : Selector) (part : Part)
    (taken : selector.parts.isTaken part.category = true) :
    selector.add part = ⟨selector, some (.duplicate part.category)⟩ := by
  simp only [add, taken, ↓reduceIte]

theorem add_of_overtaken (selector : Selector) (part : Part) (previous : Category)
    (free : selector.parts.isTaken part.category = false)
    (late : selector.overtaken? part.category = some previous) :
    selector.add part =
      ⟨{ selector with parts := selector.parts.insert part },
        some (.misplaced part.category previous)⟩ := by
  simp only [add, free, late, Bool.false_eq_true, ↓reduceIte]

theorem add_of_accepted (selector : Selector) (part : Part)
    (free : selector.parts.isTaken part.category = false)
    (ordered : selector.overtaken? part.category = none) :
    selector.add part =
      ⟨{ selector with
          parts := selector.parts.insert part, lastCategory := some part.category }, none⟩ := by
  simp only [add, free, ordered, Bool.false_eq_true, ↓reduceIte]

/-- Adding a part leaves a fixed text as it is, whether or not the part is accepted. -/
@[simp] theorem joinedText_add (selector : Selector) (part : Part) :
    (selector.add part).selector.joinedText = selector.joinedText := by
  unfold add
  split
  · rfl
  · cases selector.overtaken? part.category <;> rfl

end Selector

end CssSelector

import CssSelector.Category
import CssSelector.Record

set_option autoImplicit false

namespace CssSelector

structure Part where
  category : Category
  token : String
deriving DecidableEq

/-- A part as it is written, with the sign of its category. -/
def Part.text (part : Part) : String :=
  match part.category with
  | .element => part.token
  | .id => "#" ++ part.token
  | .className => "." ++ part.token
  | .attributeTest => "[" ++ part.token ++ "]"
  | .pseudoClass => ":" ++ part.token
  | .pseudoElement => "::" ++ part.token

/-- Whether a selector may hold only one part of a category. -/
def Category.isSingle : Category → Bool
  | .element | .id | .pseudoElement => true
  | .className | .attributeTest | .pseudoClass => false

/-- Written parts: one at most of each single category, any number of the others. -/
structure Parts where
  element : Option String := none
  id : Option String := none
  classes : List String := []
  attributes : List String := []
  pseudoClasses : List String := []
  pseudoElement : Option String := none
deriving DecidableEq

namespace Parts

/-- The written parts of one category, in the order in which they came. -/
def texts (parts : Parts) : Category → List String
  | .element => parts.element.toList
  | .id => parts.id.toList
  | .className => parts.classes
  | .attributeTest => parts.attributes
  | .pseudoClass => parts.pseudoClasses
  | .pseudoElement => parts.pseudoElement.toList

@[simp] theorem texts_empty (category : Category) : texts {} category = [] := by
  cases category <;> rfl

theorem eq_of_texts {left right : Parts}
    (same : ∀ category, left.texts category = right.texts category) : left = right := by
  have optional {first second : Option String} (equal : first.toList = second.toList) :
      first = second := by
    cases first <;> cases second <;> simp_all
  cases left
  cases right
  simp only [mk.injEq]
  exact ⟨optional (same .element), optional (same .id), same .className, same .attributeTest,
    same .pseudoClass, optional (same .pseudoElement)⟩

/-- The parts with one more. The new one replaces what a single category held before. -/
def insert (parts : Parts) (part : Part) : Parts :=
  match part.category with
  | .element => { parts with element := some part.text }
  | .id => { parts with id := some part.text }
  | .className => { parts with classes := parts.classes ++ [part.text] }
  | .attributeTest => { parts with attributes := parts.attributes ++ [part.text] }
  | .pseudoClass => { parts with pseudoClasses := parts.pseudoClasses ++ [part.text] }
  | .pseudoElement => { parts with pseudoElement := some part.text }

theorem texts_insert_self (parts : Parts) (part : Part) :
    (parts.insert part).texts part.category =
      if part.category.isSingle then [part.text]
      else parts.texts part.category ++ [part.text] := by
  rcases part with ⟨category, token⟩
  cases category <;> rfl

theorem texts_insert_of_ne (parts : Parts) (part : Part) {category : Category}
    (other : category ≠ part.category) :
    (parts.insert part).texts category = parts.texts category := by
  rcases part with ⟨own, token⟩
  cases own <;> cases category <;> first | rfl | exact absurd rfl other

/-- Whether a category takes no further part: it is single and its text is not empty. -/
def isTaken (parts : Parts) (category : Category) : Bool :=
  category.isSingle && (parts.texts category).any (· ≠ "")

/-- A single category that takes a part holds nothing, or an empty text. -/
theorem blank_of_free {parts : Parts} {category : Category} (single : category.isSingle = true)
    (free : parts.isTaken category = false) : ∀ text ∈ parts.texts category, text = "" := by
  simpa only [isTaken, single, Bool.true_and, List.any_eq_false, decide_eq_true_eq, ne_eq,
    Decidable.not_not] using free

/-- The text of a compound selector: its parts in the order of the categories. -/
def text (parts : Parts) : String :=
  String.join (Category.all.flatMap parts.texts)

def fields (parts : Parts) : List (String × FieldValue) :=
  [("element", .ofOption parts.element),
   ("id", .ofOption parts.id),
   ("classes", .texts parts.classes),
   ("attributes", .texts parts.attributes),
   ("pseudo_classes", .texts parts.pseudoClasses),
   ("pseudo_element", .ofOption parts.pseudoElement)]

def describe (parts : Parts) : String :=
  describeRecord "SelectorParts" parts.fields

end Parts

end CssSelector

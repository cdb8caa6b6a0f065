import CssSelector.Text.Quoted

set_option autoImplicit false

namespace CssSelector

/-- What a part of a selector selects by. -/
inductive Category where
  | element
  | id
  | className
  | attributeTest
  | pseudoClass
  | pseudoElement
deriving DecidableEq

namespace Category

def all : List Category :=
  [element, id, className, attributeTest, pseudoClass, pseudoElement]

theorem mem_all (category : Category) : category ∈ all := by
  cases category <;> decide

/-- The place of a category in a selector, counted from one. -/
def rank : Category → Nat
  | element => 1
  | id => 2
  | className => 3
  | attributeTest => 4
  | pseudoClass => 5
  | pseudoElement => 6

theorem rank_injective {left right : Category} (same : left.rank = right.rank) : left = right := by
  cases left <;> cases right <;> first | rfl | cases same

instance : LT Category := ⟨fun left right => left.rank < right.rank⟩

instance : LE Category := ⟨fun left right => left.rank ≤ right.rank⟩

instance (left right : Category) : Decidable (left < right) :=
  inferInstanceAs (Decidable (left.rank < right.rank))

instance (left right : Category) : Decidable (left ≤ right) :=
  inferInstanceAs (Decidable (left.rank ≤ right.rank))

def name : Category → String
  | element => "ELEMENT"
  | id => "ID"
  | className => "CLASS"
  | attributeTest => "ATTRIBUTE"
  | pseudoClass => "PSEUDO_CLASS"
  | pseudoElement => "PSEUDO_ELEMENT"

def label : Category → String
  | element => "element"
  | id => "id"
  | className => "class"
  | attributeTest => "attribute"
  | pseudoClass => "pseudo-class"
  | pseudoElement => "pseudo-element"

def keyword : Category → String
  | attributeTest => "attr"
  | category => category.label

inductive LookupError where
  | rank (value : Int)
  | name (text : String)
deriving DecidableEq

def LookupError.message : LookupError → String
  | .rank value => toString value ++ " is not a valid Rank"
  | .name text => Text.quote text

def ofRank (value : Int) : Except LookupError Category :=
  match all.find? fun category => (category.rank : Int) = value with
  | some category => .ok category
  | none => .error (.rank value)

def ofName (text : String) : Except LookupError Category :=
  match all.find? fun category => category.name = text with
  | some category => .ok category
  | none => .error (.name text)

def ofKeyword? (word : String) : Option Category :=
  all.find? fun category => category.keyword = word

@[simp] theorem ofRank_rank (category : Category) : ofRank category.rank = .ok category := by
  cases category <;> rfl

@[simp] theorem ofName_name (category : Category) : ofName category.name = .ok category := by
  cases category <;> rfl

@[simp] theorem ofKeyword?_keyword (category : Category) :
    ofKeyword? category.keyword = some category := by
  cases category <;> decide

theorem keyword_of_ofKeyword? {word : String} {category : Category}
    (found : ofKeyword? word = some category) : category.keyword = word := by
  simpa using List.find?_some found

def describe (category : Category) : String :=
  "<Rank." ++ category.name ++ ": " ++ toString category.rank ++ ">"

end Category

end CssSelector

import CssSelector.Proofs.Additions
import CssSelector.Proofs.CategoryOrder
import Mathlib.Data.List.Induction

set_option autoImplicit false

namespace CssSelector

def tokensOf (category : Category) (history : List Part) : List String :=
  (history.filter fun part => part.category = category).map Part.token

def textsOf (category : Category) (history : List Part) : List String :=
  (tokensOf category history).map fun token => Part.text ⟨category, token⟩

theorem textsOf_concat_self (history : List Part) (part : Part) :
    textsOf part.category (history ++ [part]) = textsOf part.category history ++ [part.text] := by
  simp only [textsOf, tokensOf, List.filter_append, List.map_append, decide_true,
    List.filter_cons_of_pos, List.filter_nil, List.map_cons, List.map_nil]

theorem textsOf_concat_of_ne (history : List Part) (part : Part) {category : Category}
    (other : part.category ≠ category) :
    textsOf category (history ++ [part]) = textsOf category history := by
  simp only [textsOf, tokensOf, List.filter_append, other, decide_false, Bool.false_eq_true,
    not_false_eq_true, List.filter_cons_of_neg, List.filter_nil, List.append_nil]

/-- What a single category holds after some texts were offered for it: the first text that is not
empty, or an empty one if there are no others. -/
def settled? (texts : List String) : Option String :=
  (texts.find? (· ≠ "")).or texts.head?

@[simp] theorem settled?_nil : settled? [] = none := rfl

theorem settled?_cons (text : String) (rest : List String) :
    settled? (text :: rest) = if text = "" then some ((settled? rest).getD "") else some text := by
  by_cases blank : text = ""
  · simp only [settled?, List.find?_cons, blank, ne_eq, not_true_eq_false, decide_false,
      List.head?_cons, ↓reduceIte]
    cases found : rest.find? fun other => decide ¬ other = "" with
    | some other => rfl
    | none =>
      cases rest with
      | nil => rfl
      | cons first others =>
        have empty : first = "" := by
          simpa using List.find?_eq_none.mp found first List.mem_cons_self
        rw [empty]
        rfl
  · simp only [settled?, List.find?_cons, blank, ne_eq, not_false_eq_true, decide_true,
      Option.some_or, ↓reduceIte]

theorem any_settled? (texts : List String) :
    (settled? texts).any (· ≠ "") = texts.any (· ≠ "") := by
  induction texts with
  | nil => rfl
  | cons text rest ih =>
    rw [settled?_cons, List.any_cons, ← ih]
    by_cases blank : text = ""
    · cases settled? rest <;> simp [blank]
    · simp [blank]

theorem settled?_concat (texts : List String) (text : String) :
    settled? (texts ++ [text]) = if texts.any (· ≠ "") then settled? texts else some text := by
  induction texts with
  | nil =>
    rw [List.nil_append, settled?_cons, settled?_nil]
    by_cases blank : text = "" <;> simp [blank]
  | cons first rest ih =>
    rw [List.cons_append, settled?_cons, settled?_cons, List.any_cons, ih]
    by_cases blank : first = ""
    · cases rest.any (· ≠ "") <;> simp [blank]
    · simp [blank]

/-- Only the text of an element can be empty, since the others start with a sign. -/
theorem Part.text_eq_empty_iff (part : Part) :
    part.text = "" ↔ part.category = .element ∧ part.token = "" := by
  rcases part with ⟨category, token⟩
  cases category <;> simp [Part.text]

theorem any_textsOf (category : Category) (history : List Part) :
    (textsOf category history).any (· ≠ "") =
      history.any fun part =>
        part.category = category ∧ (category = .element → part.token ≠ "") := by
  rw [textsOf, tokensOf, List.any_map, List.any_map, List.any_filter]
  congr 1
  funext part
  by_cases same : part.category = category
  · simp [same, Part.text_eq_empty_iff]
  · simp [same]

/-- Whether a history uses up a category. An empty element leaves room for another one; an empty id
or pseudo-element does not. -/
def isSpent (history : List Part) : Category → Bool
  | .element => history.any fun part => part.category = .element ∧ part.token ≠ ""
  | .id => history.any fun part => part.category = .id
  | .pseudoElement => history.any fun part => part.category = .pseudoElement
  | .className | .attributeTest | .pseudoClass => false

theorem isSpent_eq (history : List Part) (category : Category) :
    isSpent history category =
      (category.isSingle && (textsOf category history).any (· ≠ "")) := by
  rw [any_textsOf]
  cases category <;> simp [isSpent, Category.isSingle]

@[simp] theorem isSpent_nil (category : Category) : isSpent [] category = false := by
  cases category <;> rfl

/-- A category that is used up lies within what was offered. -/
theorem le_of_isSpent {history : List Part} {category last : Category}
    (spent : isSpent history category = true) (known : highest? history = some last) :
    category ≤ last := by
  rw [isSpent_eq, any_textsOf, Bool.and_eq_true, List.any_eq_true] at spent
  obtain ⟨_, part, member, matching⟩ := spent
  have same : part.category = category := (of_decide_eq_true matching).1
  have below := (highest?_eq_some_iff.mp known).2 part member
  rwa [same] at below

/-- The texts of a category that stay in a selector after a history. -/
def heldOf (category : Category) (history : List Part) : List String :=
  if category.isSingle then (settled? (textsOf category history)).toList
  else textsOf category history

theorem heldOf_concat_self (history : List Part) (part : Part) :
    heldOf part.category (history ++ [part]) =
      if isSpent history part.category then heldOf part.category history
      else if part.category.isSingle then [part.text]
      else heldOf part.category history ++ [part.text] := by
  rw [isSpent_eq, heldOf, heldOf, textsOf_concat_self]
  cases single : part.category.isSingle with
  | false => rfl
  | true =>
    rw [settled?_concat]
    cases (textsOf part.category history).any (· ≠ "") <;> rfl

theorem heldOf_concat_of_ne (history : List Part) (part : Part) {category : Category}
    (other : part.category ≠ category) :
    heldOf category (history ++ [part]) = heldOf category history := by
  rw [heldOf, heldOf, textsOf_concat_of_ne history part other]

theorem heldOf_eq_nil {category : Category} {history : List Part}
    (absent : ∀ part ∈ history, part.category ≠ category) : heldOf category history = [] := by
  have none : tokensOf category history = [] := by
    simpa only [tokensOf, List.map_eq_nil_iff, List.filter_eq_nil_iff, decide_eq_true_eq]
      using absent
  rw [heldOf, textsOf, none]
  cases category.isSingle <;> rfl

theorem isTaken_of_texts {parts : Parts} {history : List Part} {category : Category}
    (held : parts.texts category = heldOf category history) :
    parts.isTaken category = isSpent history category := by
  rw [isSpent_eq, Parts.isTaken, held, heldOf, ← any_settled? (textsOf category history)]
  cases category.isSingle with
  | false => rfl
  | true => cases settled? (textsOf category history) <;> simp

namespace Selector

/-- What a new selector holds of each category after a history, whatever it rejected on the way. -/
theorem texts_addAll (history : List Part) (category : Category) :
    (({} : Selector).addAll history).parts.texts category = heldOf category history := by
  induction history using List.reverseRecOn generalizing category with
  | nil => cases category <;> rfl
  | append_singleton history part ih =>
    rw [addAll_concat, parts_add, isTaken_of_texts (ih part.category)]
    by_cases same : part.category = category
    · subst same
      rw [heldOf_concat_self, ← ih]
      split
      · rfl
      · exact Parts.texts_insert_self _ part
    · rw [heldOf_concat_of_ne history part same]
      split
      · exact ih category
      · rw [Parts.texts_insert_of_ne _ part (Ne.symm same)]
        exact ih category

theorem isTaken_addAll (history : List Part) (category : Category) :
    (({} : Selector).addAll history).parts.isTaken category = isSpent history category :=
  isTaken_of_texts (texts_addAll history category)

/-- Although a rejected part does not become the last one that was accepted, the last one is always
the highest of all that were offered. -/
theorem lastCategory_addAll (history : List Part) :
    (({} : Selector).addAll history).lastCategory = highest? history := by
  induction history using List.reverseRecOn with
  | nil => rfl
  | append_singleton history part ih =>
    rw [addAll_concat, lastCategory_add, isTaken_addAll, highest?_concat]
    cases known : highest? history with
    | none =>
      have empty : history = [] := highest?_eq_none_iff.mp known
      rw [overtaken?_of_none _ _ (ih.trans known), empty, isSpent_nil]
      rfl
    | some last =>
      rw [overtaken?_of_some _ _ (ih.trans known), ih.trans known, Option.elim_some]
      by_cases late : part.category < last
      · rw [max_eq_left (le_of_lt late), if_pos late]
        simp only [Option.isSome_some, or_true, ↓reduceIte]
      · have reached : last ≤ part.category := not_lt.mp late
        rw [max_eq_right reached, if_neg late]
        simp only [Option.isSome_none, Bool.false_eq_true, or_false]
        split
        · rename_i spent
          have below := le_of_isSpent spent known
          rw [le_antisymm reached below]
        · rfl

end Selector

end CssSelector

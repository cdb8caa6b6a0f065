import CssSelector.Selector

set_option autoImplicit false

namespace CssSelector.Selector

/-- What adding a part does, field by field. A part that comes too late is stored all the same; only
an accepted one becomes the last. -/
theorem add_eq (selector : Selector) (part : Part) :
    selector.add part =
      { selector :=
          { selector with
            parts :=
              if selector.parts.isTaken part.category then selector.parts
              else selector.parts.insert part
            lastCategory :=
              if selector.parts.isTaken part.category ∨
                  (selector.overtaken? part.category).isSome then selector.lastCategory
              else some part.category }
        error? :=
          if selector.parts.isTaken part.category then some (.duplicate part.category)
          else (selector.overtaken? part.category).map (.misplaced part.category) } := by
  cases taken : selector.parts.isTaken part.category with
  | true =>
    rw [add_of_taken selector part taken]
    simp only [true_or, ↓reduceIte]
  | false =>
    cases late : selector.overtaken? part.category with
    | some previous =>
      rw [add_of_overtaken selector part previous taken late]
      simp only [Bool.false_eq_true, Option.isSome_some, or_true, ↓reduceIte, Option.map_some]
    | none =>
      rw [add_of_accepted selector part taken late]
      simp only [Bool.false_eq_true, Option.isSome_none, or_self, ↓reduceIte, Option.map_none]

theorem parts_add (selector : Selector) (part : Part) :
    (selector.add part).selector.parts =
      if selector.parts.isTaken part.category then selector.parts
      else selector.parts.insert part := by
  rw [add_eq]

theorem lastCategory_add (selector : Selector) (part : Part) :
    (selector.add part).selector.lastCategory =
      if selector.parts.isTaken part.category ∨ (selector.overtaken? part.category).isSome then
        selector.lastCategory
      else some part.category := by
  rw [add_eq]

theorem error?_add (selector : Selector) (part : Part) :
    (selector.add part).error? =
      if selector.parts.isTaken part.category then some (.duplicate part.category)
      else (selector.overtaken? part.category).map (.misplaced part.category) := by
  rw [add_eq]

theorem overtaken?_of_none (selector : Selector) (category : Category)
    (fresh : selector.lastCategory = none) : selector.overtaken? category = none := by
  rw [overtaken?, fresh, Option.filter_none]

theorem overtaken?_of_some (selector : Selector) (category : Category) {last : Category}
    (known : selector.lastCategory = some last) :
    selector.overtaken? category = if category < last then some last else none := by
  simp only [overtaken?, known, Option.filter_some, decide_eq_true_eq]

def addAll : Selector → List Part → Selector
  | selector, [] => selector
  | selector, part :: rest => addAll (selector.add part).selector rest

def outcomes : Selector → List Part → List (Option PartError)
  | _, [] => []
  | selector, part :: rest =>
    (selector.add part).error? :: outcomes (selector.add part).selector rest

def Accepts (selector : Selector) (parts : List Part) : Prop :=
  ∀ outcome ∈ selector.outcomes parts, outcome = none

instance (selector : Selector) (parts : List Part) : Decidable (selector.Accepts parts) :=
  inferInstanceAs (Decidable (∀ outcome ∈ selector.outcomes parts, outcome = none))

@[simp] theorem addAll_nil (selector : Selector) : selector.addAll [] = selector := rfl

@[simp] theorem addAll_cons (selector : Selector) (part : Part) (rest : List Part) :
    selector.addAll (part :: rest) = (selector.add part).selector.addAll rest := rfl

@[simp] theorem outcomes_nil (selector : Selector) : selector.outcomes [] = [] := rfl

@[simp] theorem outcomes_cons (selector : Selector) (part : Part) (rest : List Part) :
    selector.outcomes (part :: rest) =
      (selector.add part).error? :: (selector.add part).selector.outcomes rest := rfl

theorem addAll_append (selector : Selector) (first second : List Part) :
    selector.addAll (first ++ second) = (selector.addAll first).addAll second := by
  induction first generalizing selector with
  | nil => rfl
  | cons part rest ih => exact ih (selector.add part).selector

theorem addAll_concat (selector : Selector) (parts : List Part) (part : Part) :
    selector.addAll (parts ++ [part]) = ((selector.addAll parts).add part).selector :=
  addAll_append selector parts [part]

theorem outcomes_append (selector : Selector) (first second : List Part) :
    selector.outcomes (first ++ second) =
      selector.outcomes first ++ (selector.addAll first).outcomes second := by
  induction first generalizing selector with
  | nil => rfl
  | cons part rest ih =>
    exact congrArg ((selector.add part).error? :: ·) (ih (selector.add part).selector)

@[simp] theorem accepts_nil (selector : Selector) : selector.Accepts [] := by
  intro outcome member
  cases member

theorem accepts_cons (selector : Selector) (part : Part) (rest : List Part) :
    selector.Accepts (part :: rest) ↔
      (selector.add part).error? = none ∧ (selector.add part).selector.Accepts rest := by
  simp only [Accepts, outcomes_cons, List.mem_cons, forall_eq_or_imp]

theorem accepts_concat (selector : Selector) (parts : List Part) (part : Part) :
    selector.Accepts (parts ++ [part]) ↔
      selector.Accepts parts ∧ ((selector.addAll parts).add part).error? = none := by
  simp only [Accepts, outcomes_append, outcomes_cons, outcomes_nil, List.mem_append,
    List.mem_singleton, or_imp, forall_and, forall_eq]

@[simp] theorem joinedText_addAll (selector : Selector) (parts : List Part) :
    (selector.addAll parts).joinedText = selector.joinedText := by
  induction parts generalizing selector with
  | nil => rfl
  | cons part rest ih => rw [addAll_cons, ih, joinedText_add]

/-- Whether two selectors differ at most in a text that replaces their parts. -/
structure SameParts (left right : Selector) : Prop where
  parts : left.parts = right.parts
  lastCategory : left.lastCategory = right.lastCategory

section SameParts

variable {left right : Selector} (same : left.SameParts right) (part : Part)

include same

theorem SameParts.overtaken?_eq (category : Category) :
    left.overtaken? category = right.overtaken? category := by
  rw [overtaken?, overtaken?, same.lastCategory]

/-- What becomes of a part does not depend on a text that replaces those before it. -/
theorem SameParts.error?_eq : (left.add part).error? = (right.add part).error? := by
  rw [error?_add, error?_add, same.parts, same.overtaken?_eq]

theorem SameParts.add : (left.add part).selector.SameParts (right.add part).selector where
  parts := by rw [parts_add, parts_add, same.parts]
  lastCategory := by
    rw [lastCategory_add, lastCategory_add, same.parts, same.overtaken?_eq, same.lastCategory]

end SameParts

theorem text_of_unjoined (selector : Selector) (unjoined : selector.isJoined = false) :
    selector.text = selector.parts.text := by
  have none : selector.joinedText = none :=
    Option.isNone_iff_eq_none.mp (Option.isSome_eq_false_iff.mp unjoined)
  rw [text, none, Option.getD_none]

theorem text_addAll_of_unjoined (selector : Selector) (parts : List Part)
    (unjoined : selector.joinedText = none) :
    (selector.addAll parts).text = (selector.addAll parts).parts.text := by
  rw [text, joinedText_addAll, unjoined, Option.getD_none]

end CssSelector.Selector

import CssSelector.Proofs.History

set_option autoImplicit false

namespace CssSelector

theorem Parts.isTaken_insert (parts : Parts) (part : Part) :
    (parts.insert part).isTaken part.category =
      (part.category.isSingle && decide (part.text ≠ "")) := by
  rw [isTaken, texts_insert_self]
  cases part.category.isSingle with
  | false => rfl
  | true => simp only [↓reduceIte, List.any_cons, List.any_nil, Bool.or_false]

/-- A part that is the only one of its category can be stored again without a change. -/
theorem Parts.insert_insert (parts : Parts) {part : Part} (single : part.category.isSingle = true) :
    (parts.insert part).insert part = parts.insert part := by
  apply eq_of_texts
  intro category
  by_cases same : category = part.category
  · rw [same, texts_insert_self, texts_insert_self, if_pos single, if_pos single]
  · rw [texts_insert_of_ne _ part same]

namespace Selector

variable {selector : Selector} {part : Part} {category previous : Category}

theorem error?_eq_duplicate_iff :
    (selector.add part).error? = some (.duplicate category) ↔
      part.category = category ∧ selector.parts.isTaken part.category = true := by
  rw [error?_add]
  split
  · rename_i taken
    simp only [Option.some.injEq, PartError.duplicate.injEq, taken, and_true]
  · rename_i free
    simp only [Option.map_eq_some_iff, reduceCtorEq, and_false, exists_false, free]

theorem error?_eq_misplaced_iff :
    (selector.add part).error? = some (.misplaced category previous) ↔
      part.category = category ∧ selector.parts.isTaken part.category = false ∧
        selector.overtaken? part.category = some previous := by
  rw [error?_add]
  split
  · rename_i taken
    simp only [Option.some.injEq, reduceCtorEq, taken, Bool.true_eq_false, false_and, and_false]
  · rename_i free
    simp only [Option.map_eq_some_iff, PartError.misplaced.injEq, Bool.eq_false_of_not_eq_true free,
      true_and]
    constructor
    · rintro ⟨_, late, same, rfl⟩
      exact ⟨same, late⟩
    · intro both
      exact ⟨previous, both.2, both.1, rfl⟩

/-- What a selector becomes when a part is stored without being accepted: one category has other
texts, and all else is as before. -/
structure Restocks (before : Selector) (category : Category) (texts : List String)
    (after : Selector) : Prop where
  own : after.parts.texts category = texts
  others : ∀ other, other ≠ category → after.parts.texts other = before.parts.texts other
  joinedText : after.joinedText = before.joinedText
  lastCategory : after.lastCategory = before.lastCategory

theorem Restocks.refl (selector : Selector) (category : Category) :
    selector.Restocks category (selector.parts.texts category) selector :=
  ⟨rfl, fun _ _ => rfl, rfl, rfl⟩

theorem Restocks.trans {before middle after : Selector} {first second : List String}
    (early : before.Restocks category first middle) (late : middle.Restocks category second after) :
    before.Restocks category second after where
  own := late.own
  others other apart := (late.others other apart).trans (early.others other apart)
  joinedText := late.joinedText.trans early.joinedText
  lastCategory := late.lastCategory.trans early.lastCategory

theorem restocks_insert (selector : Selector) (part : Part) :
    selector.Restocks part.category
      (if part.category.isSingle then [part.text]
        else selector.parts.texts part.category ++ [part.text])
      { selector with parts := selector.parts.insert part } where
  own := selector.parts.texts_insert_self part
  others _ apart := selector.parts.texts_insert_of_ne part apart
  joinedText := rfl
  lastCategory := rfl

/-- A rejection that changes nothing is repeated whenever the part is offered again. -/
theorem replicate_of_unchanged {error : PartError}
    (unchanged : selector.add part = ⟨selector, some error⟩) (times : Nat) :
    selector.outcomes (List.replicate times part) = List.replicate times (some error) ∧
      selector.addAll (List.replicate times part) = selector := by
  induction times with
  | zero => exact ⟨rfl, rfl⟩
  | succ times ih =>
    rw [List.replicate_succ, outcomes_cons, addAll_cons, unchanged, List.replicate_succ, ih.1]
    exact ⟨rfl, ih.2⟩

/-- A late part of a category that is not single is rejected and stored as often as it is
offered. -/
theorem replicate_of_late (repeatable : part.category.isSingle = false)
    (late : selector.overtaken? part.category = some previous) (times : Nat) :
    selector.outcomes (List.replicate times part) =
        List.replicate times (some (.misplaced part.category previous)) ∧
      selector.Restocks part.category
        (selector.parts.texts part.category ++ List.replicate times part.text)
        (selector.addAll (List.replicate times part)) := by
  induction times generalizing selector with
  | zero =>
    refine ⟨rfl, ?_⟩
    rw [List.replicate_zero, List.append_nil]
    exact .refl selector part.category
  | succ times ih =>
    have free : selector.parts.isTaken part.category = false := by
      rw [Parts.isTaken, repeatable, Bool.false_and]
    have stored := selector.restocks_insert part
    rw [repeatable] at stored
    -- The last category has not changed, so the part is as late as it was.
    have again : overtaken? { selector with parts := selector.parts.insert part } part.category =
        some previous := late
    obtain ⟨outcomes, restocks⟩ := ih again
    rw [stored.own, if_neg Bool.false_ne_true, List.append_assoc, List.singleton_append,
      ← List.replicate_succ] at restocks
    rw [List.replicate_succ, outcomes_cons, addAll_cons,
      add_of_overtaken selector part previous free late]
    exact ⟨congrArg _ outcomes, stored.trans restocks⟩

/-- Once a late part of a single category is stored, it is a duplicate, unless it is an empty
element. -/
theorem add_again_of_full (single : part.category.isSingle = true) (full : part.text ≠ "") :
    let stored := { selector with parts := selector.parts.insert part }
    stored.add part = ⟨stored, some (.duplicate part.category)⟩ := by
  apply add_of_taken
  rw [Parts.isTaken_insert, single, decide_eq_true full]
  rfl

/-- A late element that is empty leaves its category free, so that it comes too late once more. -/
theorem add_again_of_blank (single : part.category.isSingle = true) (blank : part.text = "")
    (late : selector.overtaken? part.category = some previous) :
    let stored := { selector with parts := selector.parts.insert part }
    stored.add part = ⟨stored, some (.misplaced part.category previous)⟩ := by
  intro stored
  have free : stored.parts.isTaken part.category = false := by
    rw [Parts.isTaken_insert, blank]
    exact Bool.and_false _
  rw [add_of_overtaken stored part previous free late, Parts.insert_insert _ single]

/-- A duplicate changes nothing. A part that comes too late stays in its category, and nothing else
changes. Offered again any number of times, an id, a pseudo-element or an element that is not empty
is then a duplicate; an empty element comes too late again without a change; any other part comes
too late again, and one more copy of it stays each time. -/
theorem rejected_again (selector : Selector) (part : Part) :
    (∀ category, (selector.add part).error? = some (.duplicate category) →
      part.category = category ∧ (selector.add part).selector = selector) ∧
    ∀ category previous, (selector.add part).error? = some (.misplaced category previous) →
      part.category = category ∧
      (category.isSingle = true → ∀ text ∈ selector.parts.texts category, text = "") ∧
      selector.Restocks category
        (if category.isSingle then [part.text] else selector.parts.texts category ++ [part.text])
        (selector.add part).selector ∧
      ∀ (times : Nat) (left : Selector), left = (selector.add part).selector →
        (category.isSingle = true → (category = .element → part.token ≠ "") →
          left.outcomes (List.replicate times part) =
            List.replicate times (some (.duplicate category)) ∧
          left.addAll (List.replicate times part) = left) ∧
        (category = .element → part.token = "" →
          left.outcomes (List.replicate times part) =
            List.replicate times (some (.misplaced category previous)) ∧
          left.addAll (List.replicate times part) = left) ∧
        (category.isSingle = false →
          left.outcomes (List.replicate times part) =
            List.replicate times (some (.misplaced category previous)) ∧
          left.Restocks category (left.parts.texts category ++ List.replicate times part.text)
            (left.addAll (List.replicate times part))) := by
  constructor
  · intro category rejected
    obtain ⟨same, taken⟩ := error?_eq_duplicate_iff.mp rejected
    rw [add_of_taken selector part taken]
    exact ⟨same, rfl⟩
  · intro category previous rejected
    obtain ⟨rfl, free, late⟩ := error?_eq_misplaced_iff.mp rejected
    refine ⟨rfl, fun single => Parts.blank_of_free single free, ?_, ?_⟩
    · rw [add_of_overtaken selector part previous free late]
      exact selector.restocks_insert part
    · intro times left stored
      rw [add_of_overtaken selector part previous free late] at stored
      subst stored
      refine ⟨?_, ?_, ?_⟩
      · intro single named
        have full : part.text ≠ "" := by
          intro blank
          obtain ⟨element, empty⟩ := part.text_eq_empty_iff.mp blank
          exact named element empty
        exact replicate_of_unchanged (add_again_of_full single full) times
      · intro element empty
        have blank : part.text = "" := part.text_eq_empty_iff.mpr ⟨element, empty⟩
        have single : part.category.isSingle = true := by
          rw [element]
          rfl
        exact replicate_of_unchanged (add_again_of_blank single blank late) times
      · intro repeatable
        have stillLate : overtaken? { selector with parts := selector.parts.insert part }
            part.category = some previous := late
        exact replicate_of_late repeatable stillLate times

/-- A joined selector holds an id that it has already rejected: the next one is its duplicate. A
class that comes too late is there once more whenever it is offered. -/
theorem rejected_again_joined :
    ∃ selector : Selector,
      selector = ⟨{ id := some "#a", attributes := ["[b]"] }, some "c > d", some .attributeTest⟩ ∧
      (selector.add ⟨.id, "e"⟩).error? = some (.duplicate .id) ∧
      (selector.add ⟨.id, "e"⟩).selector = selector ∧
      (selector.add ⟨.className, "e"⟩).error? = some (.misplaced .className .attributeTest) ∧
      (selector.add ⟨.className, "e"⟩).selector =
        ⟨{ id := some "#a", classes := [".e"], attributes := ["[b]"] }, some "c > d",
          some .attributeTest⟩ ∧
      ∀ times, ((selector.add ⟨.className, "e"⟩).selector.addAll
          (List.replicate times ⟨.className, "e"⟩)).parts.texts .className =
        [".e"] ++ List.replicate times ".e" := by
  refine ⟨_, rfl, rfl, ?_, rfl, rfl, ?_⟩
  · exact ((rejected_again _ ⟨.id, "e"⟩).1 .id rfl).2
  · intro times
    obtain ⟨_, _, _, again⟩ := (rejected_again
      ⟨{ id := some "#a", attributes := ["[b]"] }, some "c > d", some .attributeTest⟩
      ⟨.className, "e"⟩).2 .className .attributeTest rfl
    exact ((again times _ rfl).2.2 rfl).2.own

end Selector

end CssSelector

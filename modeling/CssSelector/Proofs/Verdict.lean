import CssSelector.Proofs.History

set_option autoImplicit false

namespace CssSelector

/-- What becomes of a part, judged only by the parts that were offered before it. -/
def verdict (earlier : List Part) (part : Part) : Option PartError :=
  if isSpent earlier part.category then some (.duplicate part.category)
  else
    match highest? earlier with
    | some highest =>
      if part.category < highest then some (.misplaced part.category highest) else none
    | none => none

theorem verdict_eq_none_iff (earlier : List Part) (part : Part) :
    verdict earlier part = none ↔
      isSpent earlier part.category = false ∧
        ∀ other ∈ earlier, other.category ≤ part.category := by
  unfold verdict
  by_cases spent : isSpent earlier part.category = true
  · simp only [spent, ↓reduceIte, reduceCtorEq, Bool.true_eq_false, false_and]
  · simp only [spent, Bool.false_eq_true, ↓reduceIte, true_and]
    cases known : highest? earlier with
    | none =>
      rw [highest?_eq_none_iff.mp known]
      simp only [List.not_mem_nil, false_implies, implies_true]
    | some highest =>
      obtain ⟨⟨top, member, same⟩, below⟩ := highest?_eq_some_iff.mp known
      simp only [ite_eq_right_iff, reduceCtorEq, imp_false, not_lt]
      constructor
      · intro reached other present
        exact le_trans (below other present) reached
      · intro reached
        exact same ▸ reached top member

namespace Selector

theorem error?_add_addAll (earlier : List Part) (part : Part) :
    ((({} : Selector).addAll earlier).add part).error? = verdict earlier part := by
  have last := lastCategory_addAll earlier
  rw [error?_add, isTaken_addAll, verdict]
  split
  · rfl
  · cases known : highest? earlier with
    | none =>
      rw [overtaken?_of_none _ _ (last.trans known)]
      rfl
    | some highest =>
      rw [overtaken?_of_some _ _ (last.trans known)]
      by_cases late : part.category < highest <;> simp only [late, ↓reduceIte] <;> rfl

theorem outcomes_addAll (earlier later : List Part) :
    (({} : Selector).addAll earlier).outcomes later =
      later.mapIdx fun index part => verdict (earlier ++ later.take index) part := by
  induction later generalizing earlier with
  | nil => rfl
  | cons part later ih =>
    have rest := ih (earlier ++ [part])
    rw [addAll_concat] at rest
    rw [outcomes_cons, rest, error?_add_addAll, List.mapIdx_cons, List.take_zero, List.append_nil]
    simp only [List.append_assoc, List.singleton_append, List.take_succ_cons]

/-- The outcome of every addition to a new selector is the verdict of the parts offered before it,
whatever became of those. -/
theorem outcomes_eq_verdicts (history : List Part) :
    ({} : Selector).outcomes history =
      history.mapIdx fun index part => verdict (history.take index) part :=
  outcomes_addAll [] history

/-- An empty element is no obstacle to a second one, and a rejected id stands in the way of the
next. -/
example : ({} : Selector).outcomes
    [⟨.element, ""⟩, ⟨.className, "a"⟩, ⟨.id, ""⟩, ⟨.element, "b"⟩, ⟨.id, "c"⟩] =
      [none, none, some (.misplaced .id .className), some (.misplaced .element .className),
        some (.duplicate .id)] := by
  decide

end Selector

end CssSelector

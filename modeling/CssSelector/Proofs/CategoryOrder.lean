import CssSelector.Parts
import Mathlib.Order.MinMax

set_option autoImplicit false

namespace CssSelector

instance : LinearOrder Category where
  le_refl category := Nat.le_refl category.rank
  le_trans _ _ _ below above := Nat.le_trans below above
  le_antisymm _ _ below above := Category.rank_injective (Nat.le_antisymm below above)
  le_total left right := Nat.le_total left.rank right.rank
  toDecidableLE := inferInstance
  lt_iff_le_not_ge _ _ := Nat.lt_iff_le_and_not_ge

theorem Category.pairwise_all : Category.all.Pairwise (· < ·) := by decide

theorem Category.all_split (category : Category) :
    ∃ lower upper, Category.all = lower ++ category :: upper ∧
      (∀ other ∈ lower, other < category) ∧ ∀ other ∈ upper, category < other := by
  obtain ⟨lower, upper, whole⟩ := List.append_of_mem (Category.mem_all category)
  have sorted := Category.pairwise_all
  rw [whole, List.pairwise_append, List.pairwise_cons] at sorted
  obtain ⟨_, ⟨above, _⟩, apart⟩ := sorted
  refine ⟨lower, upper, whole, ?_, above⟩
  intro other below
  exact apart other below category List.mem_cons_self

def highest? (parts : List Part) : Option Category :=
  (parts.map Part.category).max?

theorem highest?_eq_none_iff {parts : List Part} : highest? parts = none ↔ parts = [] := by
  rw [highest?, List.max?_eq_none_iff, List.map_eq_nil_iff]

theorem highest?_eq_some_iff {parts : List Part} {category : Category} :
    highest? parts = some category ↔
      (∃ part ∈ parts, part.category = category) ∧ ∀ part ∈ parts, part.category ≤ category := by
  simp only [highest?, List.max?_eq_some_iff, List.mem_map, forall_exists_index, and_imp,
    forall_apply_eq_imp_iff₂]

theorem highest?_concat (parts : List Part) (part : Part) :
    highest? (parts ++ [part]) =
      some ((highest? parts).elim part.category (max · part.category)) := by
  cases parts with
  | nil => rfl
  | cons first rest =>
    simp only [highest?, List.cons_append, List.map_cons, List.map_append, List.map_nil,
      List.max?_cons', List.foldl_append, List.foldl_cons, List.foldl_nil, Option.elim_some]

/-- The highest category depends on which categories occur, not on order or number. -/
theorem highest?_congr {left right : List Part}
    (same : ∀ category, (∃ part ∈ left, part.category = category) ↔
      ∃ part ∈ right, part.category = category) : highest? left = highest? right := by
  apply Option.ext
  intro category
  have bounded : (∀ part ∈ left, part.category ≤ category) ↔
      ∀ part ∈ right, part.category ≤ category := by
    constructor
    · intro below part member
      obtain ⟨other, present, equal⟩ := (same part.category).mpr ⟨part, member, rfl⟩
      exact equal ▸ below other present
    · intro below part member
      obtain ⟨other, present, equal⟩ := (same part.category).mp ⟨part, member, rfl⟩
      exact equal ▸ below other present
  rw [highest?_eq_some_iff, highest?_eq_some_iff, same category, bounded]

end CssSelector

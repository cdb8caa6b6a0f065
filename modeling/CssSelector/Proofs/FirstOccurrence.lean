import CssSelector.Text.Split

set_option autoImplicit false

namespace CssSelector.Text

/-- A separator that does not stand at the head of a text occurs in the rest of it. -/
theorem exists_tail_of_not_isPrefixOf {separator rest left right : List Char} {first : Char}
    (later : ¬ separator.isPrefixOf (first :: rest) = true)
    (occurs : first :: rest = left ++ separator ++ right) :
    ∃ tail, left = first :: tail ∧ rest = tail ++ separator ++ right := by
  cases left with
  | nil =>
    rw [List.nil_append] at occurs
    have here := List.isPrefixOf_iff_prefix.mpr ⟨right, occurs.symm⟩
    exact absurd here later
  | cons head tail =>
    rw [List.cons_append, List.cons_append, List.cons.injEq] at occurs
    exact ⟨tail, by rw [occurs.1], occurs.2⟩

theorem length_le_of_splitFirst? {separator text before after : List Char}
    (found : splitFirst? separator text = some (before, after)) {left right : List Char}
    (occurs : text = left ++ separator ++ right) : before.length ≤ left.length := by
  induction text generalizing before left with
  | nil =>
    have whole := eq_of_splitFirst? found
    have empty : before = [] := by simp_all
    rw [empty]
    exact Nat.zero_le _
  | cons first rest ih =>
    by_cases here : separator.isPrefixOf (first :: rest) = true
    · simp only [splitFirst?, here, ↓reduceIte, Option.some.injEq, Prod.mk.injEq] at found
      rw [← found.1]
      exact Nat.zero_le _
    · simp only [splitFirst?, here, Bool.false_eq_true, ↓reduceIte, Option.map_eq_some_iff,
        Prod.exists, Prod.mk.injEq] at found
      obtain ⟨inner, _, inRest, rfl, rfl⟩ := found
      obtain ⟨tail, rfl, remains⟩ := exists_tail_of_not_isPrefixOf here occurs
      have shorter : inner.length ≤ tail.length := ih inRest remains
      simpa only [List.length_cons, Nat.add_le_add_iff_right] using shorter

theorem splitFirst?_ne_none {separator text left right : List Char}
    (occurs : text = left ++ separator ++ right) : splitFirst? separator text ≠ none := by
  induction text generalizing left with
  | nil =>
    have empty : separator = [] := by simp_all
    simp [splitFirst?, empty]
  | cons first rest ih =>
    by_cases here : separator.isPrefixOf (first :: rest) = true
    · simp only [splitFirst?, here, ↓reduceIte, ne_eq, reduceCtorEq, not_false_eq_true]
    · simp only [splitFirst?, here, Bool.false_eq_true, ↓reduceIte, ne_eq, Option.map_eq_none_iff]
      obtain ⟨tail, rfl, remains⟩ := exists_tail_of_not_isPrefixOf here occurs
      exact ih remains

def Occurs (separator text : String) : Prop :=
  ∃ before after, text = before ++ separator ++ after

/-- The two sides of a separator where it first occurs in a text. -/
structure FirstCut (separator text before after : String) : Prop where
  whole : text = before ++ separator ++ after
  first : ∀ left right, text = left ++ separator ++ right → before.length ≤ left.length

theorem FirstCut.occurs {separator text before after : String}
    (cut : FirstCut separator text before after) : Occurs separator text :=
  ⟨before, after, cut.whole⟩

theorem FirstCut.unique {separator text before after kind value : String}
    (cut : FirstCut separator text before after) (other : FirstCut separator text kind value) :
    before = kind ∧ after = value := by
  have same : before.length = kind.length :=
    Nat.le_antisymm (cut.first kind value other.whole) (other.first before after cut.whole)
  have whole := congrArg String.toList (cut.whole.symm.trans other.whole)
  simp only [String.toList_append, List.append_assoc] at whole
  obtain ⟨left, right⟩ := List.append_inj whole (by simpa only [String.length_toList] using same)
  exact ⟨String.toList_inj.mp left, String.toList_inj.mp (List.append_cancel_left right)⟩

theorem firstCut_of_splitOnce? {separator text before after : String}
    (found : splitOnce? text separator = some (before, after)) :
    FirstCut separator text before after := by
  simp only [splitOnce?, Option.map_eq_some_iff, Prod.exists, Prod.mk.injEq] at found
  obtain ⟨left, right, split, rfl, rfl⟩ := found
  constructor
  · apply String.toList_inj.mp
    simpa only [String.toList_append, String.toList_ofList] using eq_of_splitFirst? split
  · intro other rest occurs
    have occurs := congrArg String.toList occurs
    simp only [String.toList_append] at occurs
    simpa only [String.length_ofList, String.length_toList] using
      length_le_of_splitFirst? split occurs

theorem splitOnce?_ne_none {separator text : String} (occurs : Occurs separator text) :
    splitOnce? text separator ≠ none := by
  obtain ⟨before, after, whole⟩ := occurs
  have whole := congrArg String.toList whole
  simp only [String.toList_append] at whole
  simpa only [splitOnce?, ne_eq, Option.map_eq_none_iff] using splitFirst?_ne_none whole

theorem splitOnce?_eq_some_iff {separator text before after : String} :
    splitOnce? text separator = some (before, after) ↔ FirstCut separator text before after := by
  constructor
  · exact firstCut_of_splitOnce?
  · intro cut
    cases found : splitOnce? text separator with
    | none => exact absurd found (splitOnce?_ne_none cut.occurs)
    | some sides =>
      obtain ⟨rfl, rfl⟩ := (firstCut_of_splitOnce? found).unique cut
      rfl

theorem splitOnce?_eq_none_iff {separator text : String} :
    splitOnce? text separator = none ↔ ¬ Occurs separator text := by
  constructor
  · intro missing occurs
    exact splitOnce?_ne_none occurs missing
  · intro absent
    cases found : splitOnce? text separator with
    | none => rfl
    | some sides => exact absurd (firstCut_of_splitOnce? found).occurs absent

/-- A separator that ends within the front part of a text occurs in that part. -/
theorem exists_rest_of_append {separator front more left right : String}
    (occurs : front ++ more = left ++ separator ++ right)
    (within : left.length + separator.length ≤ front.length) :
    ∃ rest, front = left ++ separator ++ rest := by
  have lists := congrArg String.toList occurs
  simp only [String.toList_append] at lists
  have begins : left.toList ++ separator.toList <+: front.toList ++ more.toList :=
    ⟨right.toList, lists.symm⟩
  have shorter : (left.toList ++ separator.toList).length ≤ front.toList.length := by
    simpa only [List.length_append, String.length_toList] using within
  obtain ⟨rest, whole⟩ :=
    List.prefix_of_prefix_length_le begins (List.prefix_append _ _) shorter
  refine ⟨String.ofList rest, ?_⟩
  apply String.toList_inj.mp
  simpa only [String.toList_append, String.toList_ofList] using whole.symm

/-- The first cut of a text stays where it is when more is put behind the text. -/
theorem FirstCut.append {separator text before after : String}
    (cut : FirstCut separator text before after) (more : String) :
    FirstCut separator (text ++ more) before (after ++ more) where
  whole := by rw [cut.whole, String.append_assoc]
  first := by
    intro left right occurs
    apply Nat.le_of_not_lt
    intro earlier
    have size := congrArg String.length cut.whole
    simp only [String.length_append] at size
    have within : left.length + separator.length ≤ text.length := by omega
    obtain ⟨rest, inside⟩ := exists_rest_of_append occurs within
    have reached := cut.first left rest inside
    omega

end CssSelector.Text

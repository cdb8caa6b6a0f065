set_option autoImplicit false

namespace CssSelector.Text

/-- What stands before and after the first occurrence of a separator. -/
def splitFirst? (separator : List Char) : List Char → Option (List Char × List Char)
  | [] => if separator.isPrefixOf [] then some ([], []) else none
  | first :: rest =>
    if separator.isPrefixOf (first :: rest) then some ([], (first :: rest).drop separator.length)
    else (splitFirst? separator rest).map fun (before, after) => (first :: before, after)

/-- The two sides and the separator between them make up the text. -/
theorem eq_of_splitFirst? {separator text before after : List Char}
    (found : splitFirst? separator text = some (before, after)) :
    text = before ++ separator ++ after := by
  induction text generalizing before after with
  | nil =>
    cases separator with
    | nil => simp_all [splitFirst?]
    | cons => simp [splitFirst?] at found
  | cons first rest split =>
    by_cases here : separator.isPrefixOf (first :: rest) = true
    · simp only [splitFirst?, here, ↓reduceIte, Option.some.injEq, Prod.mk.injEq] at found
      obtain ⟨rfl, rfl⟩ := found
      obtain ⟨after, whole⟩ := List.isPrefixOf_iff_prefix.mp here
      rw [← whole, List.drop_left, List.nil_append]
    · simp only [splitFirst?, here, Bool.false_eq_true, ↓reduceIte, Option.map_eq_some_iff,
        Prod.exists, Prod.mk.injEq] at found
      obtain ⟨before, _, inRest, rfl, rfl⟩ := found
      rw [split inRest, List.cons_append, List.cons_append]

def splitOnce? (text separator : String) : Option (String × String) :=
  (splitFirst? separator.toList text.toList).map fun (before, after) =>
    (String.ofList before, String.ofList after)

end CssSelector.Text

import CssSelector.Proofs.Verdict
import Mathlib.Data.List.Basic

set_option autoImplicit false

namespace CssSelector

theorem join_eq_empty {texts : List String} (blank : ∀ text ∈ texts, text = "") :
    String.join texts = "" := by
  induction texts with
  | nil => exact String.join_nil
  | cons text rest ih =>
    rw [String.join_cons, blank text List.mem_cons_self, String.empty_append]
    exact ih fun other member => blank other (List.mem_cons_of_mem text member)

namespace Parts

theorem join_texts_insert_self (parts : Parts) (part : Part)
    (free : parts.isTaken part.category = false) :
    String.join ((parts.insert part).texts part.category) =
      String.join (parts.texts part.category) ++ part.text := by
  rw [texts_insert_self]
  cases single : part.category.isSingle with
  | false =>
    simp only [Bool.false_eq_true, ↓reduceIte, String.join_append, String.join_cons,
      String.join_nil, String.append_empty]
  | true =>
    -- A single category that is free holds nothing but blank texts, so the part replaces no text.
    have blank : ∀ text ∈ parts.texts part.category, text = "" := blank_of_free single free
    rw [join_eq_empty blank]
    simp only [↓reduceIte, String.empty_append, String.join_cons, String.join_nil,
      String.append_empty]

/-- A part of the last category in use is written behind all others. -/
theorem text_insert_of_last (parts : Parts) (part : Part)
    (free : parts.isTaken part.category = false)
    (last : ∀ category, part.category < category → parts.texts category = []) :
    (parts.insert part).text = parts.text ++ part.text := by
  obtain ⟨lower, upper, whole, below, above⟩ := part.category.all_split
  have before : lower.flatMap (parts.insert part).texts = lower.flatMap parts.texts := by
    apply List.flatMap_congr
    intro category member
    exact texts_insert_of_ne parts part (ne_of_lt (below category member))
  have behind : upper.flatMap (parts.insert part).texts = [] := by
    apply List.flatMap_eq_nil_iff.mpr
    intro category member
    rw [texts_insert_of_ne parts part (ne_of_gt (above category member))]
    exact last category (above category member)
  have none : upper.flatMap parts.texts = [] := by
    apply List.flatMap_eq_nil_iff.mpr
    intro category member
    exact last category (above category member)
  simp only [text, whole, List.flatMap_append, List.flatMap_cons, before, behind, none,
    List.append_nil, String.join_append, join_texts_insert_self parts part free,
    String.append_assoc]

end Parts

namespace Selector

/-- A new selector that accepts its parts writes them in the order in which they came. -/
theorem text_addAll_of_accepts {parts : List Part} (accepted : ({} : Selector).Accepts parts) :
    (({} : Selector).addAll parts).text = String.join (parts.map Part.text) := by
  induction parts using List.reverseRecOn with
  | nil => decide
  | append_singleton parts part ih =>
    have earlier := ((accepts_concat _ parts part).mp accepted).1
    have fits := ((accepts_concat _ parts part).mp accepted).2
    rw [error?_add_addAll, verdict_eq_none_iff] at fits
    rcases fits with ⟨unspent, reached⟩
    have free : (({} : Selector).addAll parts).parts.isTaken part.category = false := by
      rw [isTaken_addAll, unspent]
    have last : ∀ category, part.category < category →
        (({} : Selector).addAll parts).parts.texts category = [] := by
      intro category above
      rw [texts_addAll]
      apply heldOf_eq_nil
      intro other member same
      exact not_lt_of_ge (reached other member) (same ▸ above)
    have grown : (({} : Selector).addAll (parts ++ [part])).parts =
        (({} : Selector).addAll parts).parts.insert part := by
      simp only [addAll_concat, parts_add, free, Bool.false_eq_true, ↓reduceIte]
    have before := text_addAll_of_unjoined ({} : Selector) parts rfl
    have after := text_addAll_of_unjoined ({} : Selector) (parts ++ [part]) rfl
    rw [after, grown, Parts.text_insert_of_last _ part free last, ← before, ih earlier]
    simp only [List.map_append, List.map_cons, List.map_nil, String.join_append, String.join_cons,
      String.join_nil, String.append_empty]

end Selector

end CssSelector

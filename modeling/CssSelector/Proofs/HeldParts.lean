import CssSelector.Proofs.History

set_option autoImplicit false

namespace CssSelector

def heldParts (history : List Part) : Parts where
  element := settled? (tokensOf .element history)
  id := (tokensOf .id history).head?.map ("#" ++ ·)
  classes := (tokensOf .className history).map ("." ++ ·)
  attributes := (tokensOf .attributeTest history).map ("[" ++ · ++ "]")
  pseudoClasses := (tokensOf .pseudoClass history).map (":" ++ ·)
  pseudoElement := (tokensOf .pseudoElement history).head?.map ("::" ++ ·)

/-- Of texts that start with a sign the first one settles what a single category holds. -/
theorem settled?_of_signed (sign : String) (signed : sign ≠ "") (tokens : List String) :
    settled? (tokens.map (sign ++ ·)) = tokens.head?.map (sign ++ ·) := by
  cases tokens with
  | nil => rfl
  | cons token rest =>
    have full : sign ++ token ≠ "" := by
      simpa only [ne_eq, String.append_eq_empty_iff, not_and] using fun blank _ => signed blank
    rw [List.map_cons, settled?_cons, if_neg full]
    rfl

theorem texts_heldParts (history : List Part) (category : Category) :
    (heldParts history).texts category = heldOf category history := by
  cases category with
  | element =>
    have bare : textsOf .element history = tokensOf .element history := List.map_id _
    simp only [heldOf, bare]
    rfl
  | id => exact congrArg Option.toList (settled?_of_signed "#" (by decide) _).symm
  | pseudoElement => exact congrArg Option.toList (settled?_of_signed "::" (by decide) _).symm
  | className => rfl
  | attributeTest => rfl
  | pseudoClass => rfl

theorem heldParts_congr {left right : List Part}
    (same : ∀ category, tokensOf category left = tokensOf category right) :
    heldParts left = heldParts right := by
  simp only [heldParts, same]

theorem exists_category_iff (category : Category) (history : List Part) :
    (∃ part ∈ history, part.category = category) ↔ tokensOf category history ≠ [] := by
  simp [tokensOf, List.filter_eq_nil_iff]

theorem highest?_of_tokensOf {left right : List Part}
    (same : ∀ category, tokensOf category left = tokensOf category right) :
    highest? left = highest? right := by
  apply highest?_congr
  intro category
  rw [exists_category_iff, exists_category_iff, same category]

namespace Selector

theorem parts_addAll (history : List Part) :
    (({} : Selector).addAll history).parts = heldParts history := by
  apply Parts.eq_of_texts
  intro category
  rw [texts_addAll, texts_heldParts]

/-- What a history leaves is settled category by category. Histories that differ only in how they
interleave the categories leave the same, even if other parts of them were rejected. -/
theorem addAll_settled_by_tokensOf (history : List Part) :
    (({} : Selector).addAll history).parts = heldParts history ∧
      ∀ others : List Part, (∀ category, tokensOf category others = tokensOf category history) →
        (({} : Selector).addAll others).parts = (({} : Selector).addAll history).parts ∧
        (({} : Selector).addAll others).lastCategory =
          (({} : Selector).addAll history).lastCategory ∧
        (({} : Selector).addAll others).text = (({} : Selector).addAll history).text := by
  refine ⟨parts_addAll history, ?_⟩
  intro others same
  have parts : (({} : Selector).addAll others).parts = (({} : Selector).addAll history).parts := by
    rw [parts_addAll, parts_addAll, heldParts_congr same]
  refine ⟨parts, ?_, ?_⟩
  · rw [lastCategory_addAll, lastCategory_addAll, highest?_of_tokensOf same]
  · rw [text_addAll_of_unjoined _ others rfl, text_addAll_of_unjoined _ history rfl, parts]

/-- Two ids behind a class leave the same as before it, although both are rejected there. -/
theorem addAll_settled_by_tokensOf_swapped :
    (({} : Selector).addAll [⟨.className, "a"⟩, ⟨.id, "b"⟩, ⟨.id, "c"⟩]).parts =
        (({} : Selector).addAll [⟨.id, "b"⟩, ⟨.id, "c"⟩, ⟨.className, "a"⟩]).parts ∧
      (({} : Selector).addAll [⟨.className, "a"⟩, ⟨.id, "b"⟩, ⟨.id, "c"⟩]).lastCategory =
        (({} : Selector).addAll [⟨.id, "b"⟩, ⟨.id, "c"⟩, ⟨.className, "a"⟩]).lastCategory ∧
      (({} : Selector).addAll [⟨.className, "a"⟩, ⟨.id, "b"⟩, ⟨.id, "c"⟩]).text =
        (({} : Selector).addAll [⟨.id, "b"⟩, ⟨.id, "c"⟩, ⟨.className, "a"⟩]).text ∧
      ({} : Selector).outcomes [⟨.className, "a"⟩, ⟨.id, "b"⟩, ⟨.id, "c"⟩] =
        [none, some (.misplaced .id .className), some (.duplicate .id)] ∧
      ({} : Selector).outcomes [⟨.id, "b"⟩, ⟨.id, "c"⟩, ⟨.className, "a"⟩] =
        [none, some (.duplicate .id), none] := by
  have same : ∀ category, tokensOf category [⟨.className, "a"⟩, ⟨.id, "b"⟩, ⟨.id, "c"⟩] =
      tokensOf category [⟨.id, "b"⟩, ⟨.id, "c"⟩, ⟨.className, "a"⟩] := by
    intro category
    cases category <;> decide
  have settled :=
    (addAll_settled_by_tokensOf [⟨.id, "b"⟩, ⟨.id, "c"⟩, ⟨.className, "a"⟩]).2 _ same
  exact ⟨settled.1, settled.2.1, settled.2.2, by decide, by decide⟩

end Selector

end CssSelector

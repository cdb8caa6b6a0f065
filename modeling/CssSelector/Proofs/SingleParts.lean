import CssSelector.Proofs.HeldParts

set_option autoImplicit false

namespace CssSelector

namespace Selector

/-- The texts that a selector stores for a category while parts are added to it. A part that comes
too late is rejected, and stored all the same. -/
def stored (category : Category) : Selector → List Part → List String
  | _, [] => []
  | selector, part :: rest =>
    (if part.category = category ∧ selector.parts.isTaken category = false then [part.text]
      else []) ++
      stored category (selector.add part).selector rest

theorem stored_append (category : Category) (selector : Selector) (first second : List Part) :
    selector.stored category (first ++ second) =
      selector.stored category first ++ (selector.addAll first).stored category second := by
  induction first generalizing selector with
  | nil => rfl
  | cons part rest ih =>
    rw [List.cons_append, stored, ih, stored, List.append_assoc]
    rfl

theorem stored_singleton (category : Category) (selector : Selector) (part : Part) :
    selector.stored category [part] =
      if part.category = category ∧ selector.parts.isTaken category = false then [part.text]
      else [] := by
  rw [stored, stored, List.append_nil]

/-- A part comes among the others exactly if its text is stored. -/
theorem parts_add_of_stored (selector : Selector) (part : Part) :
    (selector.add part).selector.parts =
      if selector.stored part.category [part] = [] then selector.parts
      else selector.parts.insert part := by
  rw [parts_add, stored_singleton]
  cases selector.parts.isTaken part.category <;> simp

/-- A single category holds what was stored for it last. -/
theorem texts_addAll_of_single {category : Category} (single : category.isSingle = true)
    (history : List Part) :
    (({} : Selector).addAll history).parts.texts category =
      (({} : Selector).stored category history).getLast?.toList := by
  induction history using List.reverseRecOn with
  | nil => exact Parts.texts_empty category
  | append_singleton history part ih =>
    rw [addAll_concat, parts_add_of_stored, stored_append]
    by_cases same : part.category = category
    · subst same
      by_cases kept : (({} : Selector).addAll history).stored part.category [part] = []
      · rw [if_pos kept, kept, List.append_nil, ih]
      · have text := stored_singleton part.category (({} : Selector).addAll history) part
        rw [if_neg kept, Parts.texts_insert_self, if_pos single]
        rw [text, ite_eq_right_iff, not_forall] at kept
        rw [text, if_pos kept.1, List.getLast?_concat, Option.toList_some]
    · have other : (({} : Selector).addAll history).stored category [part] = [] := by
        rw [stored_singleton, if_neg fun both => same both.1]
      rw [other, List.append_nil, ← ih]
      split
      · rfl
      · exact Parts.texts_insert_of_ne _ part (Ne.symm same)

end Selector

/-- Texts up to the first one that is not empty, and that one. -/
def throughFull : List String → List String
  | [] => []
  | text :: rest => if text = "" then text :: throughFull rest else [text]

theorem throughFull_concat (texts : List String) (text : String) :
    throughFull (texts ++ [text]) =
      throughFull texts ++ if texts.any (· ≠ "") then [] else [text] := by
  induction texts with
  | nil => by_cases blank : text = "" <;> simp [throughFull, blank]
  | cons first rest ih =>
    rw [List.cons_append, throughFull, throughFull, ih, List.any_cons]
    by_cases blank : first = "" <;> simp [blank]

theorem throughFull_of_full {texts : List String} (full : ∀ text ∈ texts, text ≠ "") :
    throughFull texts = texts.take 1 := by
  cases texts with
  | nil => rfl
  | cons first rest =>
    have some : first ≠ "" := full first List.mem_cons_self
    rw [throughFull, if_neg some]
    rfl

/-- The last of them is full exactly if any text is. -/
theorem any_getLast?_throughFull (texts : List String) :
    (throughFull texts).getLast?.toList.any (· ≠ "") = texts.any (· ≠ "") := by
  induction texts with
  | nil => rfl
  | cons first rest ih =>
    rw [throughFull, List.any_cons]
    by_cases blank : first = ""
    · rw [if_pos blank, List.getLast?_cons, ← ih, blank]
      cases (throughFull rest).getLast? <;> simp
    · simp [blank]

/-- Where the texts of a category cannot be empty, none of those offered for it is. -/
theorem full_textsOf {category : Category} (signed : category ≠ .element) (history : List Part) :
    ∀ text ∈ textsOf category history, text ≠ "" := by
  intro text member blank
  obtain ⟨token, _, rfl⟩ := List.mem_map.mp member
  exact signed ((Part.text_eq_empty_iff ⟨category, token⟩).mp blank).1

theorem textsOf_element (history : List Part) :
    textsOf .element history = tokensOf .element history :=
  List.map_id _

/-- A single category stores what it is offered until it is offered a text that is not empty. -/
theorem Selector.stored_eq_throughFull {category : Category} (single : category.isSingle = true)
    (history : List Part) :
    ({} : Selector).stored category history = throughFull (textsOf category history) := by
  induction history using List.reverseRecOn with
  | nil => rfl
  | append_singleton history part ih =>
    -- What was stored last is what the category holds, so it decides whether the part is stored.
    have taken : (({} : Selector).addAll history).parts.isTaken category =
        (textsOf category history).any (· ≠ "") := by
      rw [Parts.isTaken, single, Bool.true_and, texts_addAll_of_single single, ih,
        any_getLast?_throughFull]
    rw [stored_append, ih, stored_singleton, taken]
    by_cases same : part.category = category
    · subst same
      rw [textsOf_concat_self, throughFull_concat]
      cases (textsOf part.category history).any (· ≠ "") <;> simp
    · rw [textsOf_concat_of_ne history part same]
      simp only [same, false_and, ↓reduceIte, List.append_nil]

theorem Selector.stored_of_signed {category : Category} (single : category.isSingle = true)
    (signed : category ≠ .element) (history : List Part) :
    ({} : Selector).stored category history = (textsOf category history).take 1 := by
  rw [stored_eq_throughFull single]
  exact throughFull_of_full (full_textsOf signed history)

/-- The rule that single parts are set once: after the first part of a single category every other
one is rejected as its duplicate and changes nothing, so that no more than one is stored. -/
structure KeepsSingles (history : List Part) : Prop where
  once : ∀ category : Category, category.isSingle = true →
    (({} : Selector).stored category history).length ≤ 1
  later : ∀ before part after, history = before ++ part :: after → part.category.isSingle = true →
    (∃ other ∈ before, other.category = part.category) →
    (({} : Selector).addAll before).add part =
      ⟨({} : Selector).addAll before, some (.duplicate part.category)⟩

/-- Whether the first element that is offered is empty, and not the only one. -/
def ReplacesBlank (history : List Part) : Prop :=
  ∃ second rest, tokensOf .element history = "" :: second :: rest

theorem length_throughFull_le_one_iff (texts : List String) :
    (throughFull texts).length ≤ 1 ↔ ∀ second rest, texts ≠ "" :: second :: rest := by
  cases texts with
  | nil => simp [throughFull]
  | cons first others =>
    by_cases blank : first = ""
    · cases others with
      | nil => simp [throughFull]
      | cons second rest =>
        have more : (throughFull (second :: rest)).length ≠ 0 := by
          rw [throughFull]
          split <;> simp
        rw [throughFull, if_pos blank, List.length_cons, blank]
        constructor
        · intro short
          omega
        · intro fits
          exact absurd rfl (fits second rest)
    · simp [throughFull, blank]

theorem tokensOf_middle (before after : List Part) (part : Part) :
    tokensOf part.category (before ++ part :: after) =
      tokensOf part.category before ++ part.token :: tokensOf part.category after := by
  simp only [tokensOf, List.filter_append, decide_true, List.filter_cons_of_pos, List.map_append,
    List.map_cons]

/-- The first part that is offered for a single category uses it up, unless it is an empty element
before another one. -/
theorem isSpent_of_offered {before after : List Part} {part : Part}
    (single : part.category.isSingle = true) (fits : ¬ ReplacesBlank (before ++ part :: after))
    (offered : ∃ other ∈ before, other.category = part.category) :
    isSpent before part.category = true := by
  have some : textsOf part.category before ≠ [] := by
    have present := (exists_category_iff part.category before).mp offered
    simpa only [textsOf, ne_eq, List.map_eq_nil_iff] using present
  obtain ⟨first, rest, known⟩ := List.exists_cons_of_ne_nil some
  have full : first ≠ "" := by
    by_cases element : part.category = .element
    · rintro rfl
      have whole := tokensOf_middle before after part
      rw [element] at whole known
      rw [← textsOf_element before, known, List.cons_append] at whole
      -- The part itself stands behind the empty element, so something does.
      obtain ⟨second, others, behind⟩ := List.exists_cons_of_ne_nil
        (List.append_ne_nil_of_right_ne_nil rest (List.cons_ne_nil part.token
          (tokensOf .element after)))
      rw [behind] at whole
      exact fits ⟨second, others, whole⟩
    · exact full_textsOf element before first (known ▸ List.mem_cons_self)
  rw [isSpent_eq, single, known, List.any_cons]
  simp only [ne_eq, full, not_false_eq_true, decide_true, Bool.true_or, Bool.and_true]

/-- Single parts are set once in exactly those histories that do not replace an empty element. What
is stored of an id or a pseudo-element is the first that is offered in any case; of the elements it
is all up to the first that is not empty. -/
theorem keepsSingles_iff (history : List Part) :
    (KeepsSingles history ↔ ¬ ReplacesBlank history) ∧
      ({} : Selector).stored .id history = (textsOf .id history).take 1 ∧
      ({} : Selector).stored .pseudoElement history = (textsOf .pseudoElement history).take 1 ∧
      ({} : Selector).stored .element history = throughFull (tokensOf .element history) := by
  have element : ({} : Selector).stored .element history =
      throughFull (tokensOf .element history) := by
    rw [Selector.stored_eq_throughFull rfl, textsOf_element]
  refine ⟨⟨?_, ?_⟩, Selector.stored_of_signed rfl (by decide) history,
    Selector.stored_of_signed rfl (by decide) history, element⟩
  · rintro rule ⟨second, rest, known⟩
    have short := rule.once .element rfl
    rw [element, length_throughFull_le_one_iff] at short
    exact short second rest known
  · intro fits
    constructor
    · intro category single
      by_cases isElement : category = .element
      · rw [isElement, element, length_throughFull_le_one_iff]
        intro second rest known
        exact fits ⟨second, rest, known⟩
      · rw [Selector.stored_of_signed single isElement]
        exact List.length_take_le 1 _
    · rintro before part after rfl single offered
      apply Selector.add_of_taken
      rw [Selector.isTaken_addAll]
      exact isSpent_of_offered single fits offered

/-- An element behind an empty one takes its place instead of being rejected. -/
theorem not_keepsSingles_blank_element :
    ¬ KeepsSingles [⟨.element, ""⟩, ⟨.element, "a"⟩] := by
  intro rule
  have rejected := rule.later [⟨.element, ""⟩] ⟨.element, "a"⟩ [] rfl rfl
    ⟨_, List.mem_cons_self, rfl⟩
  have accepted : ((({} : Selector).addAll [⟨.element, ""⟩]).add ⟨.element, "a"⟩) =
      ⟨{ parts := { element := some "a" }, lastCategory := some .element }, none⟩ := by decide
  have outcome := congrArg Selector.Addition.error? (rejected.symm.trans accepted)
  cases outcome

end CssSelector

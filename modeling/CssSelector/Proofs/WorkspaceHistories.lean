import CssSelector.Proofs.HeldParts
import CssSelector.Proofs.StepEffect

set_option autoImplicit false

namespace CssSelector

def Parts.Occupies (parts : Parts) : Category → Prop
  | .element => parts.element ≠ none
  | .id => parts.id ≠ none
  | .className => parts.classes ≠ []
  | .attributeTest => parts.attributes ≠ []
  | .pseudoClass => parts.pseudoClasses ≠ []
  | .pseudoElement => parts.pseudoElement ≠ none

theorem Parts.occupies_iff (parts : Parts) (category : Category) :
    parts.Occupies category ↔ parts.texts category ≠ [] := by
  cases category <;> simp [Occupies, texts]

def Parts.highest? (parts : Parts) : Option Category :=
  (Category.all.filter fun category => parts.texts category ≠ []).max?

theorem Parts.highest?_eq_some_iff {parts : Parts} {category : Category} :
    parts.highest? = some category ↔
      parts.Occupies category ∧ ∀ other, parts.Occupies other → other ≤ category := by
  simp only [highest?, List.max?_eq_some_iff, List.mem_filter, Category.mem_all, true_and,
    decide_eq_true_eq, occupies_iff]

theorem Parts.highest?_eq_none_iff {parts : Parts} :
    parts.highest? = none ↔ ∀ category, ¬ parts.Occupies category := by
  simp only [highest?, List.max?_eq_none_iff, List.filter_eq_nil_iff, Category.mem_all,
    true_implies, decide_eq_true_eq, occupies_iff]

/-- Whether all parts are written with the signs of their categories. -/
structure Parts.Signed (parts : Parts) : Prop where
  id : ∀ text ∈ parts.id, ∃ token, text = "#" ++ token
  classes : ∀ text ∈ parts.classes, ∃ token, text = "." ++ token
  attributes : ∀ text ∈ parts.attributes, ∃ token, text = "[" ++ token ++ "]"
  pseudoClasses : ∀ text ∈ parts.pseudoClasses, ∃ token, text = ":" ++ token
  pseudoElement : ∀ text ∈ parts.pseudoElement, ∃ token, text = "::" ++ token

theorem signed_heldParts (history : List Part) : (heldParts history).Signed := by
  constructor
  · intro text member
    obtain ⟨token, _, rfl⟩ := Option.map_eq_some_iff.mp member
    exact ⟨token, rfl⟩
  · intro text member
    obtain ⟨token, _, rfl⟩ := List.mem_map.mp member
    exact ⟨token, rfl⟩
  · intro text member
    obtain ⟨token, _, rfl⟩ := List.mem_map.mp member
    exact ⟨token, rfl⟩
  · intro text member
    obtain ⟨token, _, rfl⟩ := List.mem_map.mp member
    exact ⟨token, rfl⟩
  · intro text member
    obtain ⟨token, _, rfl⟩ := Option.map_eq_some_iff.mp member
    exact ⟨token, rfl⟩

theorem settled?_eq_none_iff {texts : List String} : settled? texts = none ↔ texts = [] := by
  cases texts with
  | nil => simp only [settled?_nil]
  | cons text rest =>
    rw [settled?_cons]
    split <;> simp only [reduceCtorEq]

theorem heldOf_eq_nil_iff {category : Category} {history : List Part} :
    heldOf category history = [] ↔ tokensOf category history = [] := by
  have texts : textsOf category history = [] ↔ tokensOf category history = [] := List.map_eq_nil_iff
  rw [heldOf, ← texts]
  split
  · rw [Option.toList_eq_nil_iff, settled?_eq_none_iff]
  · rfl

theorem occupies_heldParts (history : List Part) (category : Category) :
    (heldParts history).Occupies category ↔ ∃ part ∈ history, part.category = category := by
  rw [Parts.occupies_iff, texts_heldParts, exists_category_iff, ne_eq, heldOf_eq_nil_iff]

theorem highest?_heldParts (history : List Part) :
    (heldParts history).highest? = highest? history := by
  apply Option.ext
  intro category
  rw [Parts.highest?_eq_some_iff, highest?_eq_some_iff]
  simp only [occupies_heldParts, forall_exists_index, and_imp, forall_apply_eq_imp_iff₂]

namespace Selector

/-- Whether a selector holds what a history leaves, apart from a text that replaces its parts. -/
structure HasHistory (selector : Selector) (history : List Part) : Prop where
  parts : selector.parts = (({} : Selector).addAll history).parts
  lastCategory : selector.lastCategory = (({} : Selector).addAll history).lastCategory

theorem HasHistory.sameParts {selector : Selector} {history : List Part}
    (held : selector.HasHistory history) : selector.SameParts (({} : Selector).addAll history) :=
  ⟨held.parts, held.lastCategory⟩

theorem HasHistory.add {selector : Selector} {history : List Part}
    (held : selector.HasHistory history) (part : Part) :
    (selector.add part).selector.HasHistory (history ++ [part]) := by
  have added := held.sameParts.add part
  rw [← addAll_concat] at added
  exact ⟨added.parts, added.lastCategory⟩

theorem HasHistory.join {selector : Selector} {history : List Part}
    (held : selector.HasHistory history) (left : Selector) (combinator : String)
    (right : Selector) : (selector.join left combinator right).HasHistory history :=
  ⟨held.parts, held.lastCategory⟩

theorem HasHistory.eq_heldParts {selector : Selector} {history : List Part}
    (held : selector.HasHistory history) : selector.parts = heldParts history :=
  held.parts.trans (parts_addAll history)

theorem HasHistory.signed {selector : Selector} {history : List Part}
    (held : selector.HasHistory history) : selector.parts.Signed :=
  held.eq_heldParts ▸ signed_heldParts history

/-- The last category is a function of the parts, although a rejected part is kept. -/
theorem HasHistory.lastCategory_eq {selector : Selector} {history : List Part}
    (held : selector.HasHistory history) : selector.lastCategory = selector.parts.highest? := by
  rw [held.lastCategory, lastCategory_addAll, held.eq_heldParts, highest?_heldParts]

end Selector

namespace Workspace

theorem Step.Changes.hasHistory {step : Step} {own next : Selector} (change : step.Changes own next)
    (held : ∃ history, own.HasHistory history) : ∃ history, next.HasHistory history := by
  obtain ⟨history, held⟩ := held
  cases change with
  | create name => exact ⟨history, held⟩
  | add receiver? part name? => exact ⟨history ++ [part], held.add part⟩
  | join receiver? left combinator right name? own first second =>
    exact ⟨history, held.join first combinator second⟩

/-- Whether every selector holds what some history leaves. -/
def HasHistories (workspace : Workspace) : Prop :=
  ∀ selector ∈ workspace.selectors, ∃ history, selector.HasHistory history

theorem hasHistories_empty : ({} : Workspace).HasHistories := by
  intro selector member
  exact absurd member (Array.not_mem_empty selector)

theorem Effect.hasHistories {before after : Workspace} {step : Step} {reply : Reply}
    (effect : Effect before step reply after) (histories : before.HasHistories) :
    after.HasHistories :=
  effect.forall_selectors ⟨[], rfl, rfl⟩ (fun _ _ change => change.hasHistory) histories

theorem exists_history_of_run? {script : List Step} {workspace : Workspace} {answers : List Answer}
    (ran : ({} : Workspace).run? script = some (workspace, answers)) : workspace.HasHistories :=
  holds_of_every_run? (fun _ _ _ _ effect => effect.hasHistories) ran hasHistories_empty

/-- In every workspace that a script leads to, the last category of a selector is the highest one of
which it holds parts, and those are written with their signs, whatever was rejected or joined. -/
theorem lastCategory_of_run? {script : List Step} {workspace : Workspace} {answers : List Answer}
    (ran : ({} : Workspace).run? script = some (workspace, answers)) :
    ∀ selector ∈ workspace.selectors,
      selector.lastCategory = selector.parts.highest? ∧
      (∀ category, selector.lastCategory = some category ↔
        selector.parts.Occupies category ∧
          ∀ other, selector.parts.Occupies other → other ≤ category) ∧
      (selector.lastCategory = none ↔ ∀ category, ¬ selector.parts.Occupies category) ∧
      selector.parts.Signed := by
  intro selector member
  obtain ⟨history, held⟩ := exists_history_of_run? ran selector member
  have signed : selector.parts.Signed := held.eq_heldParts ▸ signed_heldParts history
  rw [held.lastCategory_eq]
  exact ⟨rfl, fun _ => Parts.highest?_eq_some_iff, Parts.highest?_eq_none_iff, signed⟩

/-- An id behind a class is rejected and stays, and the class remains the last category, also while
the selector joins itself under another name. -/
theorem lastCategory_of_run?_rejected_id :
    ∃ workspace answers,
      ({} : Workspace).run?
          [.add none ⟨.className, "a"⟩ (some "s"), .add (some "s") ⟨.id, "b"⟩ none,
            .add (some "s") ⟨.className, "c"⟩ (some "t"), .join (some "t") "s" ">" "t" none] =
        some (workspace, answers) ∧
      ∃ selector ∈ workspace.selectors,
        selector = ⟨{ id := some "#b", classes := [".a", ".c"] }, some "#b.a.c > #b.a.c",
          some .className⟩ ∧
        selector.lastCategory = selector.parts.highest? ∧ selector.parts.Signed := by
  have ran : ({} : Workspace).run? [.add none ⟨.className, "a"⟩ (some "s"),
      .add (some "s") ⟨.id, "b"⟩ none, .add (some "s") ⟨.className, "c"⟩ (some "t"),
      .join (some "t") "s" ">" "t" none] = some (_, _) := rfl
  have facts := lastCategory_of_run? ran _ (Array.mem_of_getElem? (i := 0) rfl)
  exact ⟨_, _, ran, _, Array.mem_of_getElem? (i := 0) rfl, by decide, facts.1, facts.2.2.2⟩

end Workspace

end CssSelector

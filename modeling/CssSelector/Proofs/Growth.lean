import CssSelector.Proofs.WorkspaceHistories
import Mathlib.Data.List.Infix

set_option autoImplicit false

namespace CssSelector

/-- Whether some parts can be the later state of others: more may stand behind those in a list, a
single part stays once it is there, and only an empty element makes room for another one. -/
structure Parts.Grows (earlier later : Parts) : Prop where
  classes : earlier.classes <+: later.classes
  attributes : earlier.attributes <+: later.attributes
  pseudoClasses : earlier.pseudoClasses <+: later.pseudoClasses
  id : ∀ text, earlier.id = some text → later.id = some text
  pseudoElement : ∀ text, earlier.pseudoElement = some text → later.pseudoElement = some text
  element : ∀ text, text ≠ "" → earlier.element = some text → later.element = some text
  named : earlier.element ≠ none → later.element ≠ none

namespace Parts

theorem Grows.refl (parts : Parts) : parts.Grows parts where
  classes := List.prefix_rfl
  attributes := List.prefix_rfl
  pseudoClasses := List.prefix_rfl
  id _ known := known
  pseudoElement _ known := known
  element _ _ known := known
  named present := present

theorem Grows.trans {first second third : Parts} (early : first.Grows second)
    (late : second.Grows third) : first.Grows third where
  classes := early.classes.trans late.classes
  attributes := early.attributes.trans late.attributes
  pseudoClasses := early.pseudoClasses.trans late.pseudoClasses
  id text known := late.id text (early.id text known)
  pseudoElement text known := late.pseudoElement text (early.pseudoElement text known)
  element text full known := late.element text full (early.element text full known)
  named present := late.named (early.named present)

/-- The element of some parts comes back only if it has not changed: once it is not empty it stays,
and an empty one is not followed by none. -/
theorem Grows.element_eq {earlier later : Parts} (grown : earlier.Grows later)
    (back : later.Grows earlier) {text : String} (known : earlier.element = some text) :
    later.element = some text := by
  by_cases full : text = ""
  · have present : later.element ≠ none := by
      apply grown.named
      rw [known]
      exact Option.some_ne_none text
    obtain ⟨other, found⟩ := Option.ne_none_iff_exists'.mp present
    by_cases blank : other = ""
    · rw [found, blank, full]
    · have same := back.element other blank found
      rw [known, Option.some.injEq] at same
      rw [found, same]
  · exact grown.element text full known

theorem Grows.antisymm {earlier later : Parts} (grown : earlier.Grows later)
    (back : later.Grows earlier) : later = earlier := by
  have element : later.element = earlier.element := by
    apply Option.ext
    intro text
    exact ⟨back.element_eq grown, grown.element_eq back⟩
  have id : later.id = earlier.id := by
    apply Option.ext
    intro text
    exact ⟨back.id text, grown.id text⟩
  have pseudoElement : later.pseudoElement = earlier.pseudoElement := by
    apply Option.ext
    intro text
    exact ⟨back.pseudoElement text, grown.pseudoElement text⟩
  have classes := List.infix_antisymm back.classes.isInfix grown.classes.isInfix
  have attributes := List.infix_antisymm back.attributes.isInfix grown.attributes.isInfix
  have pseudoClasses := List.infix_antisymm back.pseudoClasses.isInfix grown.pseudoClasses.isInfix
  cases earlier
  cases later
  simp only [mk.injEq]
  exact ⟨element, id, classes, attributes, pseudoClasses, pseudoElement⟩

/-- A part that finds its category free takes nothing away. Of the single parts only an element can
be there and leave its category free, since the others begin with a sign. -/
theorem Signed.grows_insert {parts : Parts} (signed : parts.Signed) (part : Part)
    (free : parts.isTaken part.category = false) : parts.Grows (parts.insert part) := by
  have kept := Grows.refl parts
  rcases part with ⟨category, token⟩
  cases category with
  | element =>
    refine { kept with element := ?_, named := fun _ => Option.some_ne_none _ }
    intro text full known
    simp [isTaken, texts, Category.isSingle, known, full] at free
  | id =>
    refine { kept with id := ?_ }
    intro text known
    obtain ⟨rest, rfl⟩ := signed.id text known
    simp [isTaken, texts, Category.isSingle, known] at free
  | className => exact { kept with classes := List.prefix_append _ _ }
  | attributeTest => exact { kept with attributes := List.prefix_append _ _ }
  | pseudoClass => exact { kept with pseudoClasses := List.prefix_append _ _ }
  | pseudoElement =>
    refine { kept with pseudoElement := ?_ }
    intro text known
    obtain ⟨rest, rfl⟩ := signed.pseudoElement text known
    simp [isTaken, texts, Category.isSingle, known] at free

end Parts

/-- Whether a selector can be the later state of another one: its parts grow, the last category
never falls back, and it stays joined. -/
structure Selector.Grows (earlier later : Selector) : Prop where
  parts : earlier.parts.Grows later.parts
  lastCategory : ∀ category, earlier.lastCategory = some category →
    ∃ reached, later.lastCategory = some reached ∧ category ≤ reached
  joined : earlier.isJoined = true → later.isJoined = true

namespace Selector

theorem Grows.refl (selector : Selector) : selector.Grows selector where
  parts := .refl selector.parts
  lastCategory category known := ⟨category, known, le_refl category⟩
  joined joined := joined

theorem Grows.trans {first second third : Selector} (early : first.Grows second)
    (late : second.Grows third) : first.Grows third where
  parts := early.parts.trans late.parts
  lastCategory := by
    intro category known
    obtain ⟨middle, reached, above⟩ := early.lastCategory category known
    obtain ⟨last, final, further⟩ := late.lastCategory middle reached
    exact ⟨last, final, le_trans above further⟩
  joined joined := late.joined (early.joined joined)

theorem grows_join (selector left : Selector) (combinator : String) (right : Selector) :
    selector.Grows (selector.join left combinator right) :=
  { Grows.refl selector with joined := fun _ => rfl }

/-- An addition takes nothing away, whatever comes of it. -/
theorem grows_add {selector : Selector} (signed : selector.parts.Signed) (part : Part) :
    selector.Grows (selector.add part).selector := by
  constructor
  · rw [parts_add]
    cases taken : selector.parts.isTaken part.category with
    | true => exact .refl selector.parts
    | false => exact signed.grows_insert part taken
  · intro category known
    rw [lastCategory_add, overtaken?_of_some selector part.category known]
    by_cases late : part.category < category
    · simp only [late, ↓reduceIte, Option.isSome_some, or_true]
      exact ⟨category, known, le_refl category⟩
    · have reached : category ≤ part.category := not_lt.mp late
      simp only [late, ↓reduceIte, Option.isSome_none, Bool.false_eq_true, or_false]
      split
      · exact ⟨category, known, le_refl category⟩
      · exact ⟨part.category, rfl, reached⟩
  · intro joined
    rw [isJoined, joinedText_add]
    exact joined

end Selector

namespace Workspace

section Effect

variable {before after : Workspace} {step : Step} {reply : Reply}

theorem Step.Changes.grows {own next : Selector} (change : step.Changes own next)
    (signed : own.parts.Signed) : own.Grows next := by
  cases change with
  | create name => exact .refl own
  | add receiver? part name? => exact Selector.grows_add signed part
  | join receiver? left combinator right name? own first second =>
    exact own.grows_join first combinator second

theorem Effect.grows (effect : Effect before step reply after) (histories : before.HasHistories)
    {place : Nat} {own : Selector} (present : before.selectors[place]? = some own) :
    ∃ next, after.selectors[place]? = some next ∧ own.Grows next := by
  obtain ⟨next, stored, kept | ⟨_, change⟩⟩ := effect.next present
  · rw [kept] at stored
    exact ⟨own, stored, .refl own⟩
  · obtain ⟨history, held⟩ := histories own (Array.mem_of_getElem? present)
    exact ⟨next, stored, change.grows held.signed⟩

end Effect

theorem HasHistories.grows {workspace final : Workspace} {steps : List Step} {answers : List Answer}
    (histories : workspace.HasHistories) (ran : workspace.run? steps = some (final, answers))
    {place : Nat} {own : Selector} (present : workspace.selectors[place]? = some own) :
    final.HasHistories ∧ ∃ next, final.selectors[place]? = some next ∧ own.Grows next := by
  refine holds_of_every_run? (Q := fun now =>
    now.HasHistories ∧ ∃ next, now.selectors[place]? = some next ∧ own.Grows next) ?_ ran ?_
  · intro before step after reply effect holds
    obtain ⟨known, middle, stored, early⟩ := holds
    obtain ⟨next, last, late⟩ := effect.grows known stored
    exact ⟨effect.hasHistories known, next, last, early.trans late⟩
  · exact ⟨histories, own, present, .refl own⟩

def Step.pictured? : Step → Option String
  | .snapshot source _ => some source
  | _ => none

/-- The snapshots that a run takes of the selector in a place, under whatever names, in order. -/
def snapshotsOf (place : Nat) : Workspace → List Step → List (String × Parts)
  | _, [] => []
  | workspace, step :: rest =>
    (if step.pictured?.bind workspace.place? = some place then workspace.taken step else []) ++
      match workspace.perform? step with
      | none => []
      | some (next, _) => snapshotsOf place next rest

section Snapshots

variable {workspace : Workspace} {place : Nat}

/-- A step takes one snapshot at most. -/
theorem pairwise_taken (relation : String × Parts → String × Parts → Prop) (step : Step) :
    (workspace.taken step).Pairwise relation := by
  cases step with
  | snapshot source name =>
    simp only [taken]
    cases workspace.selector? source with
    | none => exact List.Pairwise.nil
    | some selector => exact List.pairwise_singleton relation _
  | _ => exact List.Pairwise.nil

/-- A snapshot shows the parts that the selector has when it is taken. -/
theorem exists_of_mem_taken {step : Step} {entry : String × Parts}
    (source : step.pictured?.bind workspace.place? = some place)
    (member : entry ∈ workspace.taken step) :
    ∃ own, workspace.selectors[place]? = some own ∧ entry.2 = own.parts := by
  cases step with
  | snapshot name kept =>
    have known : workspace.selector? name = workspace.selectors[place]? := by
      rw [Workspace.selector?, show workspace.place? name = some place from source]
      rfl
    simp only [taken, known, Option.mem_toList, Option.map_eq_some_iff] at member
    obtain ⟨own, present, rfl⟩ := member
    exact ⟨own, present, rfl⟩
  | _ => cases member

theorem exists_place_of_mem_taken {step : Step} {entry : String × Parts}
    (member : entry ∈ workspace.taken step) :
    ∃ place, step.pictured?.bind workspace.place? = some place := by
  cases step with
  | snapshot name kept =>
    simp only [taken, Option.mem_toList, Option.map_eq_some_iff] at member
    obtain ⟨own, known, _⟩ := member
    obtain ⟨place, named, _⟩ := Option.bind_eq_some_iff.mp known
    exact ⟨place, named⟩
  | _ => cases member

/-- The snapshots that a run takes of the selectors in all places are those that it stores. -/
theorem mem_snapshots_iff {final : Workspace} {steps : List Step} {answers : List Answer}
    (ran : workspace.run? steps = some (final, answers)) (entry : String × Parts) :
    entry ∈ final.snapshots ↔
      entry ∈ workspace.snapshots ∨ ∃ place, entry ∈ snapshotsOf place workspace steps := by
  induction steps generalizing workspace answers with
  | nil =>
    cases ran
    simp only [snapshotsOf, List.not_mem_nil, exists_false, or_false]
  | cons step rest ih =>
    obtain ⟨next, answer, others, performed, ran, _⟩ := run?_cons_eq_some_iff.mp ran
    have stored := (perform?_effect performed).snapshots
    rw [ih ran, stored, List.mem_append]
    simp only [snapshotsOf, performed, List.mem_append, exists_or, List.mem_ite_nil_right,
      exists_and_right]
    have placed : (∃ place, step.pictured?.bind workspace.place? = some place) ∧
        entry ∈ workspace.taken step ↔ entry ∈ workspace.taken step :=
      and_iff_right_of_imp exists_place_of_mem_taken
    rw [placed, or_assoc, or_left_comm]

theorem HasHistories.grows_of_mem_snapshotsOf (histories : workspace.HasHistories)
    {own : Selector} (present : workspace.selectors[place]? = some own) {steps : List Step}
    {entry : String × Parts} (member : entry ∈ snapshotsOf place workspace steps) :
    own.parts.Grows entry.2 := by
  induction steps generalizing workspace own with
  | nil => cases member
  | cons step rest ih =>
    rw [snapshotsOf, List.mem_append] at member
    rcases member with now | later
    · split at now
      · rename_i source
        obtain ⟨same, found, shown⟩ := exists_of_mem_taken source now
        rw [present, Option.some.injEq] at found
        rw [shown, ← found]
        exact .refl own.parts
      · cases now
    · split at later
      · cases later
      · rename_i next answer performed
        have effect := perform?_effect performed
        obtain ⟨grown, stored, early⟩ := effect.grows histories present
        have late := ih (effect.hasHistories histories) stored later
        exact early.parts.trans late

/-- Of the snapshots of one selector the later ones show what has become of the earlier ones. -/
theorem HasHistories.pairwise_snapshotsOf (histories : workspace.HasHistories) (place : Nat)
    (steps : List Step) :
    (snapshotsOf place workspace steps).Pairwise fun earlier later => earlier.2.Grows later.2 := by
  induction steps generalizing workspace with
  | nil => exact List.Pairwise.nil
  | cons step rest ih =>
    rw [snapshotsOf, List.pairwise_append]
    refine ⟨?_, ?_, ?_⟩
    · split
      · exact pairwise_taken _ step
      · exact List.Pairwise.nil
    · split
      · exact List.Pairwise.nil
      · rename_i next answer performed
        exact ih ((perform?_effect performed).hasHistories histories)
    · intro earlier now later behind
      split at now
      · rename_i source
        obtain ⟨own, present, shown⟩ := exists_of_mem_taken source now
        rw [shown]
        -- What is taken behind this step is also taken in the whole run.
        have member : later ∈ snapshotsOf place workspace (step :: rest) := by
          rw [snapshotsOf, List.mem_append]
          exact .inr behind
        exact histories.grows_of_mem_snapshotsOf present member
      · cases now

theorem HasHistories.eq_of_snapshots_eq (histories : workspace.HasHistories) {steps : List Step}
    {first between last : String × Parts}
    (taken : [first, between, last].Sublist (snapshotsOf place workspace steps))
    (same : first.2 = last.2) : between.2 = first.2 := by
  have pairwise := (histories.pairwise_snapshotsOf place steps).sublist taken
  simp only [List.pairwise_cons, List.mem_cons, List.not_mem_nil, or_false, forall_eq_or_imp,
    forall_eq] at pairwise
  have early : first.2.Grows between.2 := pairwise.1.1
  have late : between.2.Grows last.2 := pairwise.2.1
  exact early.antisymm (same ▸ late)

end Snapshots

/-- Whether two snapshots are found to be equal when they are compared by their names. -/
def Matches (workspace : Workspace) (left right : String) : Prop :=
  workspace.perform? (.compareSnapshots left right) =
    some (workspace, ⟨.comparedSnapshots true, []⟩)

theorem matches_iff {workspace : Workspace} {left right : String} {first second : Parts}
    (named : workspace.snapshot? left = some first)
    (other : workspace.snapshot? right = some second) :
    workspace.Matches left right ↔ first = second := by
  simp only [Matches, perform?, named, other, Option.bind_eq_bind, Option.bind_some,
    Option.some.injEq, Prod.mk.injEq, Answer.mk.injEq, Reply.comparedSnapshots.injEq, and_true,
    true_and, beq_iff_eq]

/-- In every run each selector grows from one point to the next, so its parts never come back to
what they were before a change. Every snapshot is one of some selector; if two snapshots of the same
one are equal, so are all that were taken of it between them, under whatever names. -/
theorem grows_of_run? {script : List Step} {workspace : Workspace} {answers : List Answer}
    (ran : ({} : Workspace).run? script = some (workspace, answers)) :
    (∀ later next replies, workspace.run? later = some (next, replies) →
      ∀ (place : Nat) (own : Selector), workspace.selectors[place]? = some own →
        ∃ grown, next.selectors[place]? = some grown ∧ own.Grows grown ∧
          ∀ rest final others, next.run? rest = some (final, others) →
            ∀ last : Selector, final.selectors[place]? = some last →
              last.parts = own.parts → grown.parts = own.parts) ∧
    (∀ entry, entry ∈ workspace.snapshots ↔ ∃ place, entry ∈ snapshotsOf place {} script) ∧
    ∀ place first between last,
      [first, between, last].Sublist (snapshotsOf place {} script) →
        (first.2 = last.2 → between.2 = first.2 ∧ between.2 = last.2) ∧
        ((∀ entry ∈ [first, between, last], workspace.snapshot? entry.1 = some entry.2) →
          workspace.Matches first.1 last.1 →
            workspace.Matches first.1 between.1 ∧ workspace.Matches between.1 last.1) := by
  have histories : workspace.HasHistories := exists_history_of_run? ran
  refine ⟨?_, ?_, ?_⟩
  · intro later next replies goesOn place own present
    obtain ⟨known, grown, stored, growth⟩ := histories.grows goesOn present
    refine ⟨grown, stored, growth, ?_⟩
    intro rest final others ends last found back
    obtain ⟨_, same, reached, further⟩ := known.grows ends stored
    rw [found, Option.some.injEq] at reached
    have returned : grown.parts.Grows own.parts := by
      rw [← back, reached]
      exact further.parts
    exact growth.parts.antisymm returned
  · intro entry
    rw [mem_snapshots_iff ran]
    exact or_iff_right List.not_mem_nil
  · intro place first between last taken
    have equal : first.2 = last.2 → between.2 = first.2 :=
      hasHistories_empty.eq_of_snapshots_eq taken
    refine ⟨fun same => ⟨equal same, (equal same).trans same⟩, ?_⟩
    intro named found
    simp only [List.mem_cons, List.not_mem_nil, or_false, forall_eq_or_imp, forall_eq] at named
    obtain ⟨one, two, three⟩ := named
    rw [matches_iff one three] at found
    rw [matches_iff one two, matches_iff two three]
    exact ⟨(equal found).symm, (equal found).trans found⟩

/-- Under two names of one selector an empty element is added twice, which no snapshot shows. A
class and a rejected id then stand beside it, also while the selector joins itself. -/
theorem grows_of_run?_blank_element :
    ∃ workspace answers next replies grown,
      ({} : Workspace).run? [.add none ⟨.element, ""⟩ (some "s"), .snapshot "s" "p",
        .add (some "s") ⟨.element, ""⟩ (some "t"), .snapshot "t" "q", .snapshot "s" "r"] =
          some (workspace, answers) ∧
      workspace.Matches "p" "r" ∧ workspace.Matches "p" "q" ∧ workspace.Matches "q" "r" ∧
      workspace.run? [.add (some "t") ⟨.className, "a"⟩ none, .add (some "s") ⟨.id, "b"⟩ none,
        .join (some "s") "t" ">" "s" none] = some (next, replies) ∧
      next.selectors[0]? = some grown ∧
      Selector.Grows ⟨{ element := some "" }, none, some .element⟩ grown ∧
      grown = ⟨{ element := some "", id := some "#b", classes := [".a"] }, some "#b.a > #b.a",
        some .className⟩ := by
  have ran : ({} : Workspace).run? [.add none ⟨.element, ""⟩ (some "s"), .snapshot "s" "p",
      .add (some "s") ⟨.element, ""⟩ (some "t"), .snapshot "t" "q", .snapshot "s" "r"] =
        some (_, _) := rfl
  obtain ⟨growth, _, snapshots⟩ := grows_of_run? ran
  obtain ⟨grown, stored, grows, _⟩ := growth [.add (some "t") ⟨.className, "a"⟩ none,
    .add (some "s") ⟨.id, "b"⟩ none, .join (some "s") "t" ">" "s" none] _ _ rfl 0 _ rfl
  have taken : [("p", ({ element := some "" } : Parts)), ("q", { element := some "" }),
      ("r", { element := some "" })].Sublist (snapshotsOf 0 {} [.add none ⟨.element, ""⟩ (some "s"),
        .snapshot "s" "p", .add (some "s") ⟨.element, ""⟩ (some "t"), .snapshot "t" "q",
        .snapshot "s" "r"]) := List.Sublist.refl _
  have found := (snapshots 0 _ _ _ taken).2 (by decide) rfl
  exact ⟨_, _, _, _, grown, ran, rfl, found.1, found.2, rfl, stored, grows,
    (Option.some.inj stored).symm⟩

end Workspace

end CssSelector

import CssSelector.Proofs.AssemblyResult
import CssSelector.Proofs.NamedSelectors
import CssSelector.Proofs.WorkspaceAdditions

set_option autoImplicit false

namespace CssSelector

/-- Texts from left to right with the combinators between them. -/
def interlace : List String → List String → String
  | text :: texts, combinator :: combinators =>
    Selector.joinTexts text combinator (interlace texts combinators)
  | text :: _, [] => text
  | [], _ => ""

theorem interlace_append {texts combinators : List String}
    (fits : texts.length = combinators.length + 1) (combinator : String)
    (more others : List String) :
    interlace (texts ++ more) (combinators ++ combinator :: others) =
      Selector.joinTexts (interlace texts combinators) combinator (interlace more others) := by
  induction combinators generalizing texts with
  | nil =>
    obtain ⟨text, rfl⟩ := List.length_eq_one_iff.mp fits
    rfl
  | cons first rest ih =>
    cases texts with
    | nil => cases fits
    | cons text texts =>
      have shorter : texts.length = rest.length + 1 := Nat.succ.inj fits
      simp only [List.cons_append, interlace, ih shorter, Selector.joinTexts, String.append_assoc]

/-- Selectors that are joined step by step. A join gives a name to its result; it starts a new
selector, or it is called on a selector that was created for it. -/
inductive JoinTree where
  | operand (name : String)
  | join (created : Bool) (name : String) (left : JoinTree) (combinator : String) (right : JoinTree)
deriving DecidableEq

namespace JoinTree

def name : JoinTree → String
  | operand name => name
  | join _ name _ _ _ => name

def operands : JoinTree → List String
  | operand name => [name]
  | join _ _ left _ right => left.operands ++ right.operands

def combinators : JoinTree → List String
  | operand _ => []
  | join _ _ left combinator right => left.combinators ++ combinator :: right.combinators

def results : JoinTree → List String
  | operand _ => []
  | join _ name left _ right => name :: (left.results ++ right.results)

def subtrees : JoinTree → List JoinTree
  | operand name => [operand name]
  | join created name left combinator right =>
    join created name left combinator right :: (left.subtrees ++ right.subtrees)

/-- The selector that the joins lead to, when the operands are known. -/
def selector (meaning : String → Selector) : JoinTree → Selector
  | operand name => meaning name
  | join _ _ left combinator right =>
    ({} : Selector).join (left.selector meaning) combinator (right.selector meaning)

def texts (meaning : String → Selector) (tree : JoinTree) : List String :=
  tree.operands.map fun name => (meaning name).text

def joinSteps (created : Bool) (name left combinator right : String) : List Workspace.Step :=
  if created then [.create name, .join (some name) left combinator right none]
  else [.join none left combinator right (some name)]

def steps : JoinTree → List Workspace.Step
  | operand _ => []
  | join created name left combinator right =>
    left.steps ++ (right.steps ++ joinSteps created name left.name combinator right.name)

/-- Whether each join has a name of its own, which no operand has. -/
structure WellNamed (tree : JoinTree) : Prop where
  nodup : tree.results.Nodup
  apart : ∀ name ∈ tree.operands, name ∉ tree.results

theorem length_operands (tree : JoinTree) :
    tree.operands.length = tree.combinators.length + 1 := by
  induction tree with
  | operand name => rfl
  | join created name left combinator right first second =>
    simp only [operands, combinators, List.length_append, List.length_cons, first, second]
    omega

/-- The text of a tree shows its operands from left to right, whatever its shape. -/
theorem text_selector (meaning : String → Selector) (tree : JoinTree) :
    (tree.selector meaning).text = interlace (tree.texts meaning) tree.combinators := by
  induction tree with
  | operand name => rfl
  | join created name left combinator right first second =>
    have fits : (left.texts meaning).length = left.combinators.length + 1 := by
      rw [texts, List.length_map, left.length_operands]
    rw [selector, Selector.text_join, first, second, ← interlace_append fits, combinators, texts,
      texts, texts, operands, List.map_append]

def names (tree : JoinTree) : List String :=
  tree.operands ++ tree.results

theorem name_mem_names (tree : JoinTree) : tree.name ∈ tree.names := by
  cases tree with
  | operand name => exact List.mem_cons_self
  | join created name left combinator right =>
    exact List.mem_append_right _ List.mem_cons_self

theorem mem_names_join_iff {created : Bool} {name combinator other : String}
    {left right : JoinTree} :
    other ∈ (join created name left combinator right).names ↔
      other = name ∨ other ∈ left.names ∨ other ∈ right.names := by
  simp only [names, operands, results, List.mem_append, List.mem_cons]
  tauto

theorem name_mem_names_of_mem_subtrees {tree sub : JoinTree} (member : sub ∈ tree.subtrees) :
    sub.name ∈ tree.names := by
  induction tree with
  | operand name =>
    rw [List.mem_singleton.mp member]
    exact name_mem_names (operand name)
  | join created name left combinator right first second =>
    rw [subtrees, List.mem_cons, List.mem_append] at member
    rw [mem_names_join_iff]
    rcases member with rfl | inLeft | inRight
    · exact .inl rfl
    · exact .inr (.inl (first inLeft))
    · exact .inr (.inr (second inRight))

theorem self_mem_subtrees (tree : JoinTree) : tree ∈ tree.subtrees := by
  cases tree <;> exact List.mem_cons_self

/-- What the names of a tree are for the two sides of its last join: each side gives names of its
own, and neither gives one that the other side uses or that the join gives. -/
structure Separate (name : String) (left right : JoinTree) : Prop where
  wellLeft : left.WellNamed
  wellRight : right.WellNamed
  nameLeft : name ∉ left.names
  nameRight : name ∉ right.names
  results : ∀ other ∈ left.names, other ∉ right.results
  operands : ∀ other ∈ right.operands, other ∉ left.results

theorem WellNamed.separate {created : Bool} {name combinator : String} {left right : JoinTree}
    (named : (join created name left combinator right).WellNamed) :
    Separate name left right := by
  obtain ⟨nodup, apart⟩ := named
  simp only [JoinTree.results, JoinTree.operands, List.nodup_cons, List.nodup_append,
    List.mem_append, List.mem_cons, not_or] at nodup apart
  obtain ⟨⟨noLeft, noRight⟩, nodupLeft, nodupRight, distinct⟩ := nodup
  constructor
  · exact ⟨nodupLeft, fun other member => (apart other (.inl member)).2.1⟩
  · exact ⟨nodupRight, fun other member => (apart other (.inr member)).2.2⟩
  · rw [names, List.mem_append, not_or]
    exact ⟨fun member => (apart name (.inl member)).1 rfl, noLeft⟩
  · rw [names, List.mem_append, not_or]
    exact ⟨fun member => (apart name (.inr member)).1 rfl, noRight⟩
  · intro other member again
    rcases List.mem_append.mp member with operand | result
    · exact (apart other (.inl operand)).2.2 again
    · exact distinct other result other again rfl
  · exact fun other member => (apart other (.inr member)).2.1

end JoinTree

namespace Workspace

/-- Whether every selector stays as it is while only some names get another meaning. -/
structure Extends (before after : Workspace) (bound : List String) : Prop where
  selectors : ∀ (place : Nat) (selector : Selector), before.selectors[place]? = some selector →
    after.selectors[place]? = some selector
  names : ∀ name, name ∉ bound → after.place? name = before.place? name

theorem Extends.refl (workspace : Workspace) : workspace.Extends workspace [] where
  selectors _ _ present := present
  names _ _ := rfl

theorem Extends.trans {first second third : Workspace} {bound more : List String}
    (early : first.Extends second bound) (late : second.Extends third more) :
    first.Extends third (bound ++ more) where
  selectors place selector present :=
    late.selectors place selector (early.selectors place selector present)
  names := by
    intro name apart
    rw [List.mem_append, not_or] at apart
    rw [late.names name apart.2, early.names name apart.1]

theorem Extends.selector? {before after : Workspace} {bound : List String}
    (extended : before.Extends after bound) {name : String} (apart : name ∉ bound)
    {selector : Selector} (known : before.selector? name = some selector) :
    after.selector? name = some selector := by
  obtain ⟨place, means, present⟩ := selector?_eq_some_iff.mp known
  apply selector?_eq_some_iff.mpr
  exact ⟨place, (extended.names name apart).trans means, extended.selectors place selector present⟩

def start (workspace : Workspace) (name : String) (selector : Selector) : Workspace :=
  { workspace with
    selectors := workspace.selectors.push selector
    names := (name, workspace.selectors.size) :: workspace.names }

theorem extends_start (workspace : Workspace) (name : String) (selector : Selector) :
    workspace.Extends (workspace.start name selector) [name] where
  selectors := by
    intro place other present
    obtain ⟨inside, _⟩ := Array.getElem?_eq_some_iff.mp present
    rw [start, Array.getElem?_push, if_neg (Nat.ne_of_lt inside)]
    exact present
  names := by
    intro other apart
    have different : (other == name) = false := by
      simpa only [beq_eq_false_iff_ne, ne_eq, List.mem_singleton] using apart
    simp only [Workspace.place?, start, List.lookup_cons, different]

theorem selector?_start_self (workspace : Workspace) (name : String) (selector : Selector) :
    (workspace.start name selector).selector? name = some selector := by
  apply selector?_eq_some_iff.mpr
  refine ⟨workspace.selectors.size, ?_, Array.getElem?_push_size⟩
  simp only [Workspace.place?, start, List.lookup_cons_self]

theorem store_start (workspace : Workspace) (name : String) (selector : Selector) :
    (workspace.start name {}).store workspace.selectors.size selector =
      workspace.start name selector := by
  have pushed : (workspace.selectors.push {}).setIfInBounds workspace.selectors.size selector =
      workspace.selectors.push selector :=
    congrArg Workspace.selectors (store_allocate workspace selector)
  simp only [store, start, pushed]

theorem join?_of_receives {workspace opened : Workspace} {receiver? : Option String} {place : Nat}
    {own first second : Selector} {left right : String}
    (received : Receives workspace receiver? opened place own)
    (knownLeft : opened.selector? left = some first)
    (knownRight : opened.selector? right = some second) (combinator : String)
    (name? : Option String) :
    ∃ answer, workspace.join? receiver? left combinator right name? =
      some ((opened.store place (own.join first combinator second)).bind name? place, answer) := by
  have stays := isSome_selector?_store opened place (own.join first combinator second)
  have isLeft := (stays left).trans (Option.isSome_of_eq_some knownLeft)
  have isRight := (stays right).trans (Option.isSome_of_eq_some knownRight)
  obtain ⟨leftAfter, stillLeft⟩ := Option.isSome_iff_exists.mp isLeft
  obtain ⟨rightAfter, stillRight⟩ := Option.isSome_iff_exists.mp isRight
  refine ⟨⟨.joined (own.join first combinator second) leftAfter rightAfter,
    [Selector.joining first combinator second]⟩, ?_⟩
  apply join?_eq_some_iff.mpr
  exact ⟨opened, place, own, first, second, leftAfter, rightAfter, received, knownLeft, knownRight,
    stillLeft, stillRight, rfl, rfl⟩

section Joins

variable {workspace : Workspace} {left right : String} {first second : Selector}
  (knownLeft : workspace.selector? left = some first)
  (knownRight : workspace.selector? right = some second) (name combinator : String)

include knownLeft knownRight

theorem run?_join_new :
    ∃ answers, workspace.run? [.join none left combinator right (some name)] =
      some (workspace.start name (({} : Selector).join first combinator second), answers) := by
  have opened : workspace.Extends workspace.allocate.1 [] :=
    ⟨(workspace.extends_start name {}).selectors, fun _ _ => rfl⟩
  obtain ⟨answer, joined⟩ := join?_of_receives .new
    (opened.selector? List.not_mem_nil knownLeft) (opened.selector? List.not_mem_nil knownRight)
    combinator (some name)
  rw [store_allocate] at joined
  exact ⟨[answer], run?_cons_eq_some_iff.mpr ⟨_, answer, [], joined, rfl, rfl⟩⟩

/-- A join that is called on a selector created for it comes to the same. -/
theorem run?_join_created (apartLeft : left ≠ name) (apartRight : right ≠ name) :
    ∃ answers, workspace.run?
        [.create name, .join (some name) left combinator right none] =
      some (workspace.start name (({} : Selector).join first combinator second), answers) := by
  have opened := workspace.extends_start name {}
  have received : Receives (workspace.start name {}) (some name) (workspace.start name {})
      workspace.selectors.size {} := by
    apply Receives.named
    · exact place?_bind_self workspace.allocate.1 name workspace.selectors.size
    · exact Array.getElem?_push_size
  obtain ⟨answer, joined⟩ := join?_of_receives received
    (opened.selector? (by simpa only [List.mem_singleton] using apartLeft) knownLeft)
    (opened.selector? (by simpa only [List.mem_singleton] using apartRight) knownRight)
    combinator none
  rw [store_start] at joined
  have created : workspace.perform? (.create name) =
      some (workspace.start name {}, ⟨.selector {}, []⟩) := rfl
  have last : (workspace.start name {}).run? [.join (some name) left combinator right none] =
      some (workspace.start name (({} : Selector).join first combinator second), [answer]) :=
    run?_cons_eq_some_iff.mpr ⟨_, answer, [], joined, rfl, rfl⟩
  exact ⟨_, run?_cons_eq_some_iff.mpr ⟨_, _, [answer], created, last, rfl⟩⟩

/-- Either way of joining leaves the workspace with one more selector, which has the name. -/
theorem run?_joinSteps (created : Bool) (apartLeft : left ≠ name) (apartRight : right ≠ name) :
    ∃ answers, workspace.run? (JoinTree.joinSteps created name left combinator right) =
      some (workspace.start name (({} : Selector).join first combinator second), answers) := by
  cases created with
  | false => exact run?_join_new knownLeft knownRight name combinator
  | true => exact run?_join_created knownLeft knownRight name combinator apartLeft apartRight

end Joins

end Workspace

namespace JoinTree

/-- Joins can be carried out as soon as the operands are known. They leave every selector as it is,
and then each result, and each operand, is found under its name. -/
theorem run?_steps {meaning : String → Selector} (tree : JoinTree) {workspace : Workspace}
    (named : tree.WellNamed)
    (known : ∀ name ∈ tree.operands, workspace.selector? name = some (meaning name)) :
    ∃ final answers, workspace.run? tree.steps = some (final, answers) ∧
      workspace.Extends final tree.results ∧
      ∀ sub ∈ tree.subtrees, final.selector? sub.name = some (sub.selector meaning) := by
  induction tree generalizing workspace with
  | operand name =>
    refine ⟨workspace, [], rfl, .refl workspace, ?_⟩
    intro sub member
    rw [List.mem_singleton.mp member]
    exact known name List.mem_cons_self
  | join created name left combinator right first second =>
    have separate := named.separate
    obtain ⟨middle, early, ranLeft, extendedLeft, foundLeft⟩ := first separate.wellLeft
      fun other member => known other (List.mem_append_left _ member)
    have stillKnown : ∀ other ∈ right.operands, middle.selector? other = some (meaning other) := by
      intro other member
      apply extendedLeft.selector? (separate.operands other member)
      exact known other (List.mem_append_right _ member)
    obtain ⟨ready, late, ranRight, extendedRight, foundRight⟩ :=
      second separate.wellRight stillKnown
    have keptLeft : ∀ sub ∈ left.subtrees,
        ready.selector? sub.name = some (sub.selector meaning) := by
      intro sub member
      apply extendedRight.selector? _ (foundLeft sub member)
      exact separate.results sub.name (name_mem_names_of_mem_subtrees member)
    have apart : ∀ sub ∈ left.subtrees ++ right.subtrees, sub.name ≠ name := by
      intro sub member same
      rcases List.mem_append.mp member with inLeft | inRight
      · exact separate.nameLeft (same ▸ name_mem_names_of_mem_subtrees inLeft)
      · exact separate.nameRight (same ▸ name_mem_names_of_mem_subtrees inRight)
    obtain ⟨last, ranJoin⟩ := Workspace.run?_joinSteps
      (keptLeft left left.self_mem_subtrees) (foundRight right right.self_mem_subtrees)
      name combinator created
      (apart left (List.mem_append_left _ left.self_mem_subtrees))
      (apart right (List.mem_append_right _ right.self_mem_subtrees))
    have extendedJoin := ready.extends_start name
      (({} : Selector).join (left.selector meaning) combinator (right.selector meaning))
    have ranBehind :=
      Workspace.run?_append_eq_some_iff.mpr ⟨ready, late, last, ranRight, ranJoin, rfl⟩
    have ran := Workspace.run?_append_eq_some_iff.mpr ⟨middle, early, _, ranLeft, ranBehind, rfl⟩
    refine ⟨_, _, ran, ?_, ?_⟩
    · have extended := extendedLeft.trans (extendedRight.trans extendedJoin)
      refine ⟨extended.selectors, ?_⟩
      intro other absent
      apply extended.names
      simp only [results, List.mem_append, List.mem_cons, List.not_mem_nil, or_false, not_or]
        at absent ⊢
      exact ⟨absent.2.1, absent.2.2, absent.1⟩
    · intro sub member
      rw [subtrees, List.mem_cons] at member
      rcases member with rfl | below
      · exact ready.selector?_start_self name _
      · apply extendedJoin.selector? (by simpa only [List.mem_singleton] using apart sub below)
        rcases List.mem_append.mp below with inLeft | inRight
        · exact keptLeft sub inLeft
        · exact foundRight sub inRight

end JoinTree

theorem Expression.text_eq_interlace (config : Config) (expression : Expression) :
    expression.text config =
      interlace (expression.blocks.map fun block => (compound block).text)
        (expression.rest.map fun joined => config.combinator joined.1) := by
  rcases expression with ⟨first, rest⟩
  induction rest generalizing first with
  | nil => simp only [text, blocks, List.map_nil, List.map_cons, String.join_nil,
      String.append_empty, interlace]
  | cons joined rest ih =>
    have shorter := ih joined.2
    simp only [text, blocks, List.map_cons] at shorter ⊢
    rw [interlace, ← shorter, String.join_cons]
    simp only [Selector.joinTexts, String.append_assoc]

def Workspace.meaning (workspace : Workspace) (name : String) : Selector :=
  (workspace.selector? name).getD {}

/-- The text of a tree of joins depends on what is joined from left to right and on the combinators,
not on the shape of the tree; the joins of an assembly are one of the shapes. Carried out step by
step, the joins leave every selector as it is, and each name in the tree keeps the text that belongs
to it. -/
theorem JoinTree.text_of_every_shape :
    (∀ (meaning : String → Selector) (tree : JoinTree),
      (tree.selector meaning).text = interlace (tree.texts meaning) tree.combinators) ∧
    (∀ (meaning others : String → Selector) (tree other : JoinTree),
      tree.texts meaning = other.texts others → tree.combinators = other.combinators →
      (tree.selector meaning).text = (other.selector others).text) ∧
    (∀ (config : Config) (tokens : List String) (selector : Selector),
      config.kindSeparator ≠ "" → (assemble config tokens).result = .ok selector →
      ∃ expression : Expression, expression.IsWritten config tokens ∧ expression.Accepted ∧
        ∀ (meaning : String → Selector) (tree : JoinTree),
          tree.texts meaning = (expression.blocks.map fun block => (compound block).text) →
          tree.combinators = (expression.rest.map fun joined => config.combinator joined.1) →
          (tree.selector meaning).text = selector.text) ∧
    ∀ (workspace : Workspace) (tree : JoinTree), tree.WellNamed →
      (∀ name ∈ tree.operands, (workspace.selector? name).isSome) →
      ∃ final answers, workspace.run? tree.steps = some (final, answers) ∧
        (∀ (place : Nat) (selector : Selector), workspace.selectors[place]? = some selector →
          final.selectors[place]? = some selector) ∧
        ∀ sub ∈ tree.subtrees, ∃ selector, final.selector? sub.name = some selector ∧
          selector.text = interlace (sub.texts workspace.meaning) sub.combinators := by
  refine ⟨text_selector, ?_, ?_, ?_⟩
  · intro meaning others tree other sameTexts sameCombinators
    rw [text_selector, text_selector, sameTexts, sameCombinators]
  · intro config tokens selector separated assembled
    obtain ⟨reading, reads, full, rfl⟩ := reads_of_assemble separated assembled
    obtain ⟨written, accepted⟩ := reads.isWritten
    refine ⟨reading.complete, written.complete full, accepted.complete, ?_⟩
    intro meaning tree sameTexts sameCombinators
    rw [text_selector, sameTexts, sameCombinators, Expression.text_selector,
      Expression.text_eq_interlace]
  · intro workspace tree named known
    have meant : ∀ name ∈ tree.operands,
        workspace.selector? name = some (workspace.meaning name) := by
      intro name member
      obtain ⟨selector, found⟩ := Option.isSome_iff_exists.mp (known name member)
      rw [Workspace.meaning, found, Option.getD_some]
    obtain ⟨final, answers, ran, extended, found⟩ := tree.run?_steps named meant
    refine ⟨final, answers, ran, extended.selectors, ?_⟩
    intro sub member
    exact ⟨sub.selector workspace.meaning, found sub member, text_selector _ sub⟩

/-- A joined selector is joined with what comes of joining an element with it. The tree that nests
to the left has the same text. -/
theorem JoinTree.text_of_every_shape_repeated :
    ∃ workspace answers final replies top left,
      ({} : Workspace).run?
          [.add none ⟨.element, "a"⟩ (some "a"), .join none "a" ">" "a" (some "j")] =
        some (workspace, answers) ∧
      workspace.run? (join true "t" (operand "j") "+"
        (join false "s" (operand "a") "~" (operand "j"))).steps = some (final, replies) ∧
      final.selector? "t" = some top ∧ top.text = "a > a + a ~ a > a" ∧
      final.selector? "j" = some left ∧ left.text = "a > a" ∧
      ((join false "t" (join true "s" (operand "j") "+" (operand "a")) "~" (operand "j")).selector
        workspace.meaning).text = top.text := by
  have ran : ({} : Workspace).run?
      [.add none ⟨.element, "a"⟩ (some "a"), .join none "a" ">" "a" (some "j")] =
        some ({
          selectors := #[⟨{ element := some "a" }, none, some .element⟩, ⟨{}, some "a > a", none⟩]
          names := [("j", 1), ("a", 0)] }, _) := rfl
  obtain ⟨shown, same, _, carried⟩ := text_of_every_shape
  obtain ⟨final, replies, joined, _, found⟩ := carried
    { selectors := #[⟨{ element := some "a" }, none, some .element⟩, ⟨{}, some "a > a", none⟩]
      names := [("j", 1), ("a", 0)] }
    (join true "t" (operand "j") "+" (join false "s" (operand "a") "~" (operand "j")))
    ⟨by decide, by decide⟩ (by decide)
  obtain ⟨top, isTop, text⟩ := found _ (self_mem_subtrees _)
  obtain ⟨left, isLeft, leftText⟩ := found (operand "j") (by decide)
  have isText : top.text = "a > a + a ~ a > a" := text.trans (by decide)
  have isLeftText : left.text = "a > a" := leftText.trans (by decide)
  refine ⟨_, _, final, replies, top, left, ran, joined, isTop, isText, isLeft, isLeftText, ?_⟩
  rw [text, ← shown]
  exact same _ _ _ _ rfl rfl

end CssSelector

import CssSelector.Proofs.Additions
import CssSelector.Proofs.StepEffect

set_option autoImplicit false

namespace CssSelector

namespace Selector

/-- What a selector joins: itself, or another selector as that is at the time. -/
inductive Operand where
  | itself
  | other (selector : Selector)
deriving DecidableEq

def Operand.value (own : Selector) : Operand → Selector
  | itself => own
  | other selector => selector

inductive Call where
  | add (part : Part)
  | join (left : Operand) (combinator : String) (right : Operand)
deriving DecidableEq

def Call.part? : Call → Option Part
  | add part => some part
  | join _ _ _ => none

def additions (calls : List Call) : List Part :=
  calls.filterMap Call.part?

def after (selector : Selector) : Call → Selector
  | .add part => (selector.add part).selector
  | .join left combinator right =>
    selector.join (left.value selector) combinator (right.value selector)

def afterAll : Selector → List Call → Selector
  | selector, [] => selector
  | selector, call :: rest => afterAll (selector.after call) rest

def callOutcomes : Selector → List Call → List (Option PartError)
  | _, [] => []
  | selector, call :: rest =>
    (call.part?.map fun part => (selector.add part).error?).toList ++
      callOutcomes (selector.after call) rest

theorem afterAll_append (selector : Selector) (first second : List Call) :
    selector.afterAll (first ++ second) = (selector.afterAll first).afterAll second := by
  induction first generalizing selector with
  | nil => rfl
  | cons call rest ih => exact ih (selector.after call)

theorem sameParts_join (selector left : Selector) (combinator : String) (right : Selector) :
    (selector.join left combinator right).SameParts selector :=
  ⟨rfl, rfl⟩

/-- The calls on one selector and the mere additions to the other go the same way, as long as the
parts of the two are the same. -/
theorem SameParts.afterAll {left right : Selector} (same : left.SameParts right)
    (calls : List Call) :
    left.callOutcomes calls = right.outcomes (additions calls) ∧
      (left.afterAll calls).SameParts (right.addAll (additions calls)) := by
  induction calls generalizing left right with
  | nil => exact ⟨rfl, same⟩
  | cons call rest ih =>
    cases call with
    | add part =>
      obtain ⟨outcomes, final⟩ := ih (same.add part)
      refine ⟨?_, final⟩
      show (left.add part).error? :: _ = (right.add part).error? :: _
      rw [same.error?_eq part]
      exact congrArg _ outcomes
    | join first combinator second =>
      have joined := left.sameParts_join (first.value left) combinator (second.value left)
      exact ih ⟨joined.parts.trans same.parts, joined.lastCategory.trans same.lastCategory⟩

theorem joinedText_afterAll_of_additions (selector : Selector) {calls : List Call}
    (added : ∀ call ∈ calls, call.part?.isSome) :
    (selector.afterAll calls).joinedText = selector.joinedText := by
  induction calls generalizing selector with
  | nil => rfl
  | cons call rest ih =>
    have others : ∀ call ∈ rest, call.part?.isSome := by
      intro other member
      exact added other (List.mem_cons_of_mem call member)
    cases call with
    | add part => exact (ih _ others).trans (joinedText_add selector part)
    | join => cases added _ List.mem_cons_self

theorem exists_last_join {calls : List Call} (joins : ∃ call ∈ calls, call.part? = none) :
    ∃ before left combinator right rest, calls = before ++ .join left combinator right :: rest ∧
      ∀ call ∈ rest, call.part?.isSome := by
  induction calls with
  | nil =>
    obtain ⟨_, member, _⟩ := joins
    cases member
  | cons call rest ih =>
    by_cases later : ∃ other ∈ rest, other.part? = none
    · obtain ⟨before, left, combinator, right, final, rfl, added⟩ := ih later
      exact ⟨call :: before, left, combinator, right, final, rfl, added⟩
    · have added : ∀ other ∈ rest, other.part?.isSome := by
        intro other member
        rw [Option.isSome_iff_ne_none]
        exact fun missing => later ⟨other, member, missing⟩
      cases call with
      | join left combinator right => exact ⟨[], left, combinator, right, rest, rfl, added⟩
      | add part =>
        obtain ⟨other, member, missing⟩ := joins
        rcases List.mem_cons.mp member with rfl | behind
        · cases missing
        · exact absurd ⟨other, behind, missing⟩ later

/-- Without its joins a sequence of calls on a selector has the same outcomes and leaves the same
parts and the same last category. The text is that of the last join, which takes the texts that its
operands have then, and without a join it is that of the parts, category by category. -/
theorem afterAll_without_joins (selector : Selector) (calls : List Call) :
    selector.callOutcomes calls = selector.outcomes (additions calls) ∧
    (selector.afterAll calls).parts = (selector.addAll (additions calls)).parts ∧
    (selector.afterAll calls).lastCategory = (selector.addAll (additions calls)).lastCategory ∧
    ((∃ call ∈ calls, call.part? = none) →
      ∃ before left combinator right rest, calls = before ++ .join left combinator right :: rest ∧
        (∀ call ∈ rest, call.part?.isSome) ∧
        (selector.afterAll calls).text =
          joinTexts (left.value (selector.afterAll before)).text combinator
            (right.value (selector.afterAll before)).text) ∧
    ((∀ call ∈ calls, call.part?.isSome) → selector.isJoined = false →
      (selector.afterAll calls).text =
        String.join (Category.all.flatMap (selector.afterAll calls).parts.texts)) := by
  have same : selector.SameParts selector := ⟨rfl, rfl⟩
  obtain ⟨outcomes, final⟩ := same.afterAll calls
  refine ⟨outcomes, final.parts, final.lastCategory, ?_, ?_⟩
  · intro joins
    obtain ⟨before, left, combinator, right, rest, rfl, added⟩ := exists_last_join joins
    refine ⟨before, left, combinator, right, rest, rfl, added, ?_⟩
    rw [afterAll_append, text, afterAll, joinedText_afterAll_of_additions _ added]
    rfl
  · intro added unjoined
    have none : selector.joinedText = none := by
      rwa [isJoined, Option.isSome_eq_false_iff, Option.isNone_iff_eq_none] at unjoined
    rw [text, joinedText_afterAll_of_additions _ added, none, Option.getD_none]
    rfl

/-- A selector joins itself although it holds an id that it rejected, and the element that comes
late stays out of sight. -/
example : ({} : Selector).afterAll [.add ⟨.className, "a"⟩, .add ⟨.id, "b"⟩,
      .join .itself ">" .itself, .add ⟨.element, "c"⟩] =
    ⟨{ element := some "c", id := some "#b", classes := [".a"] }, some "#b.a > #b.a",
      some .className⟩ := by
  decide

end Selector

/-- What becomes of a selector in a run is what some calls on it make of it, under whatever names it
and its operands go. -/
theorem Workspace.exists_calls_of_run? {workspace final : Workspace} {steps : List Step}
    {answers : List Answer} (ran : workspace.run? steps = some (final, answers)) {place : Nat}
    {own : Selector} (present : workspace.selectors[place]? = some own) :
    ∃ calls, final.selectors[place]? = some (own.afterAll calls) := by
  refine holds_of_every_run?
    (Q := fun now => ∃ calls, now.selectors[place]? = some (own.afterAll calls)) ?_ ran
    ⟨[], present⟩
  intro before step after reply effect reached
  obtain ⟨calls, stored⟩ := reached
  obtain ⟨next, last, kept | ⟨_, change⟩⟩ := effect.next stored
  · exact ⟨calls, kept ▸ last⟩
  · cases change with
    | create name => exact ⟨calls, last⟩
    | add receiver? part name? =>
      refine ⟨calls ++ [.add part], ?_⟩
      rw [Selector.afterAll_append]
      exact last
    | join receiver? left combinator right name? now first second =>
      refine ⟨calls ++ [.join (.other first) combinator (.other second)], ?_⟩
      rw [Selector.afterAll_append]
      exact last

end CssSelector

import CssSelector.Proofs.EventReports
import CssSelector.Proofs.Frame
import CssSelector.Proofs.Rejections

set_option autoImplicit false

namespace CssSelector

/-- A fixed text hides all that is added. -/
theorem Selector.text_add_of_joined {selector : Selector} (joined : selector.isJoined = true)
    (part : Part) : (selector.add part).selector.text = selector.text :=
  (Workspace.text_of_joinedText joined (joinedText_add selector part)).2

/-- Without a fixed text a part that comes too late is shown among the others. -/
theorem Selector.text_add_of_late {selector : Selector} (unjoined : selector.isJoined = false)
    {part : Part} {category previous : Category}
    (rejected : (selector.add part).error? = some (.misplaced category previous)) :
    (selector.add part).selector.text = (selector.parts.insert part).text := by
  obtain ⟨_, free, late⟩ := error?_eq_misplaced_iff.mp rejected
  rw [add_of_overtaken selector part previous free late]
  exact text_of_unjoined _ unjoined

namespace Workspace

/-- What a step has to report, and the selectors from which the texts in its report come. -/
def Reports (before : Workspace) (step : Step) (after : Workspace) (answer : Answer) : Prop :=
  match step with
  | .add receiver? part _ =>
    ∃ opened place own next, Receives before receiver? opened place own ∧
      next = (own.add part).selector ∧ after.selectors[place]? = some next ∧
      answer.reply.error? = (own.add part).error? ∧
      Event.reports .debug answer.events =
        (answer.reply.error?.map (PartError.report next.text)).toList ∧
      (own.isJoined = true → next.text = own.text) ∧
      (own.isJoined = false → ∀ category previous,
        answer.reply.error? = some (.misplaced category previous) →
          next.text = (own.parts.insert part).text)
  | .join _ left combinator right _ =>
    ∃ first second, before.selector? left = some first ∧ before.selector? right = some second ∧
      Event.reports .debug answer.events = [joinReport first.text combinator second.text]
  | .create _ | .state _ | .text _ | .describe _ | .compare _ _ | .snapshot _ _ | .recall _
  | .compareSnapshots _ _ => Event.reports .debug answer.events = []

section Steps

variable {before after : Workspace} {answer : Answer}

theorem addPart?_reports {receiver? : Option String} {part : Part} {name? : Option String}
    (performed : before.addPart? receiver? part name? = some (after, answer)) :
    before.Reports (.add receiver? part name?) after answer := by
  obtain ⟨opened, place, own, received, outcome⟩ := addPart?_eq_some_iff.mp performed
  have stored := getElem?_store_self opened place (own.add part).selector received.inside
  have left : after.selectors[place]? = some (own.add part).selector := by
    split at outcome
    · rw [outcome.1, selectors_bind]
      exact stored
    · rw [outcome.1]
      exact stored
  have told : answer.reply.error? = (own.add part).error? ∧
      answer.events = (own.add part).events := by
    split at outcome
    · rename_i accepted
      rw [outcome.2, accepted, Selector.Addition.events, accepted]
      exact ⟨rfl, rfl⟩
    · rename_i error rejected
      rw [outcome.2, rejected]
      exact ⟨rfl, rfl⟩
  refine ⟨opened, place, own, _, received, rfl, left, told.1, ?_, ?_, ?_⟩
  · rw [told.1, told.2]
    exact (own.add part).reports_events
  · intro joined
    exact Selector.text_add_of_joined joined part
  · intro unjoined category previous rejected
    exact Selector.text_add_of_late unjoined (told.1.symm.trans rejected)

theorem join?_reports (anchored : before.Anchored) {receiver? : Option String}
    {left combinator right : String} {name? : Option String}
    (performed : before.join? receiver? left combinator right name? = some (after, answer)) :
    before.Reports (.join receiver? left combinator right name?) after answer := by
  obtain ⟨opened, place, own, first, second, _, _, received, knownLeft, knownRight, _, _, _, rfl⟩ :=
    join?_eq_some_iff.mp performed
  rw [received.selector? anchored] at knownLeft knownRight
  refine ⟨first, second, knownLeft, knownRight, ?_⟩
  rw [Event.reports_debug]
  exact congrArg (fun report => [report]) (Selector.report_joining first combinator second)

theorem perform?_reports (anchored : before.Anchored) {step : Step}
    (performed : before.perform? step = some (after, answer)) :
    before.Reports step after answer := by
  cases step with
  | create name =>
    cases performed
    rfl
  | add receiver? part name? => exact addPart?_reports performed
  | join receiver? left combinator right name? => exact join?_reports anchored performed
  | state name | text name | describe name | snapshot name other | «recall» name =>
    simp only [perform?, Option.bind_eq_bind, Option.bind_eq_some_iff, Option.some.injEq,
      Prod.mk.injEq] at performed
    obtain ⟨_, _, _, rfl⟩ := performed
    rfl
  | compare left right | compareSnapshots left right =>
    simp only [perform?, Option.bind_eq_bind, Option.bind_eq_some_iff, Option.some.injEq,
      Prod.mk.injEq] at performed
    obtain ⟨_, _, _, _, _, rfl⟩ := performed
    rfl

end Steps

theorem length_of_run? {workspace final : Workspace} {steps : List Step} {answers : List Answer}
    (ran : workspace.run? steps = some (final, answers)) : answers.length = steps.length := by
  induction steps generalizing workspace answers with
  | nil =>
    cases ran
    rfl
  | cons step rest ih =>
    obtain ⟨next, answer, others, _, ranRest, rfl⟩ := run?_cons_eq_some_iff.mp ran
    rw [List.length_cons, List.length_cons, ih ranRest]

/-- Every step of a script reports what it has to: a join the texts that its operands have before
it, even if it works on them; a rejection the text that the selector has after it; and any other
step nothing. -/
theorem reports_of_run? {earlier later : List Step} {step : Step} {final : Workspace}
    {answers : List Answer}
    (ran : ({} : Workspace).run? (earlier ++ step :: later) = some (final, answers)) :
    ∃ before after answer replies others,
      ({} : Workspace).run? earlier = some (before, replies) ∧
      before.perform? step = some (after, answer) ∧ after.run? later = some (final, others) ∧
      answers = replies ++ answer :: others ∧ replies.length = earlier.length ∧
      before.Reports step after answer := by
  obtain ⟨before, replies, rest, first, second, rfl⟩ := run?_append_eq_some_iff.mp ran
  obtain ⟨after, answer, others, performed, last, rfl⟩ := run?_cons_eq_some_iff.mp second
  have told := perform?_reports (anchored_of_run? first) performed
  exact ⟨before, after, answer, replies, others, first, performed, last, rfl, length_of_run? first,
    told⟩

/-- A selector that has kept a late id is joined with itself under another name. The next id is then
rejected by a selector of which only the fixed text is seen. -/
theorem reports_of_run?_self_join :
    (∃ (before after : Workspace) (replies : List Answer) (answer : Answer),
      ({} : Workspace).run? [.add none ⟨.className, "a"⟩ (some "s"),
        .add (some "s") ⟨.className, "b"⟩ (some "t"), .add (some "t") ⟨.id, "c"⟩ none] =
          some (before, replies) ∧
      before.perform? (.join (some "t") "s" ">" "t" none) = some (after, answer) ∧
      Event.reports .debug answer.events = [joinReport "#c.a.b" ">" "#c.a.b"]) ∧
    ∃ (before after : Workspace) (replies : List Answer) (answer : Answer),
      ({} : Workspace).run? [.add none ⟨.className, "a"⟩ (some "s"),
        .add (some "s") ⟨.className, "b"⟩ (some "t"), .add (some "t") ⟨.id, "c"⟩ none,
        .join (some "t") "s" ">" "t" none] = some (before, replies) ∧
      before.perform? (.add (some "s") ⟨.id, "d"⟩ none) = some (after, answer) ∧
      Event.reports .debug answer.events =
        [(PartError.duplicate .id).report "#c.a.b > #c.a.b"] := by
  constructor
  · have ran : ({} : Workspace).run? ([.add none ⟨.className, "a"⟩ (some "s"),
        .add (some "s") ⟨.className, "b"⟩ (some "t"), .add (some "t") ⟨.id, "c"⟩ none] ++
          [.join (some "t") "s" ">" "t" none]) = some (_, _) := rfl
    obtain ⟨before, after, answer, replies, _, first, performed, _, _, _, left, right, knownLeft,
      knownRight, told⟩ := reports_of_run? ran
    refine ⟨before, after, replies, answer, first, performed, ?_⟩
    cases first
    cases knownLeft
    cases knownRight
    exact told
  · have ran : ({} : Workspace).run? ([.add none ⟨.className, "a"⟩ (some "s"),
        .add (some "s") ⟨.className, "b"⟩ (some "t"), .add (some "t") ⟨.id, "c"⟩ none,
        .join (some "t") "s" ">" "t" none] ++ [.add (some "s") ⟨.id, "d"⟩ none]) =
          some (_, _) := rfl
    obtain ⟨before, after, answer, replies, _, first, performed, _, _, _, _, _, own, _, received,
      rfl, _, reason, told, _⟩ := reports_of_run? ran
    refine ⟨before, after, replies, answer, first, performed, ?_⟩
    cases first
    cases received with
    | named known present =>
      cases known
      cases present
      rw [reason] at told
      exact told

end Workspace

end CssSelector

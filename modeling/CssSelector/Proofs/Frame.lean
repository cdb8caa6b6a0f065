import CssSelector.Proofs.NamedSelectors

set_option autoImplicit false

namespace CssSelector.Workspace

section Effect

variable {before after : Workspace} {step : Step} {reply : Reply}

theorem Effect.others (effect : Effect before step reply after) {place : Nat}
    (apart : before.site? step.subject ≠ some place) :
    after.selectors[place]? = before.selectors[place]? := by
  cases effect.stored with
  | kept subject same => rw [same]
  | changed subject known present change put =>
    rw [subject] at apart
    rw [put, Array.getElem?_setIfInBounds_ne]
    rintro rfl
    exact apart known
  | started subject change put =>
    rw [subject] at apart
    rw [put, Array.getElem?_push, if_neg]
    rintro rfl
    exact apart rfl

end Effect

/-- The selector in a place joins others, and this is its text. -/
def JoinsTo (workspace : Workspace) (place : Nat) (text : String) : Prop :=
  ∃ selector, workspace.selectors[place]? = some selector ∧ selector.isJoined = true ∧
    selector.text = text

def Step.isJoin : Step → Bool
  | .join _ _ _ _ _ => true
  | _ => false

/-- What a step leaves alone: every selector but the one on which it works, every snapshot, and
every name if it ends with an error. A new selector is in a place that has no name, and a join takes
the texts that its operands have before it, even if it works on one of them. -/
structure Frame (before : Workspace) (step : Step) (after : Workspace) (reply : Reply) : Prop where
  others : ∀ place, before.site? step.subject ≠ some place →
    after.selectors[place]? = before.selectors[place]?
  works : ∀ place, before.site? step.subject = some place →
    ∃ own next, (if step.subject = .new then own = {} else before.selectors[place]? = some own) ∧
      step.Changes own next ∧ after.selectors[place]? = some next
  size : after.selectors.size = before.selectors.size + if step.subject = .new then 1 else 0
  apart : step.subject = .new → ∀ name, before.place? name ≠ before.site? step.subject
  snapshots : after.snapshots = before.taken step ++ before.snapshots
  names : reply.error? ≠ none → after.names = before.names
  joined : ∀ receiver? left combinator right name?,
    step = .join receiver? left combinator right name? →
    ∃ place first second, before.site? step.subject = some place ∧
      before.selector? left = some first ∧ before.selector? right = some second ∧
      after.JoinsTo place (Selector.joinTexts first.text combinator second.text)

theorem join?_joinsTo {before after : Workspace} {receiver? : Option String}
    {left combinator right : String} {name? : Option String} {answer : Answer}
    (anchored : before.Anchored)
    (performed : before.join? receiver? left combinator right name? = some (after, answer)) :
    ∃ place first second, before.site? (.ofReceiver? receiver?) = some place ∧
      before.selector? left = some first ∧ before.selector? right = some second ∧
      after.JoinsTo place (Selector.joinTexts first.text combinator second.text) := by
  obtain ⟨opened, place, own, first, second, _, _, received, knownLeft, knownRight, _, _, rfl, _⟩ :=
    join?_eq_some_iff.mp performed
  rw [received.selector? anchored] at knownLeft knownRight
  refine ⟨place, first, second, received.site, knownLeft, knownRight,
    own.join first combinator second, ?_, rfl, rfl⟩
  rw [selectors_bind]
  exact getElem?_store_self opened place _ received.inside

theorem perform?_frame {before after : Workspace} {step : Step} {answer : Answer}
    (anchored : before.Anchored) (performed : before.perform? step = some (after, answer)) :
    Frame before step after answer.reply := by
  have effect := perform?_effect performed
  refine ⟨fun _ => effect.others, fun _ => effect.works, effect.size, ?_, effect.snapshots, ?_, ?_⟩
  · intro new name
    rw [new]
    intro known
    exact Nat.lt_irrefl _ (anchored name _ known)
  · intro failed
    obtain ⟨bound, names, _, unbound⟩ := effect.names
    rw [names, unbound failed, List.nil_append]
  · rintro receiver? left combinator right name? rfl
    exact join?_joinsTo anchored performed

theorem Step.Changes.joinedText {step : Step} {own next : Selector} (change : step.Changes own next)
    (other : step.isJoin = false) : next.joinedText = own.joinedText := by
  cases change with
  | create name => rfl
  | add receiver? part name? => exact Selector.joinedText_add own part
  | join => cases other

theorem text_of_joinedText {left right : Selector} (joined : left.isJoined = true)
    (same : right.joinedText = left.joinedText) :
    right.isJoined = true ∧ right.text = left.text := by
  obtain ⟨text, known⟩ := Option.isSome_iff_exists.mp joined
  simp only [Selector.isJoined, Selector.text, same, known, Option.isSome_some, Option.getD_some,
    and_self]

/-- A joined selector keeps its text until it is joined anew, even if parts are added to it. -/
theorem Effect.joinsTo {before after : Workspace} {step : Step} {reply : Reply} {place : Nat}
    {text : String} (effect : Effect before step reply after)
    (other : step.isJoin = true → before.site? step.subject ≠ some place)
    (joins : before.JoinsTo place text) : after.JoinsTo place text := by
  obtain ⟨own, present, joined, rfl⟩ := joins
  obtain ⟨next, stored, rfl | ⟨site, change⟩⟩ := effect.next present
  · exact ⟨next, stored, joined, rfl⟩
  · have sort : step.isJoin = false := by
      cases sort : step.isJoin with
      | false => rfl
      | true => exact absurd site (other sort)
    have kept := text_of_joinedText joined (change.joinedText sort)
    exact ⟨next, stored, kept⟩

/-- In every workspace that a script leads to, a step can be carried out if its names have a
meaning, and it leaves alone what it does not work on. So a whole run keeps every selector on
which no step of it works, every snapshot, and the text of every joined selector that is not
joined anew. -/
theorem frame_of_run? {script : List Step} {workspace : Workspace} {answers : List Answer}
    (ran : ({} : Workspace).run? script = some (workspace, answers)) :
    (∀ step, (workspace.perform? step).isSome ↔ workspace.Understands step) ∧
    (∀ step after answer, workspace.perform? step = some (after, answer) →
      Frame workspace step after answer.reply) ∧
    ∀ later final replies, workspace.run? later = some (final, replies) →
      (∀ place, workspace.EachStep (fun now step => now.site? step.subject ≠ some place) later →
        final.selectors[place]? = workspace.selectors[place]?) ∧
      workspace.snapshots <:+ final.snapshots ∧
      ∀ place text, workspace.JoinsTo place text →
        workspace.EachStep (fun now step =>
          step.isJoin = true → now.site? step.subject ≠ some place) later →
        final.JoinsTo place text := by
  have anchored := anchored_of_run? ran
  refine ⟨anchored.isSome_perform?_iff, fun _ _ _ => perform?_frame anchored, ?_⟩
  intro later final replies goesOn
  refine ⟨?_, ?_, ?_⟩
  · intro place apart
    refine holds_of_run? (Q := fun now => now.selectors[place]? = workspace.selectors[place]?) ?_
      goesOn apart rfl
    intro before step after reply other effect same
    exact (effect.others other).trans same
  · refine holds_of_every_run? (Q := fun now => workspace.snapshots <:+ now.snapshots) ?_ goesOn
      List.suffix_rfl
    intro before step after reply effect kept
    rw [effect.snapshots]
    exact kept.trans (List.suffix_append _ _)
  · intro place text joins apart
    refine holds_of_run? (Q := fun now => now.JoinsTo place text) ?_ goesOn apart joins
    intro before step after reply other effect joins
    exact effect.joinsTo other joins

/-- Two names for one selector, which is joined with itself under one of them: it takes the text
that it had, and keeps it while a part is added to it and a new selector joins it with itself. -/
theorem frame_of_run?_self_join :
    ∃ workspace answers after answer final replies,
      ({} : Workspace).run? [.create "a", .add (some "a") ⟨.className, "x"⟩ (some "b")] =
        some (workspace, answers) ∧
      workspace.perform? (.join (some "b") "a" ">" "b" none) = some (after, answer) ∧
      Frame workspace (.join (some "b") "a" ">" "b" none) after answer.reply ∧
      after.JoinsTo 0 ".x > .x" ∧
      after.run? [.add (some "a") ⟨.id, "y"⟩ none, .join none "a" "+" "b" (some "c")] =
        some (final, replies) ∧
      final.JoinsTo 0 ".x > .x" := by
  have ran : ({} : Workspace).run? [.create "a", .add (some "a") ⟨.className, "x"⟩ (some "b")] =
      some (_, _) := rfl
  have joined : ({} : Workspace).run? [.create "a", .add (some "a") ⟨.className, "x"⟩ (some "b"),
      .join (some "b") "a" ">" "b" none] = some (_, _) := rfl
  refine ⟨_, _, _, _, _, _, ran, rfl, (frame_of_run? ran).2.1 _ _ _ rfl, ⟨_, rfl, rfl, rfl⟩, rfl,
    ?_⟩
  refine ((frame_of_run? joined).2.2
    [.add (some "a") ⟨.id, "y"⟩ none, .join none "a" "+" "b" (some "c")] _ _ rfl).2.2 0 ".x > .x"
    ⟨_, rfl, rfl, rfl⟩ ⟨?_, ?_⟩
  · intro joins
    cases joins
  · rintro next answer ⟨⟩
    exact ⟨fun _ => by decide, fun _ _ _ => trivial⟩

end CssSelector.Workspace

import CssSelector.Workspace

set_option autoImplicit false

namespace CssSelector.Workspace

/-- What a step works on: no selector at all, a new one, or the one that a name refers to. -/
inductive Subject where
  | nothing
  | new
  | named (name : String)
deriving DecidableEq

/-- A step without a receiver works on a new selector. -/
def Subject.ofReceiver? : Option String → Subject
  | none => .new
  | some name => .named name

/-- What a step works on. A step that only looks at selectors or snapshots works on none. -/
def Step.subject : Step → Subject
  | .create _ => .new
  | .add receiver? _ _ | .join receiver? _ _ _ _ => .ofReceiver? receiver?
  | .state _ | .text _ | .describe _ | .compare _ _ | .snapshot _ _ | .recall _
  | .compareSnapshots _ _ => .nothing

/-- What a step makes of the selector on which it works. A new one is empty before. -/
inductive Step.Changes : Step → Selector → Selector → Prop where
  | create (name : String) (own : Selector) : Changes (.create name) own own
  | add (receiver? : Option String) (part : Part) (name? : Option String) (own : Selector) :
      Changes (.add receiver? part name?) own (own.add part).selector
  | join (receiver? : Option String) (left combinator right : String) (name? : Option String)
      (own first second : Selector) :
      Changes (.join receiver? left combinator right name?) own (own.join first combinator second)

/-- The place of the selector that a step works on. A new one comes behind all that are there. -/
def site? (workspace : Workspace) : Subject → Option Nat
  | .nothing => none
  | .new => some workspace.selectors.size
  | .named name => workspace.place? name

/-- The selector that a step works on, with its place in the workspace that is ready for the
step. -/
inductive Receives (before : Workspace) : Option String → Workspace → Nat → Selector → Prop where
  | new : Receives before none before.allocate.1 before.selectors.size {}
  | named {name : String} {place : Nat} {own : Selector} (known : before.place? name = some place)
      (present : before.selectors[place]? = some own) : Receives before (some name) before place own

section Receiver

variable {before opened : Workspace} {receiver? : Option String} {place : Nat} {own : Selector}

theorem receives_iff :
    Receives before receiver? opened place own ↔
      before.receiver? receiver? = some (opened, place) ∧ opened.selectors[place]? = some own := by
  constructor
  · intro received
    cases received with
    | new => exact ⟨rfl, Array.getElem?_push_size⟩
    | named known present =>
      refine ⟨?_, present⟩
      rw [Workspace.receiver?, known, Option.map_some]
  · rintro ⟨received, present⟩
    cases receiver? with
    | none =>
      simp only [Workspace.receiver?, allocate, Option.some.injEq, Prod.mk.injEq] at received
      obtain ⟨rfl, rfl⟩ := received
      have fresh : own = {} := by simpa only [Array.getElem?_push_size, Option.some.injEq, eq_comm]
        using present
      rw [fresh]
      exact .new
    | some name =>
      simp only [Workspace.receiver?, Option.map_eq_some_iff, Prod.mk.injEq] at received
      obtain ⟨_, known, rfl, rfl⟩ := received
      exact .named known present

theorem Receives.names (received : Receives before receiver? opened place own) :
    opened.names = before.names := by
  cases received <;> rfl

theorem Receives.snapshots (received : Receives before receiver? opened place own) :
    opened.snapshots = before.snapshots := by
  cases received <;> rfl

theorem Receives.site (received : Receives before receiver? opened place own) :
    before.site? (.ofReceiver? receiver?) = some place := by
  cases received with
  | new => rfl
  | named known present => exact known

theorem Receives.inside (received : Receives before receiver? opened place own) :
    place < opened.selectors.size := by
  have present := (receives_iff.mp received).2
  obtain ⟨inside, _⟩ := Array.getElem?_eq_some_iff.mp present
  exact inside

end Receiver

/-- What adding a part comes to: the receiver keeps whatever the addition leaves, but a rejection
binds no name. -/
theorem addPart?_eq_some_iff {before after : Workspace} {receiver? : Option String} {part : Part}
    {name? : Option String} {answer : Answer} :
    before.addPart? receiver? part name? = some (after, answer) ↔
      ∃ opened place own, Receives before receiver? opened place own ∧
        match (own.add part).error? with
        | none =>
          after = (opened.store place (own.add part).selector).bind name? place ∧
            answer = ⟨.selector (own.add part).selector, []⟩
        | some error =>
          after = opened.store place (own.add part).selector ∧
            answer = ⟨.rejected error (own.add part).selector, (own.add part).events⟩ := by
  simp only [addPart?, Option.bind_eq_bind, Option.bind_eq_some_iff, Prod.exists, receives_iff,
    and_assoc, exists_and_left]
  refine exists_congr fun opened => exists_congr fun place => and_congr_right fun _ =>
    exists_congr fun own => and_congr_right fun _ => ?_
  cases (own.add part).error? <;>
    simp only [Option.some.injEq, Prod.mk.injEq, eq_comm (b := after), eq_comm (b := answer)]

/-- What joining comes to: the receiver takes the texts that the operands have before it changes. -/
theorem join?_eq_some_iff {before after : Workspace} {receiver? : Option String}
    {left combinator right : String} {name? : Option String} {answer : Answer} :
    before.join? receiver? left combinator right name? = some (after, answer) ↔
      ∃ opened place own first second leftAfter rightAfter,
        Receives before receiver? opened place own ∧
        opened.selector? left = some first ∧ opened.selector? right = some second ∧
        (opened.store place (own.join first combinator second)).selector? left = some leftAfter ∧
        (opened.store place (own.join first combinator second)).selector? right = some rightAfter ∧
        after = (opened.store place (own.join first combinator second)).bind name? place ∧
        answer = ⟨.joined (own.join first combinator second) leftAfter rightAfter,
          [Selector.joining first combinator second]⟩ := by
  simp only [join?, Option.bind_eq_bind, Option.bind_eq_some_iff, Prod.exists, Option.some.injEq,
    Prod.mk.injEq, eq_comm (b := after), eq_comm (b := answer)]
  constructor
  · rintro ⟨opened, place, received, own, present, first, knownLeft, second, knownRight, leftAfter,
      stillLeft, rightAfter, stillRight, rfl, rfl⟩
    exact ⟨opened, place, own, first, second, leftAfter, rightAfter,
      receives_iff.mpr ⟨received, present⟩, knownLeft, knownRight, stillLeft, stillRight, rfl, rfl⟩
  · rintro ⟨opened, place, own, first, second, leftAfter, rightAfter, received, knownLeft,
      knownRight, stillLeft, stillRight, rfl, rfl⟩
    obtain ⟨received, present⟩ := receives_iff.mp received
    exact ⟨opened, place, received, own, present, first, knownLeft, second, knownRight, leftAfter,
      stillLeft, rightAfter, stillRight, rfl, rfl⟩

def taken (workspace : Workspace) : Step → List (String × Parts)
  | .snapshot source name =>
    ((workspace.selector? source).map fun selector => (name, selector.parts)).toList
  | _ => []

/-- A step that works on no selector leaves everything as it was, but for a snapshot that it
takes. -/
theorem perform?_of_nothing {before after : Workspace} {step : Step} {answer : Answer}
    (idle : step.subject = .nothing) (performed : before.perform? step = some (after, answer)) :
    after = { before with snapshots := before.taken step ++ before.snapshots } := by
  cases step with
  | create name => cases idle
  | add receiver? part name? => cases receiver? <;> cases idle
  | join receiver? left combinator right name? => cases receiver? <;> cases idle
  | snapshot source name =>
    simp only [perform?, Option.bind_eq_bind, Option.bind_eq_some_iff, Option.some.injEq,
      Prod.mk.injEq] at performed
    obtain ⟨selector, known, rfl, _⟩ := performed
    simp only [taken, known, Option.map_some, Option.toList_some, List.singleton_append]
  | state name | text name | describe name | «recall» name =>
    simp only [perform?, Option.bind_eq_bind, Option.bind_eq_some_iff, Option.some.injEq,
      Prod.mk.injEq] at performed
    obtain ⟨_, _, rfl, _⟩ := performed
    rfl
  | compare left right | compareSnapshots left right =>
    simp only [perform?, Option.bind_eq_bind, Option.bind_eq_some_iff, Option.some.injEq,
      Prod.mk.injEq] at performed
    obtain ⟨_, _, _, _, rfl, _⟩ := performed
    rfl

def Reply.error? : Reply → Option PartError
  | .rejected error _ => some error
  | _ => none

/-- All that a step can do: change the selector that it receives, or look without a change. A step
that ends with an error binds no name. -/
inductive Effect (before : Workspace) (step : Step) (reply : Reply) : Workspace → Prop where
  | changed {receiver? : Option String} {opened : Workspace} {place : Nat} {own next : Selector}
      (bound? : Option String) (subject : step.subject = .ofReceiver? receiver?)
      (received : Receives before receiver? opened place own) (change : step.Changes own next)
      (unbound : reply.error? ≠ none → bound? = none) :
      Effect before step reply ((opened.store place next).bind bound? place)
  | looked (subject : step.subject = .nothing) :
      Effect before step reply { before with snapshots := before.taken step ++ before.snapshots }

theorem store_allocate (workspace : Workspace) (selector : Selector) :
    workspace.allocate.1.store workspace.selectors.size selector =
      { workspace with selectors := workspace.selectors.push selector } := by
  have pushed : (workspace.selectors.push {}).setIfInBounds workspace.selectors.size selector =
      workspace.selectors.push selector := by grind
  simp only [store, allocate, pushed]

theorem perform?_effect {before after : Workspace} {step : Step} {answer : Answer}
    (performed : before.perform? step = some (after, answer)) :
    Effect before step answer.reply after := by
  cases step with
  | create name =>
    cases performed
    have started : Effect before (.create name) (.selector {})
        ((before.allocate.1.store before.selectors.size {}).bind (some name)
          before.selectors.size) :=
      .changed (some name) rfl .new (.create name {}) fun failed => absurd rfl failed
    rwa [store_allocate] at started
  | add receiver? part name? =>
    obtain ⟨opened, place, own, received, outcome⟩ := addPart?_eq_some_iff.mp performed
    have change := Step.Changes.add receiver? part name? own
    split at outcome
    · obtain ⟨rfl, rfl⟩ := outcome
      exact .changed name? rfl received change fun failed => absurd rfl failed
    · obtain ⟨rfl, rfl⟩ := outcome
      exact .changed none rfl received change fun _ => rfl
  | join receiver? left combinator right name? =>
    obtain ⟨opened, place, own, first, second, _, _, received, _, _, _, _, rfl, rfl⟩ :=
      join?_eq_some_iff.mp performed
    have change := Step.Changes.join receiver? left combinator right name? own first second
    exact .changed name? rfl received change fun failed => absurd rfl failed
  | _ =>
    rw [perform?_of_nothing rfl performed]
    exact .looked rfl

section Effect

variable {before after : Workspace} {step : Step} {reply : Reply}

/-- The selectors that a step can leave: those that it finds, with one changed or one more. -/
inductive Stored (before : Workspace) (step : Step) (after : Workspace) : Prop where
  | kept (subject : step.subject = .nothing) (same : after.selectors = before.selectors)
  | changed {name : String} {place : Nat} {own next : Selector}
      (subject : step.subject = .named name) (known : before.place? name = some place)
      (present : before.selectors[place]? = some own)
      (change : step.Changes own next)
      (put : after.selectors = before.selectors.setIfInBounds place next)
  | started {next : Selector} (subject : step.subject = .new) (change : step.Changes {} next)
      (put : after.selectors = before.selectors.push next)

theorem Effect.stored (effect : Effect before step reply after) : Stored before step after := by
  cases effect with
  | looked subject => exact .kept subject rfl
  | changed bound? subject received change unbound =>
    cases received with
    | named known present => exact .changed subject known present change (selectors_bind ..)
    | new => exact .started subject change (by rw [selectors_bind, store_allocate])

/-- The selector on which a step works is the one that was in its place, or an empty one. -/
theorem Effect.works (effect : Effect before step reply after) {place : Nat}
    (site : before.site? step.subject = some place) :
    ∃ own next, (if step.subject = .new then own = {} else before.selectors[place]? = some own) ∧
      step.Changes own next ∧ after.selectors[place]? = some next := by
  cases effect with
  | looked subject =>
    rw [subject] at site
    cases site
  | @changed receiver? opened received? own next bound? subject received change unbound =>
    rw [subject, received.site, Option.some.injEq] at site
    subst site
    refine ⟨own, next, ?_, change, ?_⟩
    · rw [subject]
      cases received with
      | new => rfl
      | named known present => exact present
    · rw [selectors_bind]
      exact getElem?_store_self opened _ next received.inside

/-- A selector stays as it is, or a step that works on it changes it. -/
theorem Effect.next (effect : Effect before step reply after) {place : Nat} {own : Selector}
    (present : before.selectors[place]? = some own) :
    ∃ next, after.selectors[place]? = some next ∧
      (next = own ∨ before.site? step.subject = some place ∧ step.Changes own next) := by
  obtain ⟨inside, _⟩ := Array.getElem?_eq_some_iff.mp present
  cases effect.stored with
  | kept subject same => exact ⟨own, same ▸ present, .inl rfl⟩
  | started subject change put =>
    refine ⟨own, ?_, .inl rfl⟩
    rw [put, Array.getElem?_push, if_neg (Nat.ne_of_lt inside)]
    exact present
  | @changed name site earlier next subject known found change put =>
    -- Names may share a selector, so it is the places that are compared.
    by_cases here : site = place
    · subst here
      have same : earlier = own := Option.some.inj (found.symm.trans present)
      refine ⟨next, ?_, .inr ⟨subject ▸ known, same ▸ change⟩⟩
      rw [put, Array.getElem?_setIfInBounds_self_of_lt inside]
    · refine ⟨own, ?_, .inl rfl⟩
      rw [put, Array.getElem?_setIfInBounds_ne here]
      exact present

/-- What holds of an empty selector and survives every change holds of all selectors. -/
theorem Effect.forall_selectors {P : Selector → Prop} (empty : P {})
    (changed : ∀ own next, step.Changes own next → P own → P next)
    (effect : Effect before step reply after) (all : ∀ selector ∈ before.selectors, P selector) :
    ∀ selector ∈ after.selectors, P selector := by
  intro selector member
  cases effect.stored with
  | kept subject same => exact all selector (same ▸ member)
  | started subject change put =>
    rw [put, Array.mem_push] at member
    rcases member with old | rfl
    · exact all selector old
    · exact changed {} selector change empty
  | changed subject known present change put =>
    rw [put] at member
    rcases Array.mem_or_eq_of_mem_setIfInBounds member with old | rfl
    · exact all selector old
    · exact changed _ selector change (all _ (Array.mem_of_getElem? present))

/-- Snapshots stay as they are; a step that takes one puts it before the others. -/
theorem Effect.snapshots (effect : Effect before step reply after) :
    after.snapshots = before.taken step ++ before.snapshots := by
  cases effect with
  | looked subject => rfl
  | @changed receiver? opened place own next bound? subject received change unbound =>
    have none : before.taken step = [] := by
      cases step with
      | snapshot source name => cases receiver? <;> cases subject
      | _ => rfl
    rw [snapshots_bind, none, List.nil_append]
    exact received.snapshots

theorem names_bind (workspace : Workspace) (name? : Option String) (place : Nat) :
    (workspace.bind name? place).names = name?.toList.map (·, place) ++ workspace.names := by
  cases name? <;> rfl

/-- A name that a step binds stands for the selector on which the step works. -/
theorem Effect.names (effect : Effect before step reply after) :
    ∃ bound : List (String × Nat), after.names = bound ++ before.names ∧
      (∀ entry ∈ bound, before.site? step.subject = some entry.2) ∧
      (reply.error? ≠ none → bound = []) := by
  cases effect with
  | looked subject =>
    refine ⟨[], rfl, ?_, fun _ => rfl⟩
    intro entry member
    cases member
  | @changed receiver? opened place own next bound? subject received change unbound =>
    refine ⟨bound?.toList.map (·, place), ?_, ?_, ?_⟩
    · rw [names_bind]
      exact congrArg _ received.names
    · intro entry member
      obtain ⟨_, _, rfl⟩ := List.mem_map.mp member
      rw [subject]
      exact received.site
    · intro failed
      rw [unbound failed]
      rfl

end Effect

/-- Whether something holds of every step of a run, in the workspace in which it is carried out. -/
def EachStep (P : Workspace → Step → Prop) : Workspace → List Step → Prop
  | _, [] => True
  | workspace, step :: rest =>
    P workspace step ∧
      ∀ next answer, workspace.perform? step = some (next, answer) → EachStep P next rest

theorem run?_cons_eq_some_iff {workspace final : Workspace} {step : Step} {rest : List Step}
    {answers : List Answer} :
    workspace.run? (step :: rest) = some (final, answers) ↔
      ∃ next answer others, workspace.perform? step = some (next, answer) ∧
        next.run? rest = some (final, others) ∧ answers = answer :: others := by
  simp only [run?, Option.bind_eq_bind, Option.bind_eq_some_iff, Prod.exists, Option.some.injEq,
    Prod.mk.injEq]
  constructor
  · rintro ⟨next, answer, performed, _, others, ran, rfl, rfl⟩
    exact ⟨next, answer, others, performed, ran, rfl⟩
  · rintro ⟨next, answer, others, performed, ran, rfl⟩
    exact ⟨next, answer, performed, final, others, ran, rfl, rfl⟩

theorem run?_append_eq_some_iff {workspace final : Workspace} {first second : List Step}
    {answers : List Answer} :
    workspace.run? (first ++ second) = some (final, answers) ↔
      ∃ middle early late, workspace.run? first = some (middle, early) ∧
        middle.run? second = some (final, late) ∧ answers = early ++ late := by
  induction first generalizing workspace answers with
  | nil =>
    constructor
    · intro ran
      exact ⟨workspace, [], answers, rfl, ran, rfl⟩
    · rintro ⟨middle, early, late, ⟨⟩, ran, rfl⟩
      exact ran
  | cons step rest ih =>
    rw [List.cons_append, run?_cons_eq_some_iff]
    constructor
    · rintro ⟨next, answer, others, performed, ran, rfl⟩
      obtain ⟨middle, early, late, first, second, rfl⟩ := ih.mp ran
      exact ⟨middle, answer :: early, late,
        run?_cons_eq_some_iff.mpr ⟨next, answer, early, performed, first, rfl⟩, second, rfl⟩
    · rintro ⟨middle, early, late, first, second, rfl⟩
      obtain ⟨next, answer, others, performed, ran, rfl⟩ := run?_cons_eq_some_iff.mp first
      exact ⟨next, answer, others ++ late, performed,
        ih.mpr ⟨middle, others, late, ran, second, rfl⟩, rfl⟩

/-- What is kept by every step of some sort is kept by a run of such steps. -/
theorem holds_of_run? {P : Workspace → Step → Prop} {Q : Workspace → Prop}
    (kept : ∀ before step after reply, P before step → Effect before step reply after → Q before →
      Q after)
    {workspace final : Workspace} {steps : List Step} {answers : List Answer}
    (ran : workspace.run? steps = some (final, answers)) (each : workspace.EachStep P steps)
    (holds : Q workspace) : Q final := by
  induction steps generalizing workspace answers with
  | nil =>
    cases ran
    exact holds
  | cons step rest ih =>
    obtain ⟨next, answer, others, performed, ran, _⟩ := run?_cons_eq_some_iff.mp ran
    have stays := kept workspace step next answer.reply each.1 (perform?_effect performed) holds
    exact ih ran (each.2 _ _ performed) stays

theorem eachStep_of_forall {P : Workspace → Step → Prop} (all : ∀ workspace step, P workspace step)
    (workspace : Workspace) (steps : List Step) : workspace.EachStep P steps := by
  induction steps generalizing workspace with
  | nil => trivial
  | cons step rest ih => exact ⟨all workspace step, fun next _ _ => ih next⟩

/-- What is kept by every step is kept by every run. -/
theorem holds_of_every_run? {Q : Workspace → Prop}
    (kept : ∀ before step after reply, Effect before step reply after → Q before → Q after)
    {workspace final : Workspace} {steps : List Step} {answers : List Answer}
    (ran : workspace.run? steps = some (final, answers)) (holds : Q workspace) : Q final :=
  holds_of_run? (P := fun _ _ => True)
    (fun before step after reply _ => kept before step after reply) ran
    (eachStep_of_forall (fun _ _ => trivial) workspace steps) holds

end CssSelector.Workspace

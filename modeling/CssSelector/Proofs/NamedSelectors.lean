import CssSelector.Proofs.StepEffect

set_option autoImplicit false

namespace CssSelector.Workspace

/-- Every name stands for a selector that is there. -/
def Anchored (workspace : Workspace) : Prop :=
  ∀ name place, workspace.place? name = some place → place < workspace.selectors.size

theorem anchored_empty : ({} : Workspace).Anchored := by
  rintro name place known
  cases known

section Effect

variable {before after : Workspace} {step : Step} {reply : Reply}

theorem Effect.size (effect : Effect before step reply after) :
    after.selectors.size = before.selectors.size + if step.subject = .new then 1 else 0 := by
  cases effect.stored with
  | kept subject same => simp only [subject, same, reduceCtorEq, ↓reduceIte, Nat.add_zero]
  | changed subject known present change put =>
    simp only [subject, put, reduceCtorEq, ↓reduceIte, Nat.add_zero, Array.size_setIfInBounds]
  | started subject change put => simp only [subject, put, ↓reduceIte, Array.size_push]

/-- A name means what it meant, or stands for the selector on which the step works. -/
theorem Effect.place? (effect : Effect before step reply after) {name : String} {place : Nat}
    (known : after.place? name = some place) :
    before.place? name = some place ∨ before.site? step.subject = some place := by
  obtain ⟨bound, names, sites, _⟩ := effect.names
  rw [Workspace.place?, names, List.lookup_append, Option.or_eq_some_iff] at known
  rcases known with new | ⟨_, old⟩
  · obtain ⟨_, _, rfl, _⟩ := List.lookup_eq_some_iff.mp new
    exact .inr (sites (name, place) (List.mem_append_right _ List.mem_cons_self))
  · exact .inl old

theorem Effect.anchored (effect : Effect before step reply after) (anchored : before.Anchored) :
    after.Anchored := by
  intro name place known
  rcases effect.place? known with old | site
  · have inside := anchored name place old
    have size := effect.size
    omega
  · obtain ⟨_, _, _, _, stored⟩ := effect.works site
    obtain ⟨inside, _⟩ := Array.getElem?_eq_some_iff.mp stored
    exact inside

/-- While a step works on an anchored workspace, names mean what they meant before. -/
theorem Receives.selector? {before opened : Workspace} {receiver? : Option String} {place : Nat}
    {own : Selector} (received : Receives before receiver? opened place own)
    (anchored : before.Anchored) (name : String) :
    opened.selector? name = before.selector? name := by
  cases received with
  | named known present => rfl
  | new =>
    simp only [Workspace.selector?]
    cases known : before.place? name with
    | none => simp only [show before.allocate.1.place? name = none from known, Option.bind_none]
    | some place =>
      simp only [show before.allocate.1.place? name = some place from known, Option.bind_some]
      exact getElem?_allocate before (anchored name place known)

end Effect

def Step.selectorNames : Step → List String
  | .create _ | .recall _ | .compareSnapshots _ _ => []
  | .add receiver? _ _ => receiver?.toList
  | .join receiver? left _ right _ => receiver?.toList ++ [left, right]
  | .state name | .text name | .describe name | .snapshot name _ => [name]
  | .compare left right => [left, right]

def Step.snapshotNames : Step → List String
  | .recall name => [name]
  | .compareSnapshots left right => [left, right]
  | _ => []

/-- Whether every name that a step mentions has a meaning. -/
def Understands (workspace : Workspace) (step : Step) : Prop :=
  (∀ name ∈ step.selectorNames, (workspace.place? name).isSome) ∧
    ∀ name ∈ step.snapshotNames, (workspace.snapshot? name).isSome

theorem Receives.known {before opened : Workspace} {receiver? : Option String} {place : Nat}
    {own : Selector} (received : Receives before receiver? opened place own) :
    ∀ name ∈ receiver?.toList, (before.place? name).isSome := by
  cases received with
  | new =>
    intro name member
    cases member
  | named known present =>
    intro name member
    rw [List.mem_singleton.mp member, known]
    rfl

theorem isSome_selector?_store (workspace : Workspace) (place : Nat) (selector : Selector)
    (name : String) :
    ((workspace.store place selector).selector? name).isSome =
      (workspace.selector? name).isSome := by
  have stays (index : Nat) :
      (workspace.selectors.setIfInBounds place selector)[index]?.isSome =
        workspace.selectors[index]?.isSome := by grind
  have means : (workspace.store place selector).place? name = workspace.place? name := rfl
  rw [Workspace.selector?, Workspace.selector?, Option.isSome_bind, Option.isSome_bind, means]
  exact congrArg (Option.any · _) (funext stays)

section Anchored

variable {workspace : Workspace} (anchored : workspace.Anchored)

include anchored

theorem Anchored.isSome_selector? (name : String) :
    (workspace.selector? name).isSome = (workspace.place? name).isSome := by
  cases known : workspace.place? name with
  | none =>
    rw [Workspace.selector?, known]
    rfl
  | some place =>
    have inside := anchored name place known
    rw [Workspace.selector?, known, Option.bind_some, Array.getElem?_eq_getElem inside]
    rfl

theorem Anchored.exists_receives {receiver? : Option String}
    (known : ∀ name ∈ receiver?.toList, (workspace.place? name).isSome) :
    ∃ opened place own, Receives workspace receiver? opened place own := by
  cases receiver? with
  | none => exact ⟨_, _, _, .new⟩
  | some name =>
    obtain ⟨place, known⟩ := Option.isSome_iff_exists.mp (known name List.mem_cons_self)
    have inside := anchored name place known
    exact ⟨_, _, _, .named known (Array.getElem?_eq_getElem inside)⟩

theorem Anchored.isSome_addPart?_iff (receiver? : Option String) (part : Part)
    (name? : Option String) :
    (workspace.addPart? receiver? part name?).isSome ↔
      ∀ name ∈ receiver?.toList, (workspace.place? name).isSome := by
  constructor
  · intro carried
    obtain ⟨⟨after, answer⟩, added⟩ := Option.isSome_iff_exists.mp carried
    obtain ⟨opened, place, own, received, _⟩ := addPart?_eq_some_iff.mp added
    exact received.known
  · intro known
    obtain ⟨opened, place, own, received⟩ := anchored.exists_receives known
    obtain ⟨ready, present⟩ := receives_iff.mp received
    simp only [addPart?, ready, present, Option.bind_eq_bind, Option.bind_some]
    split <;> rfl

theorem Anchored.isSome_join?_iff (receiver? : Option String) (left combinator right : String)
    (name? : Option String) :
    (workspace.join? receiver? left combinator right name?).isSome ↔
      ∀ name ∈ receiver?.toList ++ [left, right], (workspace.place? name).isSome := by
  simp only [List.mem_append, or_imp, forall_and, List.mem_cons, List.not_mem_nil, or_false,
    forall_eq]
  constructor
  · intro carried
    obtain ⟨⟨after, answer⟩, joined⟩ := Option.isSome_iff_exists.mp carried
    obtain ⟨opened, place, own, first, second, _, _, received, knownLeft, knownRight, _⟩ :=
      join?_eq_some_iff.mp joined
    refine ⟨received.known, ?_, ?_⟩
    · rw [← anchored.isSome_selector?, ← received.selector? anchored, knownLeft]
      rfl
    · rw [← anchored.isSome_selector?, ← received.selector? anchored, knownRight]
      rfl
  · rintro ⟨known, knownLeft, knownRight⟩
    obtain ⟨opened, place, own, received⟩ := anchored.exists_receives known
    obtain ⟨ready, present⟩ := receives_iff.mp received
    rw [← anchored.isSome_selector?, ← received.selector? anchored] at knownLeft knownRight
    obtain ⟨first, isFirst⟩ := Option.isSome_iff_exists.mp knownLeft
    obtain ⟨second, isSecond⟩ := Option.isSome_iff_exists.mp knownRight
    have stays := isSome_selector?_store opened place (own.join first combinator second)
    obtain ⟨leftAfter, isLeft⟩ := Option.isSome_iff_exists.mp ((stays left).trans knownLeft)
    obtain ⟨rightAfter, isRight⟩ := Option.isSome_iff_exists.mp ((stays right).trans knownRight)
    simp only [join?, ready, present, isFirst, isSecond, isLeft, isRight, Option.bind_eq_bind,
      Option.bind_some, Option.isSome_some]

/-- A step can be carried out exactly if the names that it mentions have a meaning. -/
theorem Anchored.isSome_perform?_iff (step : Step) :
    (workspace.perform? step).isSome ↔ workspace.Understands step := by
  cases step with
  | create name => simp [perform?, Understands, Step.selectorNames, Step.snapshotNames]
  | add receiver? part name? =>
    simpa [perform?, Understands, Step.selectorNames, Step.snapshotNames] using
      anchored.isSome_addPart?_iff receiver? part name?
  | join receiver? left combinator right name? =>
    simpa [perform?, Understands, Step.selectorNames, Step.snapshotNames] using
      anchored.isSome_join?_iff receiver? left combinator right name?
  | state name | text name | describe name | snapshot name other =>
    simp [perform?, Understands, Step.selectorNames, Step.snapshotNames, Option.isSome_bind,
      anchored.isSome_selector?]
  | «recall» name =>
    simp [perform?, Understands, Step.selectorNames, Step.snapshotNames, Option.isSome_bind]
  | compare left right =>
    cases known : workspace.place? left <;>
      simp [perform?, Understands, Step.selectorNames, Step.snapshotNames, Option.isSome_bind,
        known]
  | compareSnapshots left right =>
    cases known : workspace.snapshot? left <;>
      simp [perform?, Understands, Step.selectorNames, Step.snapshotNames, Option.isSome_bind,
        known]

end Anchored

theorem anchored_of_run? {script : List Step} {workspace : Workspace} {answers : List Answer}
    (ran : ({} : Workspace).run? script = some (workspace, answers)) : workspace.Anchored :=
  holds_of_every_run? (fun _ _ _ _ effect => effect.anchored) ran anchored_empty

end CssSelector.Workspace

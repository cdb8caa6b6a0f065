import CssSelector.Selector

set_option autoImplicit false

namespace CssSelector

/-- Selectors by their place in the store, and what the names stand for. The latest meaning of a
name comes first. -/
structure Workspace where
  selectors : Array Selector := #[]
  names : List (String × Nat) := []
  snapshots : List (String × Parts) := []

namespace Workspace

def place? (workspace : Workspace) (name : String) : Option Nat :=
  workspace.names.lookup name

def selector? (workspace : Workspace) (name : String) : Option Selector :=
  (workspace.place? name).bind fun place => workspace.selectors[place]?

def snapshot? (workspace : Workspace) (name : String) : Option Parts :=
  workspace.snapshots.lookup name

def allocate (workspace : Workspace) : Workspace × Nat :=
  ({ workspace with selectors := workspace.selectors.push {} }, workspace.selectors.size)

/-- Puts a selector in the place of an earlier state of it. -/
def store (workspace : Workspace) (place : Nat) (selector : Selector) : Workspace :=
  { workspace with selectors := workspace.selectors.setIfInBounds place selector }

/-- Makes a name refer to a place, if a name is given. -/
def bind (workspace : Workspace) (name? : Option String) (place : Nat) : Workspace :=
  match name? with
  | none => workspace
  | some name => { workspace with names := (name, place) :: workspace.names }

@[simp] theorem selectors_bind (workspace : Workspace) (name? : Option String) (place : Nat) :
    (workspace.bind name? place).selectors = workspace.selectors := by
  cases name? <;> rfl

@[simp] theorem snapshots_bind (workspace : Workspace) (name? : Option String) (place : Nat) :
    (workspace.bind name? place).snapshots = workspace.snapshots := by
  cases name? <;> rfl

theorem getElem?_store_self (workspace : Workspace) (place : Nat) (selector : Selector)
    (present : place < workspace.selectors.size) :
    (workspace.store place selector).selectors[place]? = some selector := by
  simp only [store, Array.getElem?_setIfInBounds_self_of_lt present]

theorem getElem?_store_of_ne (workspace : Workspace) {place other : Nat} (selector : Selector)
    (apart : place ≠ other) :
    (workspace.store place selector).selectors[other]? = workspace.selectors[other]? := by
  simp only [store, Array.getElem?_setIfInBounds_ne apart]

theorem getElem?_allocate (workspace : Workspace) {place : Nat}
    (present : place < workspace.selectors.size) :
    workspace.allocate.1.selectors[place]? = workspace.selectors[place]? := by
  have apart : place ≠ workspace.selectors.size := by omega
  simp only [allocate, Array.getElem?_push, apart, ↓reduceIte]

/-- The selector that a step works on: a named one, or a new one. -/
def receiver? (workspace : Workspace) : Option String → Option (Workspace × Nat)
  | none => some workspace.allocate
  | some name => (workspace.place? name).map fun place => (workspace, place)

/-- What can be done in a workspace. A step without a receiver works on a new selector, and its
result is given a name only where it says so. -/
inductive Step where
  | create (name : String)
  | add (receiver? : Option String) (part : Part) (name? : Option String)
  | join (receiver? : Option String) (left combinator right : String) (name? : Option String)
  | state (selector : String)
  | text (selector : String)
  | describe (selector : String)
  | compare (left right : String)
  | snapshot (selector name : String)
  | recall (snapshot : String)
  | compareSnapshots (left right : String)
deriving DecidableEq

inductive Reply where
  | selector (state : Selector)
  | rejected (error : PartError) (state : Selector)
  | joined (result left right : Selector)
  | text (text : String)
  | description (text : String)
  | compared (same : Bool)
  | parts (parts : Parts)
  | recalled (parts : Parts)
  | comparedSnapshots (same : Bool)
deriving DecidableEq

structure Answer where
  reply : Reply
  events : List Event := []
deriving DecidableEq

/-- Adds a part to the receiver of a step. A rejection leaves every name as it was. -/
def addPart? (workspace : Workspace) (receiver? : Option String) (part : Part)
    (name? : Option String) : Option (Workspace × Answer) := do
  let (workspace, place) ← workspace.receiver? receiver?
  let before ← workspace.selectors[place]?
  let addition := before.add part
  let workspace := workspace.store place addition.selector
  match addition.error? with
  | none => some (workspace.bind name? place, ⟨.selector addition.selector, []⟩)
  | some error => some (workspace, ⟨.rejected error addition.selector, addition.events⟩)

/-- Makes the receiver of a step the join of two named selectors, which may be the receiver
itself. -/
def join? (workspace : Workspace) (receiver? : Option String) (left combinator right : String)
    (name? : Option String) : Option (Workspace × Answer) := do
  let (workspace, place) ← workspace.receiver? receiver?
  let before ← workspace.selectors[place]?
  let leftBefore ← workspace.selector? left
  let rightBefore ← workspace.selector? right
  let result := before.join leftBefore combinator rightBefore
  let workspace := workspace.store place result
  let leftAfter ← workspace.selector? left
  let rightAfter ← workspace.selector? right
  some (workspace.bind name? place,
    ⟨.joined result leftAfter rightAfter, [Selector.joining leftBefore combinator rightBefore]⟩)

/-- Carries out a step. Nothing comes of a step that mentions a name without a meaning. -/
def perform? (workspace : Workspace) : Step → Option (Workspace × Answer)
  | .create name =>
    let (workspace, place) := workspace.allocate
    some (workspace.bind (some name) place, ⟨.selector {}, []⟩)
  | .add receiver? part name? => workspace.addPart? receiver? part name?
  | .join receiver? left combinator right name? =>
    workspace.join? receiver? left combinator right name?
  | .state name => do
    let selector ← workspace.selector? name
    some (workspace, ⟨.selector selector, []⟩)
  | .text name => do
    let selector ← workspace.selector? name
    some (workspace, ⟨.text selector.text, []⟩)
  | .describe name => do
    let selector ← workspace.selector? name
    some (workspace, ⟨.description selector.describe, []⟩)
  | .compare left right => do
    let first ← workspace.place? left
    let second ← workspace.place? right
    some (workspace, ⟨.compared (first == second), []⟩)
  | .snapshot name snapshot => do
    let selector ← workspace.selector? name
    some ({ workspace with snapshots := (snapshot, selector.parts) :: workspace.snapshots },
      ⟨.parts selector.parts, []⟩)
  | .recall snapshot => do
    let parts ← workspace.snapshot? snapshot
    some (workspace, ⟨.recalled parts, []⟩)
  | .compareSnapshots left right => do
    let first ← workspace.snapshot? left
    let second ← workspace.snapshot? right
    some (workspace, ⟨.comparedSnapshots (first == second), []⟩)

def run? : Workspace → List Step → Option (Workspace × List Answer)
  | workspace, [] => some (workspace, [])
  | workspace, step :: rest => do
    let (workspace, answer) ← workspace.perform? step
    let (workspace, answers) ← run? workspace rest
    some (workspace, answer :: answers)

end Workspace

end CssSelector

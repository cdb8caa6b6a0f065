import CssSelector.Assembly.Token
import CssSelector.Misuse

set_option autoImplicit false

namespace CssSelector

inductive AssemblyError where
  | emptySeparator
  | malformed (error : TokenError)
  | rejected (error : PartError)
deriving DecidableEq

def AssemblyError.message : AssemblyError → String
  | .emptySeparator => "empty separator"
  | .malformed error => error.message
  | .rejected error => error.message

/-- The outcome of an attempt, and the events up to it in order. -/
structure Attempt (α : Type) where
  result : Except AssemblyError α
  events : List Event

namespace Attempt

variable {α β : Type}

def success (value : α) : Attempt α :=
  ⟨.ok value, []⟩

def failure (error : AssemblyError) (events : List Event) : Attempt α :=
  ⟨.error error, events⟩

def bind (first : Attempt α) (next : α → Attempt β) : Attempt β :=
  match first.result with
  | .ok value => ⟨(next value).result, first.events ++ (next value).events⟩
  | .error error => failure error first.events

def map (change : α → β) (first : Attempt α) : Attempt β :=
  ⟨first.result.map change, first.events⟩

@[simp] theorem bind_success (value : α) (next : α → Attempt β) :
    (success value).bind next = next value := rfl

@[simp] theorem bind_failure (error : AssemblyError) (events : List Event)
    (next : α → Attempt β) : (failure error events).bind next = failure error events := rfl

theorem bind_of_ok (first : Attempt α) (next : α → Attempt β) (value : α)
    (success : first.result = .ok value) :
    first.bind next = ⟨(next value).result, first.events ++ (next value).events⟩ := by
  simp only [bind, success]

theorem bind_of_error (first : Attempt α) (next : α → Attempt β) (error : AssemblyError)
    (failed : first.result = .error error) : first.bind next = failure error first.events := by
  simp only [bind, failed]

end Attempt

end CssSelector

import CssSelector.Category

set_option autoImplicit false

namespace CssSelector

/-- How much weight a report has, or has to have in order to be shown. -/
inductive Level where
  | debug
  | info
  | warning
  | error
deriving DecidableEq

namespace Level

def all : List Level := [debug, info, warning, error]

def name : Level → String
  | debug => "DEBUG"
  | info => "INFO"
  | warning => "WARNING"
  | error => "ERROR"

def severity : Level → Nat
  | debug => 0
  | info => 1
  | warning => 2
  | error => 3

/-- Whether a threshold lets a report of a level through. -/
def admits (threshold level : Level) : Bool :=
  threshold.severity ≤ level.severity

/-- Whether a word names a level, in any mixture of upper and lower case. -/
def IsSpelled (level : Level) (word : String) : Prop :=
  word.toList.map Char.toUpper = level.name.toList

instance (level : Level) (word : String) : Decidable (level.IsSpelled word) :=
  inferInstanceAs (Decidable (word.toList.map Char.toUpper = level.name.toList))

def ofWord? (word : String) : Option Level :=
  all.find? fun level => level.IsSpelled word

end Level

def describeSelector (text : String) : String :=
  "Selector(" ++ Text.quote text ++ ")"

/-- What is worth a report, with the texts that selectors have at that moment. -/
inductive Event where
  | combined (left combinator right : String)
  | duplicate (category : Category) (text : String)
  | misplaced (category previous : Category) (text : String)
deriving DecidableEq

namespace Event

def message : Event → String
  | combined left combinator right =>
    "combine: left=" ++ describeSelector left ++ " combinator=" ++ Text.quote combinator ++
      " right=" ++ describeSelector right
  | duplicate category text =>
    "duplicate " ++ category.label ++ " rejected in " ++ describeSelector text
  | misplaced category previous text =>
    category.label ++ " appended after " ++ previous.label ++ " in " ++ describeSelector text

/-- Every event is a detail, for those who look closely. -/
def level (_ : Event) : Level := .debug

def channel : String := "cssbuilder"

/-- The report of an event, without the end of its line. -/
def report (event : Event) : String :=
  event.level.name ++ ":" ++ channel ++ ":" ++ event.message

def reports (threshold : Level) (events : List Event) : List String :=
  (events.filter fun event => threshold.admits event.level).map report

theorem reports_append (threshold : Level) (first second : List Event) :
    reports threshold (first ++ second) = reports threshold first ++ reports threshold second := by
  simp only [reports, List.filter_append, List.map_append]

/-- The least level lets every event through. -/
theorem reports_debug (events : List Event) : reports .debug events = events.map report := by
  have all : events.filter (fun event => Level.debug.admits event.level) = events := by
    apply List.filter_eq_self.mpr
    intro event _
    rfl
  rw [reports, all]

end Event

end CssSelector

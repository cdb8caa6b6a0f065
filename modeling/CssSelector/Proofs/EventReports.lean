import CssSelector.Selector

set_option autoImplicit false

namespace CssSelector

def joinReport (left combinator right : String) : String :=
  "DEBUG:cssbuilder:" ++
    ("combine: left=" ++ describeSelector left ++ " combinator=" ++ Text.quote combinator ++
      " right=" ++ describeSelector right)

def PartError.report (text : String) : PartError → String
  | duplicate category =>
    "DEBUG:cssbuilder:" ++
      ("duplicate " ++ category.label ++ " rejected in " ++ describeSelector text)
  | misplaced category previous =>
    "DEBUG:cssbuilder:" ++
      (category.label ++ " appended after " ++ previous.label ++ " in " ++ describeSelector text)

theorem Event.report_rejection (text : String) (error : PartError) :
    (error.event text).report = error.report text := by
  cases error <;> rfl

namespace Selector

theorem report_joining (left : Selector) (combinator : String) (right : Selector) :
    (joining left combinator right).report = joinReport left.text combinator right.text := rfl

theorem Addition.reports_events (addition : Addition) :
    Event.reports .debug addition.events =
      (addition.error?.map (PartError.report addition.selector.text)).toList := by
  rw [Event.reports_debug, events]
  cases addition.error? with
  | none => rfl
  | some error => exact congrArg (fun report => [report]) (Event.report_rejection _ error)

end Selector

end CssSelector

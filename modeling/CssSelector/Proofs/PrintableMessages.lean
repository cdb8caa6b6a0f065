import CssSelector.Assembly.Attempt
import CssSelector.Proofs.PrintableTexts

set_option autoImplicit false

namespace CssSelector

theorem prints_describeSelector (text : String) : Text.Prints (describeSelector text) := by
  have opening : Text.Prints "Selector(" := by decide +kernel
  have closing : Text.Prints ")" := by decide +kernel
  exact (opening.append (Text.prints_quote text)).append closing

theorem Category.prints_label (category : Category) : Text.Prints category.label := by
  cases category <;> decide +kernel

/-- The texts in a message are quoted, and its own words are printable. -/
theorem Event.prints_message (event : Event) : Text.Prints event.message := by
  cases event with
  | combined left combinator right =>
    have opening : Text.Prints "combine: left=" := by decide +kernel
    have between : Text.Prints " combinator=" := by decide +kernel
    have behind : Text.Prints " right=" := by decide +kernel
    have operand := opening.append (prints_describeSelector left)
    have symbol := (operand.append between).append (Text.prints_quote combinator)
    exact (symbol.append behind).append (prints_describeSelector right)
  | duplicate category text =>
    have opening : Text.Prints "duplicate " := by decide +kernel
    have rejected : Text.Prints " rejected in " := by decide +kernel
    have part := (opening.append category.prints_label).append rejected
    exact part.append (prints_describeSelector text)
  | misplaced category previous text =>
    have after : Text.Prints " appended after " := by decide +kernel
    have within : Text.Prints " in " := by decide +kernel
    have order := (category.prints_label.append after).append previous.prints_label
    exact (order.append within).append (prints_describeSelector text)

theorem PartError.prints_message (error : PartError) : Text.Prints error.message := by
  have second : Text.Prints (duplicate .element).message := by decide +kernel
  have late : Text.Prints (misplaced .element .id).message := by decide +kernel
  cases error with
  | duplicate category => exact second
  | misplaced category previous => exact late

theorem TokenError.prints_message (error : TokenError) : Text.Prints error.message := by
  cases error with
  | unknownKind kind token =>
    have opening : Text.Prints "unknown part kind " := by decide +kernel
    have within : Text.Prints " in " := by decide +kernel
    exact ((opening.append (Text.prints_quote kind)).append within).append (Text.prints_quote token)
  | strayCombinator token =>
    have opening : Text.Prints "combinator " := by decide +kernel
    have closing : Text.Prints " must follow a selector part" := by decide +kernel
    exact (opening.append (Text.prints_quote token)).append closing
  | missingPart => decide +kernel

theorem AssemblyError.prints_message (error : AssemblyError) : Text.Prints error.message := by
  cases error with
  | emptySeparator => decide +kernel
  | malformed error => exact error.prints_message
  | rejected error => exact error.prints_message

theorem Event.prints_report (event : Event) : Text.Prints event.report := by
  have opening : Text.Prints "DEBUG:cssbuilder:" := by decide +kernel
  exact opening.append event.prints_message

end CssSelector

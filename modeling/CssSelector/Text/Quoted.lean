import CssSelector.Text.Printable

set_option autoImplicit false

namespace CssSelector.Text

/-- The last `width` hexadecimal digits of a number, in lower case, padded with zeros. -/
def hexDigits : Nat → Nat → List Char
  | 0, _ => []
  | width + 1, value => hexDigits width (value / 16) ++ [Nat.digitChar (value % 16)]

@[simp] theorem length_hexDigits (width value : Nat) : (hexDigits width value).length = width := by
  induction width generalizing value with
  | zero => rfl
  | succ width shorter => simp only [hexDigits, List.length_append, shorter, List.length_singleton]

/-- The escape of a character by its code, in the shortest of the three widths that holds it. -/
def codeEscape (code : Nat) : List Char :=
  if code < 0x100 then '\\' :: 'x' :: hexDigits 2 code
  else if code < 0x10000 then '\\' :: 'u' :: hexDigits 4 code
  else '\\' :: 'U' :: hexDigits 8 code

def escape (mark character : Char) : List Char :=
  if character = '\\' ∨ character = mark then ['\\', character]
  else if character = '\t' then ['\\', 't']
  else if character = '\n' then ['\\', 'n']
  else if character = '\r' then ['\\', 'r']
  else if isPrintable character then [character]
  else codeEscape character.toNat

/-- The mark around a text is single, unless only the double one spares an escape. -/
def quoteMark (text : List Char) : Char :=
  if '\x27' ∈ text ∧ '\x22' ∉ text then '\x22' else '\x27'

def quote (text : String) : String :=
  let mark := quoteMark text.toList
  String.ofList (mark :: text.toList.flatMap (escape mark) ++ [mark])

theorem toList_quote (text : String) :
    (quote text).toList =
      quoteMark text.toList :: text.toList.flatMap (escape (quoteMark text.toList)) ++
        [quoteMark text.toList] := by
  simp only [quote, String.toList_ofList]

end CssSelector.Text

import CssSelector.Text.Quoted
import Mathlib.Algebra.Group.Nat.Defs
import Mathlib.Tactic.SplitIfs

set_option autoImplicit false

namespace CssSelector.Text

def digitValue (digit : Char) : Nat :=
  if digit ≤ '9' then digit.toNat - '0'.toNat else digit.toNat - 'a'.toNat + 10

theorem digitValue_digitChar : ∀ value < 16, digitValue (Nat.digitChar value) = value := by decide

def hexValue (digits : List Char) : Nat :=
  digits.foldl (fun value digit => 16 * value + digitValue digit) 0

theorem hexValue_concat (digits : List Char) (digit : Char) :
    hexValue (digits ++ [digit]) = 16 * hexValue digits + digitValue digit := by
  simp only [hexValue, List.foldl_append, List.foldl_cons, List.foldl_nil]

theorem hexValue_hexDigits (width value : Nat) (fits : value < 16 ^ width) :
    hexValue (hexDigits width value) = value := by
  induction width generalizing value with
  | zero =>
    rw [Nat.pow_zero, Nat.lt_one_iff] at fits
    rw [fits]
    rfl
  | succ width ih =>
    have front : value / 16 < 16 ^ width := by
      rw [Nat.pow_succ] at fits
      omega
    have last : value % 16 < 16 := Nat.mod_lt value (by decide)
    rw [hexDigits, hexValue_concat, ih (value / 16) front, digitValue_digitChar _ last]
    omega

/-- Reads the character whose code stands in front of a text, and what is behind it. -/
def readCode (width : Nat) (text : List Char) : Char × List Char :=
  (Char.ofNat (hexValue (text.take width)), text.drop width)

theorem readCode_hexDigits (width : Nat) (character : Char) (fits : character.toNat < 16 ^ width)
    (rest : List Char) :
    readCode width (hexDigits width character.toNat ++ rest) = (character, rest) := by
  have size : (hexDigits width character.toNat).length = width := length_hexDigits width _
  rw [readCode, List.take_left' size, List.drop_left' size, hexValue_hexDigits width _ fits,
    Char.ofNat_toNat]

/-- Reads the character that a letter behind a backslash stands for, and what is behind it. -/
def readEscape (letter : Char) (rest : List Char) : Char × List Char :=
  if letter = 't' then ('\t', rest)
  else if letter = 'n' then ('\n', rest)
  else if letter = 'r' then ('\r', rest)
  else if letter = 'x' then readCode 2 rest
  else if letter = 'u' then readCode 4 rest
  else if letter = 'U' then readCode 8 rest
  else (letter, rest)

/-- Reads the character with which a text between quotation marks begins, and what is behind it. -/
def readCharacter? : List Char → Option (Char × List Char)
  | [] => none
  | first :: rest =>
    if first = '\\' then rest.head?.map fun letter => readEscape letter rest.tail
    else some (first, rest)

def IsMark (mark : Char) : Prop :=
  mark = '\x27' ∨ mark = '\x22'

instance (character : Char) : Decidable (IsMark character) :=
  inferInstanceAs (Decidable (character = '\x27' ∨ character = '\x22'))

theorem isMark_quoteMark (text : List Char) : IsMark (quoteMark text) := by
  unfold quoteMark
  split
  · exact .inr rfl
  · exact .inl rfl

theorem toNat_lt (character : Char) : character.toNat < 16 ^ 8 := by
  have valid : character.toNat < 0xd800 ∨ 0xdfff < character.toNat ∧ character.toNat < 0x110000 :=
    character.valid
  omega

section Marks

variable {mark : Char} (quotes : IsMark mark)

include quotes

/-- The escape of a character is a backslash with letters that are read as the character, whatever
is behind them, or it is the character itself, which is then neither a backslash nor the mark. -/
theorem escape_cases (character : Char) :
    (∃ letter more, escape mark character = '\\' :: letter :: more ∧
      ∀ rest, readEscape letter (more ++ rest) = (character, rest)) ∨
    escape mark character = [character] ∧ character ≠ '\\' ∧ character ≠ mark := by
  unfold escape codeEscape
  split_ifs with itself tab lineFeed carriageReturn printable short medium
  · refine .inl ⟨character, [], rfl, ?_⟩
    intro rest
    rcases itself with rfl | rfl
    · rfl
    · rcases quotes with rfl | rfl <;> rfl
  · exact .inl ⟨'t', [], rfl, fun rest => tab ▸ rfl⟩
  · exact .inl ⟨'n', [], rfl, fun rest => lineFeed ▸ rfl⟩
  · exact .inl ⟨'r', [], rfl, fun rest => carriageReturn ▸ rfl⟩
  · exact .inr ⟨rfl, fun backslash => itself (.inl backslash), fun same => itself (.inr same)⟩
  · exact .inl ⟨'x', _, rfl, readCode_hexDigits 2 character short⟩
  · exact .inl ⟨'u', _, rfl, readCode_hexDigits 4 character medium⟩
  · exact .inl ⟨'U', _, rfl, readCode_hexDigits 8 character (toNat_lt character)⟩

theorem readCharacter?_escape (character : Char) (rest : List Char) :
    readCharacter? (escape mark character ++ rest) = some (character, rest) := by
  rcases escape_cases quotes character with ⟨letter, more, shape, read⟩ | ⟨shape, plain, _⟩
  · rw [shape]
    exact congrArg some (read rest)
  · rw [shape, List.singleton_append, readCharacter?, if_neg plain]

/-- No escape begins with the mark, so the mark ends what is quoted. -/
theorem escape_append_ne (character : Char) (rest others : List Char) :
    escape mark character ++ rest ≠ mark :: others := by
  have backslash : '\\' ≠ mark := by
    rcases quotes with rfl | rfl <;> decide
  intro same
  rcases escape_cases quotes character with ⟨letter, more, shape, _⟩ | ⟨shape, _, apart⟩
  · rw [shape] at same
    exact backslash (List.cons.inj same).1
  · rw [shape] at same
    exact apart (List.cons.inj same).1

/-- What stands before the closing mark shows the characters that are quoted, one after the
other. -/
theorem eq_of_escapes_eq {left right rest others : List Char}
    (same : left.flatMap (escape mark) ++ mark :: rest =
      right.flatMap (escape mark) ++ mark :: others) : left = right ∧ rest = others := by
  induction left generalizing right with
  | nil =>
    cases right with
    | nil => exact ⟨rfl, (List.cons.inj same).2⟩
    | cons other right =>
      rw [List.flatMap_cons, List.append_assoc] at same
      exact absurd same.symm (escape_append_ne quotes other _ rest)
  | cons character left ih =>
    cases right with
    | nil =>
      rw [List.flatMap_cons, List.append_assoc] at same
      exact absurd same (escape_append_ne quotes character _ others)
    | cons other right =>
      rw [List.flatMap_cons, List.flatMap_cons, List.append_assoc, List.append_assoc] at same
      have read := congrArg readCharacter? same
      rw [readCharacter?_escape quotes, readCharacter?_escape quotes, Option.some.injEq,
        Prod.mk.injEq] at read
      obtain ⟨rfl, behind⟩ := read
      obtain ⟨rfl, rfl⟩ := ih behind
      exact ⟨rfl, rfl⟩

end Marks

/-- A quoted text shows what it quotes and what is behind it. -/
theorem quote_append_inj {left right rest others : String} :
    quote left ++ rest = quote right ++ others ↔ left = right ∧ rest = others := by
  constructor
  · intro same
    have lists := congrArg String.toList same
    simp only [String.toList_append, toList_quote, List.append_assoc, List.cons_append,
      List.nil_append, List.cons.injEq] at lists
    obtain ⟨marks, inner⟩ := lists
    rw [marks] at inner
    obtain ⟨texts, behind⟩ := eq_of_escapes_eq (isMark_quoteMark right.toList) inner
    exact ⟨String.toList_inj.mp texts, String.toList_inj.mp behind⟩
  · rintro ⟨rfl, rfl⟩
    rfl

theorem quote_inj {left right : String} : quote left = quote right ↔ left = right := by
  have whole : quote left ++ "" = quote right ++ "" ↔ left = right ∧ "" = "" := quote_append_inj
  rwa [String.append_empty, String.append_empty, and_iff_left rfl] at whole

end CssSelector.Text

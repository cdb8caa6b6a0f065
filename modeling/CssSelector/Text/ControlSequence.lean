set_option autoImplicit false

namespace CssSelector.Text.ControlSequence

/-- The digits and the punctuation that give a sequence its parameters. -/
def isParameter (character : Char) : Bool :=
  '0' ≤ character && character ≤ '?'

/-- The characters between the parameters and the final one. -/
def isIntermediate (character : Char) : Bool :=
  ' ' ≤ character && character ≤ '/'

/-- The character that names what the sequence does and ends it. -/
def isFinal (character : Char) : Bool :=
  '@' ≤ character && character ≤ '~'

/-- The length of the control sequence at the head of a text, if there is one. The three classes of
characters share none, so a sequence ends in one place only. -/
def length? : List Char → Option Nat
  | '\x1b' :: '[' :: rest =>
    let parameters := rest.takeWhile isParameter
    let intermediates := (rest.dropWhile isParameter).takeWhile isIntermediate
    let length := parameters.length + intermediates.length
    if rest[length]?.any isFinal then some (length + 3) else none
  | _ => none

/-- Drops the next `skipped` characters, and every control sequence after them. -/
def dropAll : Nat → List Char → List Char
  | _, [] => []
  | skipped + 1, _ :: rest => dropAll skipped rest
  | 0, first :: rest =>
    match length? (first :: rest) with
    | some length => dropAll (length - 1) rest
    | none => first :: dropAll 0 rest

/-- A text without its control sequences. -/
def strip (text : String) : String :=
  String.ofList (dropAll 0 text.toList)

theorem dropAll_append_of_plain (plain text : List Char) (absent : '\x1b' ∉ plain) :
    dropAll 0 (plain ++ text) = plain ++ dropAll 0 text := by
  induction plain with
  | nil => rfl
  | cons first rest kept =>
    rw [List.mem_cons, not_or] at absent
    have ordinary : length? (first :: (rest ++ text)) = none := by
      unfold length?
      split
      · simp_all
      · rfl
    simp only [List.cons_append, dropAll, ordinary, kept absent.2]

theorem strip_append_of_plain (plain text : String) (absent : '\x1b' ∉ plain.toList) :
    strip (plain ++ text) = plain ++ strip text := by
  apply String.toList_inj.mp
  simp only [strip, String.toList_append, String.toList_ofList,
    dropAll_append_of_plain plain.toList text.toList absent]

theorem strip_of_plain (text : String) (absent : '\x1b' ∉ text.toList) : strip text = text := by
  have whole := strip_append_of_plain text "" absent
  rwa [String.append_empty, show strip "" = "" from rfl, String.append_empty] at whole

end CssSelector.Text.ControlSequence

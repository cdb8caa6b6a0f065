import CssSelector.Proofs.QuotedTexts

set_option autoImplicit false

namespace CssSelector.Text

def Prints (text : String) : Prop :=
  ∀ character ∈ text.toList, isPrintable character = true

instance (text : String) : Decidable (Prints text) :=
  decidable_of_iff (text.toList.all isPrintable = true) List.all_eq_true

theorem Prints.append {front rest : String} (first : Prints front) (second : Prints rest) :
    Prints (front ++ rest) := by
  rw [Prints, String.toList_append, List.forall_mem_append]
  exact ⟨first, second⟩

theorem isPrintable_digitChar : ∀ value < 16, isPrintable (Nat.digitChar value) = true := by decide

theorem isPrintable_of_mem_hexDigits {width value : Nat} :
    ∀ digit ∈ hexDigits width value, isPrintable digit = true := by
  induction width generalizing value with
  | zero =>
    intro digit member
    cases member
  | succ width ih =>
    intro digit member
    rcases List.mem_append.mp member with front | last
    · exact ih digit front
    · rw [List.mem_singleton.mp last]
      exact isPrintable_digitChar (value % 16) (Nat.mod_lt value (by decide))

theorem isPrintable_of_mem_codeEscape {code : Nat} :
    ∀ character ∈ codeEscape code, isPrintable character = true := by
  unfold codeEscape
  split_ifs
  all_goals
    refine List.forall_mem_cons.mpr ⟨by decide, List.forall_mem_cons.mpr ⟨by decide, ?_⟩⟩
    exact isPrintable_of_mem_hexDigits

/-- What a character is written as is printable, even if the character is not. -/
theorem isPrintable_of_mem_escape {mark : Char} (quotes : IsMark mark) (character : Char) :
    ∀ written ∈ escape mark character, isPrintable written = true := by
  have markPrints : isPrintable mark = true := by
    rcases quotes with rfl | rfl <;> decide
  unfold escape
  split_ifs with itself tab lineFeed carriageReturn printable
  · have plain : isPrintable character = true := by
      rcases itself with rfl | rfl
      · decide
      · exact markPrints
    exact List.forall_mem_cons.mpr ⟨by decide, List.forall_mem_singleton.mpr plain⟩
  · exact List.all_eq_true.mp (by decide)
  · exact List.all_eq_true.mp (by decide)
  · exact List.all_eq_true.mp (by decide)
  · exact List.forall_mem_singleton.mpr printable
  · exact isPrintable_of_mem_codeEscape

theorem prints_quote (text : String) : Prints (quote text) := by
  have quotes := isMark_quoteMark text.toList
  have markPrints : isPrintable (quoteMark text.toList) = true := by
    rcases quotes with mark | mark <;> rw [mark] <;> decide
  intro character member
  rw [toList_quote, List.mem_append, List.mem_cons, List.mem_flatMap, List.mem_singleton] at member
  rcases member with (rfl | ⟨quoted, _, written⟩) | rfl
  · exact markPrints
  · exact isPrintable_of_mem_escape quotes quoted character written
  · exact markPrints

/-- The characters that end a line for one reader or another. -/
def lineBreaks : List Char :=
  ['\n', '\x0b', '\x0c', '\r', '\x1c', '\x1d', '\x1e', '\u0085', '\u2028', '\u2029']

/-- The lines of a text, with what is behind the last line break. -/
def lines (text : String) : List String :=
  (text.toList.splitOnP (· ∈ lineBreaks)).map String.ofList

theorem isPrintable_of_mem_lineBreaks :
    ∀ character ∈ lineBreaks, isPrintable character = false := by
  have none : lineBreaks.all (fun character => !isPrintable character) = true := by decide +kernel
  intro character member
  exact (Bool.not_eq_true' _).mp (List.all_eq_true.mp none character member)

/-- A text that can be shown as it is: its characters are printable, it is a single line, and no
command to a terminal begins in it. -/
structure IsInert (text : String) : Prop where
  prints : Prints text
  single : lines text = [text]
  unescaped : '\x1b' ∉ text.toList

theorem Prints.not_mem_lineBreaks {text : String} (prints : Prints text) :
    ∀ character ∈ text.toList, decide (character ∈ lineBreaks) = false := by
  intro character member
  apply decide_eq_false
  intro ends
  exact Bool.false_ne_true ((isPrintable_of_mem_lineBreaks character ends).symm.trans
    (prints character member))

theorem Prints.isInert {text : String} (prints : Prints text) : IsInert text where
  prints := prints
  single := by
    rw [lines, List.splitOnP_eq_singleton prints.not_mem_lineBreaks, List.map_singleton,
      String.ofList_toList]
  unescaped member := by
    have escaped := prints _ member
    revert escaped
    decide

/-- Printable texts with a line break behind each are the lines that are read. -/
theorem lines_join {texts : List String} (prints : ∀ text ∈ texts, Prints text) :
    lines (String.join (texts.map (· ++ "\n"))) = texts ++ [""] := by
  induction texts with
  | nil => rfl
  | cons text rest ih =>
    obtain ⟨first, others⟩ := List.forall_mem_cons.mp prints
    have split : (text ++ "\n" ++ String.join (rest.map (· ++ "\n"))).toList =
        text.toList ++ '\n' :: (String.join (rest.map (· ++ "\n"))).toList := by
      rw [String.toList_append, String.toList_append, List.append_assoc]
      rfl
    rw [List.map_cons, String.join_cons, lines, split,
      List.splitOnP_append_cons_of_forall_mem first.not_mem_lineBreaks '\n' (by decide),
      List.map_cons, String.ofList_toList, List.cons_append]
    exact congrArg (text :: ·) (ih others)

end CssSelector.Text

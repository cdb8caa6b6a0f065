import CssSelector.Assembly
import CssSelector.Proofs.Additions
import CssSelector.Proofs.FirstOccurrence
import Mathlib.Data.List.Forall2

set_option autoImplicit false

namespace CssSelector

def compound (block : List Part) : Selector :=
  ({} : Selector).addAll block

/-- A token writes a part if the first separator in it stands behind the keyword of its category. -/
def Part.IsWritten (config : Config) (part : Part) (token : String) : Prop :=
  Text.FirstCut config.kindSeparator token part.category.keyword part.token

theorem Part.IsWritten.unique {config : Config} {part other : Part} {token : String}
    (written : part.IsWritten config token) (again : other.IsWritten config token) :
    part = other := by
  obtain ⟨keyword, value⟩ := Text.FirstCut.unique written again
  have same := congrArg Category.ofKeyword? keyword
  rw [Category.ofKeyword?_keyword, Category.ofKeyword?_keyword, Option.some.injEq] at same
  rcases part with ⟨category, text⟩
  rcases other with ⟨otherCategory, otherText⟩
  simp only at same value
  rw [same, value]

theorem read?_eq_part_iff {separator token kind value : String} (separated : separator ≠ "") :
    Token.read? separator token = some (.part kind value) ↔
      Text.FirstCut separator token kind value := by
  rw [← Text.splitOnce?_eq_some_iff, Token.read?, if_neg separated]
  split
  · rename_i before after found
    rw [found, Option.some.injEq, Option.some.injEq, Token.part.injEq, Prod.mk.injEq]
  · rename_i missing
    rw [missing]
    simp only [Option.some.injEq, reduceCtorEq]

theorem read?_of_not_occurs {separator token : String} (separated : separator ≠ "")
    (absent : ¬ Text.Occurs separator token) :
    Token.read? separator token = some (.combinator token) := by
  rw [Token.read?, if_neg separated, Text.splitOnce?_eq_none_iff.mpr absent]

/-- A token writes a part, or it has a separator behind a word that is no keyword, or none at
all. -/
theorem token_cases (config : Config) (token : String) :
    (∃ part : Part, part.IsWritten config token) ∨
      (∃ kind value, Text.FirstCut config.kindSeparator token kind value ∧
        Category.ofKeyword? kind = none) ∨
      ¬ Text.Occurs config.kindSeparator token := by
  cases split : Text.splitOnce? token config.kindSeparator with
  | none => exact .inr (.inr (Text.splitOnce?_eq_none_iff.mp split))
  | some sides =>
    rcases sides with ⟨kind, value⟩
    have cut := Text.splitOnce?_eq_some_iff.mp split
    cases known : Category.ofKeyword? kind with
    | none => exact .inr (.inl ⟨kind, value, cut, known⟩)
    | some category =>
      rw [← Category.keyword_of_ofKeyword? known] at cut
      exact .inl ⟨⟨category, value⟩, cut⟩

/-- A compound selector, and any number of others with a combinator in front of each. -/
structure Expression where
  first : List Part
  rest : List (String × List Part) := []

namespace Expression

def extend (expression : Expression) (symbol : String) (block : List Part) : Expression :=
  { expression with rest := expression.rest ++ [(symbol, block)] }

def blocks (expression : Expression) : List (List Part) :=
  expression.first :: expression.rest.map Prod.snd

def Accepted (expression : Expression) : Prop :=
  ∀ block ∈ expression.blocks, ({} : Selector).Accepts block

/-- The texts of the compound selectors, with what their combinators stand for between them. -/
def text (config : Config) (expression : Expression) : String :=
  (compound expression.first).text ++
    String.join (expression.rest.map fun (symbol, block) =>
      " " ++ config.combinator symbol ++ " " ++ (compound block).text)

/-- The selector that an expression stands for. A single compound selector stands for itself; any
more of them make a selector that has nothing but their text. -/
def selector (config : Config) (expression : Expression) : Selector :=
  if expression.rest = [] then compound expression.first
  else { joinedText := some (expression.text config) }

/-- Tokens write an expression if each of its compound selectors has parts and is written by their
tokens in order, and its combinators are tokens without a separator. -/
inductive IsWritten (config : Config) : Expression → List String → Prop where
  | compound {block : List Part} {tokens : List String} (full : block ≠ [])
      (written : List.Forall₂ (Part.IsWritten config) block tokens) :
      IsWritten config { first := block } tokens
  | extend {expression : Expression} {before : List String} {symbol : String} {block : List Part}
      {tokens : List String} (left : IsWritten config expression before)
      (bare : ¬ Text.Occurs config.kindSeparator symbol) (full : block ≠ [])
      (written : List.Forall₂ (Part.IsWritten config) block tokens) :
      IsWritten config (expression.extend symbol block) (before ++ symbol :: tokens)

theorem accepted_extend (expression : Expression) (symbol : String) (block : List Part) :
    (expression.extend symbol block).Accepted ↔
      expression.Accepted ∧ ({} : Selector).Accepts block := by
  simp only [Accepted, blocks, extend, List.map_append, List.map_cons, List.map_nil,
    List.mem_cons, List.mem_append, List.not_mem_nil, or_false, or_imp, forall_and, forall_eq,
    and_assoc]

theorem text_extend (config : Config) (expression : Expression) (symbol : String)
    (block : List Part) :
    (expression.extend symbol block).text config =
      Selector.joinTexts (expression.text config) (config.combinator symbol)
        (compound block).text := by
  simp only [text, extend, List.map_append, List.map_cons, List.map_nil, String.join_append,
    String.join_cons, String.join_nil, String.append_empty, Selector.joinTexts, String.append_assoc]

theorem text_selector (config : Config) (expression : Expression) :
    (expression.selector config).text = expression.text config := by
  rcases expression with ⟨first, rest⟩
  cases rest with
  | nil =>
    simp only [selector, ↓reduceIte, text, List.map_nil, String.join_nil, String.append_empty]
  | cons joined rest => rfl

theorem selector_extend (config : Config) (expression : Expression) (symbol : String)
    (block : List Part) :
    (expression.extend symbol block).selector config =
      ({} : Selector).join (expression.selector config) (config.combinator symbol)
        (compound block) := by
  have longer : (expression.extend symbol block).rest ≠ [] := by
    simp only [extend, ne_eq, List.append_eq_nil_iff, List.cons_ne_self, and_false,
      not_false_eq_true]
  rw [selector, if_neg longer, Selector.join, text_selector, text_extend]

end Expression

end CssSelector

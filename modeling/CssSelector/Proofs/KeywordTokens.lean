import CssSelector.Proofs.AssemblyResult

set_option autoImplicit false

namespace CssSelector

namespace Text

theorem Occurs.exists_firstCut {separator text : String} (occurs : Occurs separator text) :
    ∃ before after, FirstCut separator text before after := by
  cases found : splitOnce? text separator with
  | none => exact absurd found (splitOnce?_ne_none occurs)
  | some sides => exact ⟨sides.1, sides.2, firstCut_of_splitOnce? found⟩

end Text

namespace Category

/-- Whether a separator that is put behind the keyword of a category first occurs there. -/
def IsSetOff (category : Category) (separator : String) : Prop :=
  Text.FirstCut separator (category.keyword ++ separator) category.keyword ""

instance (category : Category) (separator : String) : Decidable (category.IsSetOff separator) :=
  decidable_of_iff _ Text.splitOnce?_eq_some_iff

theorem isSetOff_colon (category : Category) : category.IsSetOff ":" := by
  cases category <;> decide

/-- No keyword begins with another one. -/
theorem eq_of_keyword_prefix {category other : Category}
    (begins : category.keyword.toList <+: other.keyword.toList) : category = other := by
  revert begins
  cases category <;> cases other <;> decide

/-- A separator that overlaps with a keyword leaves a word in front of it that is no keyword. -/
theorem exists_cut_of_not_isSetOff {category : Category} {separator : String}
    (overlaps : ¬ category.IsSetOff separator) :
    ∃ kind rest, Text.FirstCut separator (category.keyword ++ separator) kind rest ∧
      ∀ other : Category, other.keyword ≠ kind := by
  have occurs : Text.Occurs separator (category.keyword ++ separator) :=
    ⟨category.keyword, "", by rw [String.append_empty]⟩
  obtain ⟨kind, rest, cut⟩ := occurs.exists_firstCut
  refine ⟨kind, rest, cut, ?_⟩
  rintro other rfl
  have shorter : other.keyword.length ≤ category.keyword.length :=
    cut.first category.keyword "" (by rw [String.append_empty])
  have whole := congrArg String.toList cut.whole
  simp only [String.toList_append, List.append_assoc] at whole
  have begins : other.keyword.toList <+: category.keyword.toList := by
    apply List.prefix_of_prefix_length_le ⟨_, whole.symm⟩ (List.prefix_append _ _)
    simpa only [String.length_toList] using shorter
  have same : other = category := eq_of_keyword_prefix begins
  subst same
  -- Now nothing is left behind the separator, so the cut is the one that was excluded.
  have empty : rest = "" := by
    have size := congrArg String.length cut.whole
    simp only [String.length_append] at size
    apply String.length_eq_zero_iff.mp
    omega
  subst empty
  exact overlaps cut

end Category

theorem Selector.add_new (part : Part) :
    ({} : Selector).add part =
      ⟨{ parts := ({} : Parts).insert part, lastCategory := some part.category }, none⟩ := by
  apply add_of_accepted
  · simp only [Parts.isTaken, Parts.texts_empty, List.any_nil, Bool.and_false]
  · exact overtaken?_of_none _ _ rfl

/-- A token of a keyword, the separator and a value is assembled to the part that it is put together
from, if the separator first occurs behind the keyword. Otherwise the word in front of it is no
keyword, whatever the value is. Behind a colon every value arrives. -/
theorem assemble_keyword_token (config : Config) (separated : config.kindSeparator ≠ "") :
    (∀ category : Category, category.IsSetOff config.kindSeparator → ∀ value : String,
      ∃ selector, ({} : Selector).add ⟨category, value⟩ = ⟨selector, none⟩ ∧
        (assemble config [category.keyword ++ config.kindSeparator ++ value]).result =
          .ok selector) ∧
    (∀ category : Category, ¬ category.IsSetOff config.kindSeparator →
      ∃ kind rest,
        Text.FirstCut config.kindSeparator (category.keyword ++ config.kindSeparator) kind rest ∧
        (∀ other : Category, other.keyword ≠ kind) ∧
        ∀ value : String,
          (assemble config [category.keyword ++ config.kindSeparator ++ value]).result =
            .error (.malformed
              (.unknownKind kind (category.keyword ++ config.kindSeparator ++ value)))) ∧
    (config.kindSeparator = ":" →
      ∀ category : Category, category.IsSetOff config.kindSeparator) := by
  refine ⟨?_, ?_, ?_⟩
  · intro category setOff value
    have accepted := Selector.add_new ⟨category, value⟩
    refine ⟨_, accepted, ?_⟩
    have cut := Text.FirstCut.append setOff value
    rw [String.empty_append] at cut
    have written : Part.IsWritten config ⟨category, value⟩
        (category.keyword ++ config.kindSeparator ++ value) := cut
    have reads := Reads.start.part written (congrArg Selector.Addition.error? accepted)
    rw [List.nil_append] at reads
    have assembled := assemble_of_reads separated reads (List.cons_ne_nil _ _)
    rw [assembled]
    exact congrArg Except.ok (congrArg Selector.Addition.selector accepted)
  · intro category overlaps
    obtain ⟨kind, rest, cut, unknown⟩ := Category.exists_cut_of_not_isSetOff overlaps
    refine ⟨kind, rest, cut, unknown, ?_⟩
    intro value
    have sound : ¬ HasFault config [] := by
      rintro ⟨before, token, after, _, whole, _⟩
      exact List.append_ne_nil_of_right_ne_nil before (List.cons_ne_nil token after) whole.symm
    exact assemble_of_fault separated sound (.unknownKind (cut.append value) unknown) []
  · intro colon category
    rw [colon]
    exact category.isSetOff_colon

/-- Two letters of a separator are too many behind an id, whose keyword ends with one of them, and
do no harm behind a class, even if the value begins with the separator. -/
theorem assemble_keyword_token_doubled :
    (assemble { kindSeparator := "dd" } ["id" ++ "dd" ++ "a"]).result =
        .error (.malformed (.unknownKind "i" "iddda")) ∧
      (assemble { kindSeparator := "dd" } ["class" ++ "dd" ++ "ddd"]).result =
        .ok { parts := { classes := [".ddd"] }, lastCategory := some .className } := by
  obtain ⟨whole, cutShort, _⟩ := assemble_keyword_token { kindSeparator := "dd" } (by decide)
  obtain ⟨kind, rest, cut, _, failed⟩ := cutShort .id (by decide)
  obtain ⟨selector, added, assembled⟩ := whole .className (by decide) "ddd"
  have early : Text.FirstCut "dd" ("id" ++ "dd") "i" "d" :=
    Text.splitOnce?_eq_some_iff.mp (by decide)
  have same : kind = "i" := (cut.unique early).1
  subst same
  refine ⟨failed "a", ?_⟩
  have result : selector = { parts := { classes := [".ddd"] }, lastCategory := some .className } :=
    congrArg Selector.Addition.selector (added.symm.trans (Selector.add_new _))
  rw [← result]
  exact assembled

end CssSelector

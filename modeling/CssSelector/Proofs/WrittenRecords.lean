import CssSelector.Config
import CssSelector.Parts
import CssSelector.Proofs.NamedSelectors
import CssSelector.Proofs.QuotedTexts

set_option autoImplicit false

namespace CssSelector

namespace Text

theorem getElem?_append_of_some {front : String} {index : Nat} {character : Char}
    (known : front.toList[index]? = some character) (rest : String) :
    (front ++ rest).toList[index]? = some character := by
  obtain ⟨inside, _⟩ := List.getElem?_eq_some_iff.mp known
  rw [String.toList_append, List.getElem?_append_left inside, known]

/-- Texts that differ in some character differ whatever is behind them. -/
theorem append_ne_of_getElem? {front back : String} {first second : Char} (index : Nat)
    (known : front.toList[index]? = some first) (other : back.toList[index]? = some second)
    (apart : first ≠ second) (rest others : String) : front ++ rest ≠ back ++ others := by
  intro same
  have alike := getElem?_append_of_some known rest
  rw [same, getElem?_append_of_some other others] at alike
  exact apart (Option.some.inj alike).symm

theorem getElem?_quote (text : String) :
    (quote text).toList[0]? = some (quoteMark text.toList) := by
  rw [toList_quote, List.cons_append, List.getElem?_cons_zero]

theorem quoteMark_ne {character : Char} (other : ¬ IsMark character) (text : List Char) :
    quoteMark text ≠ character := by
  intro same
  exact other (same ▸ isMark_quoteMark text)

/-- What is behind a quoted text in brackets, if other quoted texts follow it. -/
def behind : List String → String
  | [] => ")"
  | text :: more => ", " ++ (quote text ++ behind more)

theorem intercalate_quotes (first : String) (more : List String) :
    String.intercalate ", " ((first :: more).map quote) ++ ")" = quote first ++ behind more := by
  induction more generalizing first with
  | nil => rw [List.map_cons, List.map_nil, String.intercalate_singleton, behind]
  | cons next more ih =>
    rw [List.map_cons, List.map_cons, String.intercalate_cons_cons, String.append_assoc,
      ← List.map_cons, ih, behind, String.append_assoc]

/-- The texts that follow show how many they are. -/
theorem behind_append_inj {left right : List String} {rest others : String} :
    behind left ++ rest = behind right ++ others ↔ left = right ∧ rest = others := by
  induction left generalizing right with
  | nil =>
    cases right with
    | nil => simp only [String.append_right_inj, true_and]
    | cons next right =>
      have apart : ")" ++ rest ≠ ", " ++ (quote next ++ behind right ++ others) :=
        append_ne_of_getElem? 0 rfl rfl (by decide) _ _
      simp only [behind, String.append_assoc] at apart ⊢
      simp only [apart, reduceCtorEq, false_and]
  | cons text left ih =>
    cases right with
    | nil =>
      have apart : ", " ++ (quote text ++ behind left ++ rest) ≠ ")" ++ others :=
        append_ne_of_getElem? 0 rfl rfl (by decide) _ _
      simp only [behind, String.append_assoc] at apart ⊢
      simp only [apart, reduceCtorEq, false_and]
    | cons next right =>
      simp only [behind, String.append_assoc, String.append_right_inj, quote_append_inj, ih,
        List.cons.injEq, and_assoc]

/-- What is behind the first quoted text in brackets. A text that is alone keeps a comma behind
it. -/
def behindFirst : List String → String
  | [] => ",)"
  | next :: more => behind (next :: more)

theorem behindFirst_append_inj {left right : List String} {rest others : String} :
    behindFirst left ++ rest = behindFirst right ++ others ↔ left = right ∧ rest = others := by
  cases left with
  | nil =>
    cases right with
    | nil => simp only [String.append_right_inj, true_and]
    | cons next right =>
      have apart : ",)" ++ rest ≠ ", " ++ (quote next ++ behind right ++ others) :=
        append_ne_of_getElem? 1 rfl rfl (by decide) _ _
      simp only [behindFirst, behind, String.append_assoc] at apart ⊢
      simp only [apart, reduceCtorEq, false_and]
  | cons text left =>
    cases right with
    | nil =>
      have apart : ", " ++ (quote text ++ behind left ++ rest) ≠ ",)" ++ others :=
        append_ne_of_getElem? 1 rfl rfl (by decide) _ _
      simp only [behindFirst, behind, String.append_assoc] at apart ⊢
      simp only [apart, reduceCtorEq, false_and]
    | cons next right => exact behind_append_inj

end Text

namespace FieldValue

theorem describe_texts_cons (first : String) (more : List String) :
    (texts (first :: more)).describe = "(" ++ (Text.quote first ++ Text.behindFirst more) := by
  cases more with
  | nil => exact String.append_assoc
  | cons next more =>
    show "(" ++ String.intercalate ", " ((first :: next :: more).map Text.quote) ++ ")" = _
    rw [String.append_assoc, Text.intercalate_quotes, Text.behindFirst]

/-- The first character of a value that is written out tells what sort of value it is. -/
def initial : FieldValue → Char
  | absent => 'N'
  | text value => Text.quoteMark value.toList
  | texts _ => '('

theorem getElem?_describe (value : FieldValue) :
    value.describe.toList[0]? = some value.initial := by
  cases value with
  | absent => rfl
  | text value => exact Text.getElem?_quote value
  | texts values =>
    cases values with
    | nil => rfl
    | cons first more =>
      rw [describe_texts_cons]
      exact Text.getElem?_append_of_some rfl _

/-- Values of different sorts are written differently. -/
theorem initial_eq_of_describe_eq {left right : FieldValue} {rest others : String}
    (same : left.describe ++ rest = right.describe ++ others) : left.initial = right.initial := by
  apply Decidable.byContradiction
  intro apart
  exact Text.append_ne_of_getElem? 0 left.getElem?_describe right.getElem?_describe apart rest
    others same

/-- Brackets around nothing are not the beginning of brackets around a quoted text. -/
theorem describe_texts_nil_append_ne (first : String) (more : List String) (rest others : String) :
    (texts []).describe ++ rest ≠ (texts (first :: more)).describe ++ others := by
  have closed : (texts []).describe = "(" ++ ")" := rfl
  have apart : ')' ≠ Text.quoteMark first.toList := (Text.quoteMark_ne (by decide) _).symm
  simp only [closed, describe_texts_cons, String.append_assoc, ne_eq, String.append_right_inj]
  exact Text.append_ne_of_getElem? 0 rfl (Text.getElem?_quote first) apart _ _

theorem describe_texts_append_inj {left right : List String} {rest others : String} :
    (texts left).describe ++ rest = (texts right).describe ++ others ↔
      left = right ∧ rest = others := by
  cases left with
  | nil =>
    cases right with
    | nil => simp only [String.append_right_inj, true_and]
    | cons next right => simp only [describe_texts_nil_append_ne, reduceCtorEq, false_and]
  | cons first left =>
    cases right with
    | nil =>
      simp only [(describe_texts_nil_append_ne first left others rest).symm, reduceCtorEq,
        false_and]
    | cons next right =>
      simp only [describe_texts_cons, String.append_assoc, String.append_right_inj,
        Text.quote_append_inj, Text.behindFirst_append_inj, List.cons.injEq, and_assoc]

/-- A value that is written out shows what it is and where it ends. -/
theorem describe_append_inj {left right : FieldValue} {rest others : String} :
    left.describe ++ rest = right.describe ++ others ↔ left = right ∧ rest = others := by
  have apart : 'N' ≠ '(' := by decide
  have letter (value : String) : Text.quoteMark value.toList ≠ 'N' :=
    Text.quoteMark_ne (by decide) _
  have bracket (value : String) : Text.quoteMark value.toList ≠ '(' :=
    Text.quoteMark_ne (by decide) _
  constructor
  · intro same
    have begins := initial_eq_of_describe_eq same
    cases left with
    | absent =>
      cases right with
      | absent => exact ⟨rfl, String.append_right_inj _ |>.mp same⟩
      | text other => exact absurd begins.symm (letter other)
      | texts others => exact absurd begins apart
    | text value =>
      cases right with
      | absent => exact absurd begins (letter value)
      | text other =>
        obtain ⟨rfl, behind⟩ := Text.quote_append_inj.mp same
        exact ⟨rfl, behind⟩
      | texts others => exact absurd begins (bracket value)
    | texts values =>
      cases right with
      | absent => exact absurd begins apart.symm
      | text other => exact absurd begins.symm (bracket other)
      | texts others =>
        obtain ⟨rfl, behind⟩ := describe_texts_append_inj.mp same
        exact ⟨rfl, behind⟩
  · rintro ⟨rfl, rfl⟩
    rfl

theorem ofOption_inj {left right : Option String} :
    ofOption left = ofOption right ↔ left = right := by
  cases left <;> cases right <;> simp only [ofOption, reduceCtorEq, text.injEq, Option.some.injEq]

end FieldValue

def describeField (field : String × FieldValue) : String :=
  field.1 ++ "=" ++ field.2.describe

theorem describeRecord_eq (name : String) (fields : List (String × FieldValue)) :
    describeRecord name fields =
      name ++ ("(" ++ (String.intercalate ", " (fields.map describeField) ++ ")")) := by
  rw [describeRecord, String.append_assoc, String.append_assoc]
  rfl

theorem describeField_append_inj {name rest others : String} {value other : FieldValue} :
    describeField (name, value) ++ rest = describeField (name, other) ++ others ↔
      value = other ∧ rest = others := by
  simp only [describeField, String.append_assoc, String.append_right_inj,
    FieldValue.describe_append_inj]

/-- The same fields are written alike only if they have the same values. -/
theorem intercalate_fields_inj {fields others : List (String × FieldValue)}
    (alike : fields.map Prod.fst = others.map Prod.fst) {rest behind : String}
    (same : String.intercalate ", " (fields.map describeField) ++ rest =
      String.intercalate ", " (others.map describeField) ++ behind) : fields = others := by
  induction fields generalizing others with
  | nil => exact (List.map_eq_nil_iff.mp alike.symm).symm
  | cons field fields ih =>
    cases others with
    | nil => cases alike
    | cons other others =>
      rcases field with ⟨name, value⟩
      rcases other with ⟨label, content⟩
      obtain ⟨rfl, more⟩ := List.cons.inj alike
      rw [List.map_cons, List.map_cons] at same
      by_cases last : fields = []
      · subst last
        obtain rfl := List.map_eq_nil_iff.mp more.symm
        rw [List.map_nil, String.intercalate_singleton, String.intercalate_singleton,
          describeField_append_inj] at same
        rw [same.1]
      · have longer : fields.map describeField ≠ [] := mt List.map_eq_nil_iff.mp last
        have alsoLonger : others.map describeField ≠ [] := by
          intro empty
          rw [List.map_eq_nil_iff.mp empty, List.map_nil, List.map_eq_nil_iff] at more
          exact last more
        rw [String.intercalate_cons_of_ne_nil longer, String.intercalate_cons_of_ne_nil alsoLonger,
          String.append_assoc, String.append_assoc, String.append_assoc, String.append_assoc,
          describeField_append_inj, String.append_right_inj] at same
        rw [same.1, ih more same.2]

theorem describeRecord_inj {name : String} {fields others : List (String × FieldValue)}
    (alike : fields.map Prod.fst = others.map Prod.fst) :
    describeRecord name fields = describeRecord name others ↔ fields = others := by
  constructor
  · intro same
    simp only [describeRecord_eq, String.append_right_inj] at same
    exact intercalate_fields_inj alike same
  · exact congrArg (describeRecord name)

theorem Parts.describe_inj {parts other : Parts} :
    parts.describe = other.describe ↔ parts = other := by
  have alike : parts.fields.map Prod.fst = other.fields.map Prod.fst := rfl
  rw [describe, describe, describeRecord_inj alike]
  rcases parts with ⟨element, id, classes, attributes, pseudoClasses, pseudoElement⟩
  rcases other with ⟨element', id', classes', attributes', pseudoClasses', pseudoElement'⟩
  simp only [fields, List.cons.injEq, Prod.mk.injEq, true_and, FieldValue.ofOption_inj,
    FieldValue.texts.injEq, and_true, mk.injEq]

theorem Config.describe_inj {config other : Config} :
    config.describe = other.describe ↔ config = other := by
  have alike : config.fields.map Prod.fst = other.fields.map Prod.fst := rfl
  rw [describe, describe, describeRecord_inj alike]
  rcases config with ⟨name, separator, level⟩
  rcases other with ⟨name', separator', level'⟩
  simp only [fields, List.cons.injEq, Prod.mk.injEq, true_and, FieldValue.text.injEq, and_true,
    mk.injEq]

namespace Workspace

/-- A snapshot stays what it is until another one is taken under its name. -/
theorem Effect.snapshot? {before after : Workspace} {step : Step} {reply : Reply}
    (effect : Effect before step reply after) {name : String}
    (kept : ∀ source, step ≠ .snapshot source name) :
    after.snapshot? name = before.snapshot? name := by
  rw [Workspace.snapshot?, Workspace.snapshot?, effect.snapshots, List.lookup_append]
  cases step with
  | snapshot source other =>
    have apart : name ≠ other := by
      rintro rfl
      exact kept source rfl
    have absent : (before.taken (.snapshot source other)).lookup name = none := by
      cases found : before.selector? source with
      | none => simp only [taken, found, Option.map_none, Option.toList_none, List.lookup_nil]
      | some selector =>
        simp only [taken, found, Option.map_some, Option.toList_some, List.lookup_cons,
          beq_false_of_ne apart, List.lookup_nil]
    rw [absent, Option.none_or]
  | _ => rfl

theorem perform?_compareSnapshots {workspace : Workspace} {left right : String}
    {parts other : Parts} (known : workspace.snapshot? left = some parts)
    (alsoKnown : workspace.snapshot? right = some other) :
    workspace.perform? (.compareSnapshots left right) =
      some (workspace, ⟨.comparedSnapshots (parts == other), []⟩) := by
  simp only [perform?, known, alsoKnown, Option.bind_eq_bind, Option.bind_some]

theorem perform?_recall {workspace : Workspace} {name : String} {parts : Parts}
    (known : workspace.snapshot? name = some parts) :
    workspace.perform? (.recall name) = some (workspace, ⟨.recalled parts, []⟩) := by
  simp only [perform?, known, Option.bind_eq_bind, Option.bind_some]

end Workspace

/-- Selectors' parts are written alike only if they are equal, and so are conventions. At any time
of a script, two snapshots are therefore shown alike exactly if they compare equal. -/
theorem written_alike_iff_equal :
    (∀ parts other : Parts, parts.describe = other.describe ↔ parts = other) ∧
    (∀ config other : Config, config.describe = other.describe ↔ config = other) ∧
    ∀ (script : List Workspace.Step) (workspace : Workspace) (answers : List Workspace.Answer),
      ({} : Workspace).run? script = some (workspace, answers) →
      ∀ left right parts other,
        workspace.snapshot? left = some parts → workspace.snapshot? right = some other →
        ∀ later final replies, workspace.run? later = some (final, replies) →
          workspace.EachStep (fun _ step => ∀ source,
            step ≠ .snapshot source left ∧ step ≠ .snapshot source right) later →
          final.perform? (.recall left) = some (final, ⟨.recalled parts, []⟩) ∧
          final.perform? (.recall right) = some (final, ⟨.recalled other, []⟩) ∧
          ∃ same, final.perform? (.compareSnapshots left right) =
              some (final, ⟨.comparedSnapshots same, []⟩) ∧
            (parts.describe = other.describe ↔ same = true) := by
  refine ⟨fun _ _ => Parts.describe_inj, fun _ _ => Config.describe_inj, ?_⟩
  intro script workspace answers _ left right parts other known alsoKnown later final replies ran
    kept
  have stays : final.snapshot? left = some parts ∧ final.snapshot? right = some other := by
    refine Workspace.holds_of_run?
      (Q := fun now => now.snapshot? left = some parts ∧ now.snapshot? right = some other) ?_ ran
      kept ⟨known, alsoKnown⟩
    intro before step after reply apart effect holds
    rw [effect.snapshot? fun source => (apart source).1,
      effect.snapshot? fun source => (apart source).2]
    exact holds
  refine ⟨Workspace.perform?_recall stays.1, Workspace.perform?_recall stays.2, parts == other,
    Workspace.perform?_compareSnapshots stays.1 stays.2, ?_⟩
  rw [Parts.describe_inj, beq_iff_eq]

/-- An element that imitates an id is not shown like the id, and an element called `None` not like
none. -/
theorem written_alike_iff_equal_imitation :
    ∃ workspace answers final replies parts other,
      ({} : Workspace).run? [.add none ⟨.element, "a', id='#b"⟩ (some "s"), .snapshot "s" "p",
        .add none ⟨.element, "a"⟩ (some "t"), .add (some "t") ⟨.id, "b"⟩ none, .snapshot "t" "q"] =
          some (workspace, answers) ∧
      workspace.run? [.add (some "t") ⟨.className, "c"⟩ none, .snapshot "t" "r"] =
        some (final, replies) ∧
      final.perform? (.recall "p") = some (final, ⟨.recalled parts, []⟩) ∧
      final.perform? (.recall "q") = some (final, ⟨.recalled other, []⟩) ∧
      final.perform? (.compareSnapshots "p" "q") = some (final, ⟨.comparedSnapshots false, []⟩) ∧
      parts.describe ≠ other.describe ∧
      ({ element := some "None" } : Parts).describe ≠ ({} : Parts).describe := by
  have ran : ({} : Workspace).run?
      [.add none ⟨.element, "a', id='#b"⟩ (some "s"), .snapshot "s" "p",
        .add none ⟨.element, "a"⟩ (some "t"), .add (some "t") ⟨.id, "b"⟩ none, .snapshot "t" "q"] =
      some (_, _) := rfl
  obtain ⟨alike, _, shown⟩ := written_alike_iff_equal
  obtain ⟨first, second, same, compared, agree⟩ := shown _ _ _ ran "p" "q" _ _ rfl rfl
    [.add (some "t") ⟨.className, "c"⟩ none, .snapshot "t" "r"] _ _ rfl
    ⟨fun _ => by simp, fun _ _ _ => ⟨fun _ => by simp, fun _ _ _ => trivial⟩⟩
  refine ⟨_, _, _, _, _, _, ran, rfl, first, second, rfl, ?_, ?_⟩
  · intro written
    obtain rfl := agree.mp written
    cases compared
  · rw [ne_eq, alike]
    decide

end CssSelector

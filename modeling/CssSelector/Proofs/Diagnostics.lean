import CssSelector.Assembly.Token
import CssSelector.Proofs.CleanTexts
import CssSelector.Proofs.QuotedTexts

set_option autoImplicit false

namespace CssSelector

theorem Text.opens_toList_append {characters : List Char} {front : String}
    (first : front.toList.head?.any (· ∈ characters) = true) (rest : String) :
    Text.Opens characters (front ++ rest).toList := by
  rw [String.toList_append]
  exact Text.opens_append first rest.toList

theorem describeSelector_append_inj {left right rest others : String} :
    describeSelector left ++ rest = describeSelector right ++ others ↔
      left = right ∧ rest = others := by
  simp only [describeSelector, String.append_assoc, String.append_right_inj, Text.quote_append_inj]

theorem describeSelector_inj {left right : String} :
    describeSelector left = describeSelector right ↔ left = right := by
  simp only [describeSelector, String.append_left_inj, String.append_right_inj, Text.quote_inj]

namespace Category

theorem label_inj {category other : Category} :
    category.label = other.label ↔ category = other := by
  constructor
  · cases category <;> cases other <;> decide
  · exact congrArg label

theorem label_bare (category : Category) :
    ∀ character ∈ category.label.toList, character ∉ [' '] := by
  have bare : category.label.toList.all (· ∉ [' ']) = true := by
    cases category <;> decide
  intro character member
  exact of_decide_eq_true (List.all_eq_true.mp bare character member)

/-- A label holds no space, so it ends where one follows. -/
theorem label_append_inj {category other : Category} {rest others : String}
    (opens : Text.Opens [' '] rest.toList) (otherOpens : Text.Opens [' '] others.toList) :
    category.label ++ rest = other.label ++ others ↔ category = other ∧ rest = others := by
  constructor
  · intro same
    have lists := congrArg String.toList same
    rw [String.toList_append, String.toList_append] at lists
    have labels := Text.eq_of_append_eq_of_opens category.label_bare opens other.label_bare
      otherOpens lists
    have equal : category = other := label_inj.mp (String.toList_inj.mp labels)
    rw [equal, String.append_right_inj] at same
    exact ⟨equal, same⟩
  · rintro ⟨rfl, rfl⟩
    rfl

end Category

namespace Event

theorem message_combined (left combinator right : String) :
    (combined left combinator right).message =
      "combine: left=" ++ (describeSelector left ++ (" combinator=" ++ (Text.quote combinator ++
        (" right=" ++ describeSelector right)))) := by
  show "combine: left=" ++ describeSelector left ++ " combinator=" ++ Text.quote combinator ++
    " right=" ++ describeSelector right = _
  simp only [String.append_assoc]

theorem message_duplicate (category : Category) (text : String) :
    (duplicate category text).message =
      "duplicate " ++ (category.label ++ (" rejected in " ++ describeSelector text)) := by
  show "duplicate " ++ category.label ++ " rejected in " ++ describeSelector text = _
  simp only [String.append_assoc]

theorem message_misplaced (category previous : Category) (text : String) :
    (misplaced category previous text).message =
      category.label ++ (" appended after " ++ (previous.label ++ (" in " ++
        describeSelector text))) := by
  show category.label ++ " appended after " ++ previous.label ++ " in " ++ describeSelector text = _
  simp only [String.append_assoc]

theorem message_combined_inj {left combinator right first symbol second : String} :
    (combined left combinator right).message = (combined first symbol second).message ↔
      left = first ∧ combinator = symbol ∧ right = second := by
  simp only [message_combined, String.append_right_inj, describeSelector_append_inj,
    Text.quote_append_inj, describeSelector_inj]

theorem message_duplicate_inj {category other : Category} {text words : String} :
    (duplicate category text).message = (duplicate other words).message ↔
      category = other ∧ text = words := by
  have rejected (rest : String) : Text.Opens [' '] (" rejected in " ++ rest).toList :=
    Text.opens_toList_append (by decide) rest
  simp only [message_duplicate, String.append_right_inj,
    Category.label_append_inj (rejected _) (rejected _), describeSelector_inj]

theorem message_misplaced_inj {category previous other last : Category} {text words : String} :
    (misplaced category previous text).message = (misplaced other last words).message ↔
      category = other ∧ previous = last ∧ text = words := by
  have after (rest : String) : Text.Opens [' '] (" appended after " ++ rest).toList :=
    Text.opens_toList_append (by decide) rest
  have within (rest : String) : Text.Opens [' '] (" in " ++ rest).toList :=
    Text.opens_toList_append (by decide) rest
  simp only [message_misplaced, Category.label_append_inj (after _) (after _),
    String.append_right_inj, Category.label_append_inj (within _) (within _), describeSelector_inj]

/-- The first two characters of a message tell what sort of event it is about. -/
def initials : Event → List Char
  | combined _ _ _ => ['c', 'o']
  | duplicate _ _ => ['d', 'u']
  | misplaced category _ _ => category.label.toList.take 2

theorem take_message (event : Event) : event.message.toList.take 2 = event.initials := by
  cases event with
  | combined left combinator right =>
    rw [message_combined, String.toList_append]
    rfl
  | duplicate category text =>
    rw [message_duplicate, String.toList_append]
    rfl
  | misplaced category previous text =>
    rw [message_misplaced, String.toList_append]
    cases category <;> rfl

theorem initials_eq_of_message_eq {event other : Event} (same : event.message = other.message) :
    event.initials = other.initials := by
  rw [← take_message, ← take_message, same]

/-- Events of different sorts have different messages, and each sort names all that it is about. -/
theorem message_inj {event other : Event} : event.message = other.message ↔ event = other := by
  constructor
  · intro same
    have begins := initials_eq_of_message_eq same
    cases event with
    | combined left combinator right =>
      cases other with
      | combined first symbol second =>
        obtain ⟨rfl, rfl, rfl⟩ := message_combined_inj.mp same
        rfl
      | duplicate other words => cases begins
      | misplaced other last words => cases other <;> cases begins
    | duplicate category text =>
      cases other with
      | combined first symbol second => cases begins
      | duplicate other words =>
        obtain ⟨rfl, rfl⟩ := message_duplicate_inj.mp same
        rfl
      | misplaced other last words => cases other <;> cases begins
    | misplaced category previous text =>
      cases other with
      | combined first symbol second => cases category <;> cases begins
      | duplicate other words => cases category <;> cases begins
      | misplaced other last words =>
        obtain ⟨rfl, rfl, rfl⟩ := message_misplaced_inj.mp same
        rfl
  · exact congrArg message

end Event

namespace TokenError

theorem message_unknownKind (kind token : String) :
    (unknownKind kind token).message =
      "unknown part kind " ++ (Text.quote kind ++ (" in " ++ Text.quote token)) := by
  show "unknown part kind " ++ Text.quote kind ++ " in " ++ Text.quote token = _
  simp only [String.append_assoc]

theorem message_strayCombinator (token : String) :
    (strayCombinator token).message =
      "combinator " ++ (Text.quote token ++ " must follow a selector part") := by
  show "combinator " ++ Text.quote token ++ " must follow a selector part" = _
  simp only [String.append_assoc]

theorem message_unknownKind_inj {kind token word other : String} :
    (unknownKind kind token).message = (unknownKind word other).message ↔
      kind = word ∧ token = other := by
  simp only [message_unknownKind, String.append_right_inj, Text.quote_append_inj, Text.quote_inj]

theorem message_strayCombinator_inj {token other : String} :
    (strayCombinator token).message = (strayCombinator other).message ↔ token = other := by
  simp only [message_strayCombinator, String.append_left_inj, String.append_right_inj,
    Text.quote_inj]

/-- The first character of a message tells what sort of fault it is about. -/
def initial : TokenError → Char
  | unknownKind _ _ => 'u'
  | strayCombinator _ => 'c'
  | missingPart => 'e'

theorem head?_message (error : TokenError) : error.message.toList.head? = some error.initial := by
  cases error with
  | unknownKind kind token =>
    rw [message_unknownKind, String.toList_append]
    rfl
  | strayCombinator token =>
    rw [message_strayCombinator, String.toList_append]
    rfl
  | missingPart => rfl

theorem initial_eq_of_message_eq {error other : TokenError} (same : error.message = other.message) :
    error.initial = other.initial := by
  rw [← Option.some.injEq, ← head?_message, ← head?_message, same]

/-- Faults of different sorts have different messages, and a message names the token at fault. -/
theorem message_inj {error other : TokenError} : error.message = other.message ↔ error = other := by
  constructor
  · intro same
    have begins := initial_eq_of_message_eq same
    cases error with
    | unknownKind kind token =>
      cases other with
      | unknownKind word other =>
        obtain ⟨rfl, rfl⟩ := message_unknownKind_inj.mp same
        rfl
      | strayCombinator other => cases begins
      | missingPart => cases begins
    | strayCombinator token =>
      cases other with
      | unknownKind word other => cases begins
      | strayCombinator other =>
        obtain rfl := message_strayCombinator_inj.mp same
        rfl
      | missingPart => cases begins
    | missingPart =>
      cases other with
      | unknownKind word other => cases begins
      | strayCombinator other => cases begins
      | missingPart => rfl
  · exact congrArg message

end TokenError

/-- No two selectors with different texts are shown alike, and no two different events or faults are
told in the same words. -/
theorem diagnostics_determine_texts :
    (∀ left combinator right first symbol second : String,
      (Event.combined left combinator right).message =
          (Event.combined first symbol second).message ↔
        left = first ∧ combinator = symbol ∧ right = second) ∧
    (∀ event other : Event, event.message = other.message ↔ event = other) ∧
    (∀ selector other : Selector, selector.describe = other.describe ↔ selector.text = other.text) ∧
    ∀ error other : TokenError, error.message = other.message ↔ error = other :=
  ⟨fun _ _ _ _ _ _ => Event.message_combined_inj, fun _ _ => Event.message_inj,
    fun _ _ => describeSelector_inj, fun _ _ => TokenError.message_inj⟩

end CssSelector

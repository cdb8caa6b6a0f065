import CssSelector.Proofs.WorkspaceHistories
import Mathlib.Data.List.Basic
import Mathlib.Data.Set.List

set_option autoImplicit false

namespace CssSelector

namespace Category

def sign : Category → String
  | element => ""
  | id => "#"
  | className => "."
  | attributeTest => "["
  | pseudoClass => ":"
  | pseudoElement => "::"

def closing : Category → String
  | attributeTest => "]"
  | _ => ""

/-- The characters that end the token of a category, and so must not be in it. -/
def stops : Category → List Char
  | element => ['#', '.', '[', ':']
  | id | className => ['.', '[', ':']
  | attributeTest => [']']
  | pseudoClass => [':']
  | pseudoElement => []

end Category

theorem Part.text_eq (part : Part) :
    part.text = part.category.sign ++ part.token ++ part.category.closing := by
  rcases part with ⟨category, token⟩
  cases category <;> simp [text, Category.sign, Category.closing]

theorem Part.eq_of_token_eq {part other : Part} (category : part.category = other.category)
    (token : part.token = other.token) : part = other := by
  cases part
  cases other
  simp only at category token
  rw [category, token]

/-- Whether the token of a part holds none of the characters that would end it. An element and a
pseudo-class need a token besides. -/
structure Part.IsClean (part : Part) : Prop where
  bare : ∀ character ∈ part.token.toList, character ∉ part.category.stops
  full : part.category = .element ∨ part.category = .pseudoClass → part.token ≠ ""

instance (part : Part) : Decidable part.IsClean :=
  -- There are finitely many characters, but it is the token that has to be gone through.
  have : Decidable (∀ character ∈ part.token.toList, character ∉ part.category.stops) :=
    List.decidableBAll _ part.token.toList
  decidable_of_iff (_ ∧ _)
    ⟨fun both => ⟨both.1, both.2⟩, fun clean => ⟨clean.bare, clean.full⟩⟩

def Parts.IsClean (parts : Parts) : Prop :=
  ∀ part : Part, part.text ∈ parts.texts part.category → part.IsClean

namespace Text

/-- Whether a text is at its end, or goes on with one of some characters. -/
def Opens (characters text : List Char) : Prop :=
  ∀ character ∈ text.head?, character ∈ characters

theorem opens_nil (characters : List Char) : Opens characters [] := by
  intro character member
  cases member

theorem opens_append {characters front : List Char}
    (first : front.head?.any (· ∈ characters) = true) (rest : List Char) :
    Opens characters (front ++ rest) := by
  cases front with
  | nil => cases first
  | cons head tail =>
    intro character member
    have same : head = character := Option.some.inj member
    exact same ▸ of_decide_eq_true first

theorem takeWhile_append_of_opens {stops token rest : List Char}
    (bare : ∀ character ∈ token, character ∉ stops) (opens : Opens stops rest) :
    (token ++ rest).takeWhile (· ∉ stops) = token := by
  have before : ∀ character ∈ token, decide (character ∉ stops) = true := by
    intro character member
    exact decide_eq_true (bare character member)
  have behind : rest.takeWhile (· ∉ stops) = [] := by
    cases rest with
    | nil => rfl
    | cons first others =>
      have stop : first ∈ stops := opens first rfl
      simp only [List.takeWhile_cons, stop, not_true_eq_false, decide_false, Bool.false_eq_true,
        ↓reduceIte]
  rw [List.takeWhile_append_of_pos before, behind, List.append_nil]

/-- What comes before the first of some characters is determined. -/
theorem eq_of_append_eq_of_opens {stops token other rest others : List Char}
    (bare : ∀ character ∈ token, character ∉ stops) (opens : Opens stops rest)
    (otherBare : ∀ character ∈ other, character ∉ stops) (otherOpens : Opens stops others)
    (same : token ++ rest = other ++ others) : token = other := by
  calc
    token = (token ++ rest).takeWhile (· ∉ stops) := (takeWhile_append_of_opens bare opens).symm
    _ = (other ++ others).takeWhile (· ∉ stops) := by rw [same]
    _ = other := takeWhile_append_of_opens otherBare otherOpens

end Text

/-- The category of the part with which a text begins, as its first two characters tell. -/
def leading? : List Char → Option Category
  | [] => none
  | first :: rest =>
    if first = '#' then some .id
    else if first = '.' then some .className
    else if first = '[' then some .attributeTest
    else if first = ':' then
      if rest.head? = some ':' then some .pseudoElement else some .pseudoClass
    else some .element

theorem Part.IsClean.exists_token {part : Part} (clean : part.IsClean)
    (needed : part.category = .element ∨ part.category = .pseudoClass) :
    ∃ first rest, part.token.toList = first :: rest ∧ first ∉ part.category.stops := by
  have some : part.token.toList ≠ [] := by
    simpa only [ne_eq, String.toList_eq_nil_iff] using clean.full needed
  obtain ⟨first, rest, known⟩ := List.exists_cons_of_ne_nil some
  exact ⟨first, rest, known, clean.bare first (known ▸ List.mem_cons_self)⟩

/-- A clean part shows its category, whatever is behind it. -/
theorem Part.IsClean.leading? {part : Part} (clean : part.IsClean) (rest : List Char) :
    leading? (part.text.toList ++ rest) = some part.category := by
  rw [part.text_eq]
  rcases part with ⟨category, token⟩
  cases category with
  | element =>
    obtain ⟨first, others, known, bare⟩ := clean.exists_token (.inl rfl)
    simp only [Category.stops, List.mem_cons, List.not_mem_nil, or_false, not_or] at bare known
    simp [CssSelector.leading?, Category.sign, Category.closing, known, bare]
  | pseudoClass =>
    -- The token begins with no colon, so there is only the one of the sign.
    obtain ⟨first, others, known, bare⟩ := clean.exists_token (.inr rfl)
    simp only [Category.stops, List.mem_cons, List.not_mem_nil, or_false] at bare known
    simp [CssSelector.leading?, Category.sign, Category.closing, known, bare]
  | id | className | attributeTest | pseudoElement =>
    simp [CssSelector.leading?, Category.sign, Category.closing]

/-- Whether a part may stand behind another one: its category comes later, or is the same one and
not single. -/
def Category.MayFollow (category earlier : Category) : Prop :=
  earlier < category ∨ earlier = category ∧ category.isSingle = false

instance (category earlier : Category) : Decidable (category.MayFollow earlier) :=
  inferInstanceAs (Decidable (_ ∨ _))

/-- The token of a part ends where the part closes or the next one begins. -/
theorem Category.stops_of_mayFollow {category earlier : Category}
    (follows : category.MayFollow earlier) :
    (earlier.closing.toList ++ category.sign.toList).head?.any (· ∈ earlier.stops) = true := by
  revert follows
  cases earlier <;> cases category <;> decide

def written (parts : List Part) : List Char :=
  parts.flatMap fun part => part.text.toList

theorem written_cons (part : Part) (rest : List Part) :
    written (part :: rest) =
      part.category.sign.toList ++
        (part.token.toList ++ (part.category.closing.toList ++ written rest)) := by
  simp only [written, List.flatMap_cons, part.text_eq, String.toList_append, List.append_assoc]

theorem opens_written {part : Part} {rest : List Part}
    (follow : ∀ other ∈ rest, other.category.MayFollow part.category) :
    Text.Opens part.category.stops (part.category.closing.toList ++ written rest) := by
  cases rest with
  | nil =>
    -- With nothing behind it, a part ends with its closing sign or with the text.
    cases part.category with
    | attributeTest => exact Text.opens_append (by decide) _
    | _ => exact Text.opens_nil _
  | cons next others =>
    have ends := Category.stops_of_mayFollow (follow next List.mem_cons_self)
    rw [written_cons, ← List.append_assoc]
    exact Text.opens_append ends _

theorem leading?_written {part : Part} (clean : part.IsClean) (rest : List Part) :
    leading? (written (part :: rest)) = some part.category := by
  rw [written, List.flatMap_cons]
  exact clean.leading? _

theorem written_ne_nil {part : Part} (clean : part.IsClean) (rest : List Part) :
    written (part :: rest) ≠ [] := by
  intro empty
  have shown := leading?_written clean rest
  rw [empty] at shown
  cases shown

/-- The text shows the first part: its first character or two show the category, and then it shows
where the token ends. -/
theorem head_eq_of_written_eq {part other : Part} {rest others : List Part}
    (clean : part.IsClean) (otherClean : other.IsClean)
    (follow : ∀ next ∈ rest, next.category.MayFollow part.category)
    (otherFollow : ∀ next ∈ others, next.category.MayFollow other.category)
    (same : written (part :: rest) = written (other :: others)) : part = other := by
  have category : part.category = other.category := by
    apply Option.some.inj
    calc
      some part.category = leading? (written (part :: rest)) := (leading?_written clean rest).symm
      _ = leading? (written (other :: others)) := by rw [same]
      _ = some other.category := leading?_written otherClean others
  have bare := clean.bare
  have opens := opens_written follow
  rw [category] at bare opens
  rw [written_cons, written_cons, category, List.append_cancel_left_eq] at same
  have token : part.token.toList = other.token.toList :=
    Text.eq_of_append_eq_of_opens bare opens otherClean.bare (opens_written otherFollow) same
  exact Part.eq_of_token_eq category (String.toList_inj.mp token)

/-- Clean parts in the order of their categories can be told from their text. -/
theorem eq_of_written_eq {left right : List Part}
    (leftOrdered : left.Pairwise fun earlier part => part.category.MayFollow earlier.category)
    (rightOrdered : right.Pairwise fun earlier part => part.category.MayFollow earlier.category)
    (leftClean : ∀ part ∈ left, part.IsClean) (rightClean : ∀ part ∈ right, part.IsClean)
    (same : written left = written right) : left = right := by
  induction left generalizing right with
  | nil =>
    cases right with
    | nil => rfl
    | cons other others =>
      exact absurd same.symm (written_ne_nil (rightClean other List.mem_cons_self) others)
  | cons part rest ih =>
    cases right with
    | nil => exact absurd same (written_ne_nil (leftClean part List.mem_cons_self) rest)
    | cons other others =>
      rw [List.pairwise_cons] at leftOrdered rightOrdered
      rw [List.forall_mem_cons] at leftClean rightClean
      have head : part = other :=
        head_eq_of_written_eq leftClean.1 rightClean.1 leftOrdered.1 rightOrdered.1 same
      subst head
      have behind : written rest = written others := List.append_cancel_left same
      rw [ih leftOrdered.2 rightOrdered.2 leftClean.2 rightClean.2 behind]

namespace Parts

/-- Parts one behind the other in the order of the categories, when the tokens of each are given. -/
def listing (tokens : Category → List String) : List Part :=
  Category.all.flatMap fun category => (tokens category).map (Part.mk category)

theorem tokensOf_listing (tokens : Category → List String) (category : Category) :
    tokensOf category (listing tokens) = tokens category := by
  cases category <;> simp [tokensOf, listing, Category.all, List.filter_map, Function.comp_def,
    List.filter_true, List.filter_false]

theorem mem_listing_iff {tokens : Category → List String} {part : Part} :
    part ∈ listing tokens ↔ part.token ∈ tokens part.category := by
  rcases part with ⟨category, token⟩
  simp [listing, Category.mem_all]

theorem pairwise_listing {tokens : Category → List String}
    (single : ∀ category : Category, category.isSingle = true → (tokens category).length ≤ 1) :
    (listing tokens).Pairwise fun earlier part => part.category.MayFollow earlier.category := by
  rw [listing, List.pairwise_flatMap]
  constructor
  · intro category _
    rw [List.pairwise_map]
    cases repeated : category.isSingle with
    | false => exact List.pairwise_of_forall fun _ _ => .inr ⟨rfl, repeated⟩
    | true =>
      have short := single category repeated
      match tokens category, short with
      | [], _ => exact List.Pairwise.nil
      | [token], _ => exact List.pairwise_singleton _ _
  · refine Category.pairwise_all.imp ?_
    intro earlier category before first inEarlier second inLater
    obtain ⟨_, _, rfl⟩ := List.mem_map.mp inEarlier
    obtain ⟨_, _, rfl⟩ := List.mem_map.mp inLater
    exact .inl before

theorem Signed.exists_tokens {parts : Parts} (signed : parts.Signed) (category : Category) :
    ∃ tokens : List String,
      tokens.map (fun token => Part.text ⟨category, token⟩) = parts.texts category := by
  have each : ∀ text ∈ parts.texts category, ∃ token, Part.text ⟨category, token⟩ = text := by
    intro text member
    cases category with
    | element => exact ⟨text, rfl⟩
    | id =>
      obtain ⟨token, rfl⟩ := signed.id text (Option.mem_toList.mp member)
      exact ⟨token, rfl⟩
    | className =>
      obtain ⟨token, rfl⟩ := signed.classes text member
      exact ⟨token, rfl⟩
    | attributeTest =>
      obtain ⟨token, rfl⟩ := signed.attributes text member
      exact ⟨token, rfl⟩
    | pseudoClass =>
      obtain ⟨token, rfl⟩ := signed.pseudoClasses text member
      exact ⟨token, rfl⟩
    | pseudoElement =>
      obtain ⟨token, rfl⟩ := signed.pseudoElement text (Option.mem_toList.mp member)
      exact ⟨token, rfl⟩
  have range := Set.range_list_map fun token => Part.text ⟨category, token⟩
  have member : parts.texts category ∈ Set.range
      (List.map fun token => Part.text ⟨category, token⟩) := by
    rw [range]
    exact each
  exact member

theorem length_texts_le_one (parts : Parts) {category : Category}
    (single : category.isSingle = true) : (parts.texts category).length ≤ 1 := by
  cases category with
  | element => exact Option.length_toList_le
  | id => exact Option.length_toList_le
  | pseudoElement => exact Option.length_toList_le
  | className | attributeTest | pseudoClass => cases single

/-- The text of parts is that of a list of them in the order of their categories. -/
theorem Signed.exists_listing {parts : Parts} (signed : parts.Signed) :
    ∃ list : List Part,
      list.Pairwise (fun earlier part => part.category.MayFollow earlier.category) ∧
      (∀ part ∈ list, part.text ∈ parts.texts part.category) ∧
      parts.text.toList = written list ∧
      ∀ category, parts.texts category = textsOf category list := by
  choose tokens held using signed.exists_tokens
  have text : ∀ category, parts.texts category = textsOf category (listing tokens) := by
    intro category
    rw [textsOf, tokensOf_listing, held]
  refine ⟨listing tokens, ?_, ?_, ?_, text⟩
  · apply pairwise_listing
    intro category single
    have short := parts.length_texts_le_one single
    rwa [← held category, List.length_map] at short
  · intro part member
    rw [← held part.category]
    exact List.mem_map.mpr ⟨part.token, mem_listing_iff.mp member, rfl⟩
  · rw [Parts.text, String.toList_join, written, listing, List.flatMap_assoc, List.flatMap_assoc]
    apply List.flatMap_congr
    intro category _
    rw [← held category, List.flatMap_map, List.flatMap_map]

theorem Signed.eq_of_text_eq {left right : Parts} (leftSigned : left.Signed)
    (rightSigned : right.Signed) (leftClean : left.IsClean) (rightClean : right.IsClean)
    (same : left.text = right.text) : left = right := by
  obtain ⟨first, firstOrdered, firstHeld, firstText, firstTexts⟩ := leftSigned.exists_listing
  obtain ⟨second, secondOrdered, secondHeld, secondText, secondTexts⟩ := rightSigned.exists_listing
  have lists : first = second := by
    apply eq_of_written_eq firstOrdered secondOrdered
    · exact fun part member => leftClean part (firstHeld part member)
    · exact fun part member => rightClean part (secondHeld part member)
    · rw [← firstText, ← secondText, same]
  apply eq_of_texts
  intro category
  rw [firstTexts, secondTexts, lists]

/-- An empty pseudo-class in front of another one reads as a pseudo-element. -/
example :
    Parts.text { pseudoClasses := [":", ":a"] } = Parts.text { pseudoElement := some "::a" } := by
  decide

theorem isClean_of_textsOf {parts : Parts} (list : List Part)
    (held : ∀ category, parts.texts category = textsOf category list)
    (clean : ∀ part ∈ list, part.IsClean) : parts.IsClean := by
  intro part member
  rw [held] at member
  obtain ⟨token, offered, same⟩ := List.mem_map.mp member
  obtain ⟨other, inList, rfl⟩ := List.mem_map.mp offered
  have category : other.category = part.category :=
    of_decide_eq_true (List.mem_filter.mp inList).2
  rw [← category, Part.text_eq, part.text_eq, ← category, String.append_left_inj,
    String.append_right_inj] at same
  exact Part.eq_of_token_eq category same ▸ clean other (List.mem_filter.mp inList).1

end Parts

namespace Workspace

/-- Two selectors that join nothing and have clean parts differ in their texts or hold the same
parts and have the same last category, whatever was accepted and rejected on the way to them. -/
theorem parts_eq_of_text_eq {firstScript secondScript : List Step} {first second : Workspace}
    {answers others : List Answer}
    (firstRan : ({} : Workspace).run? firstScript = some (first, answers))
    (secondRan : ({} : Workspace).run? secondScript = some (second, others)) :
    ∀ left ∈ first.selectors, ∀ right ∈ second.selectors,
      left.isJoined = false → right.isJoined = false →
      left.parts.IsClean → right.parts.IsClean → left.text = right.text →
        left.parts = right.parts ∧ left.lastCategory = right.lastCategory := by
  intro left leftMember right rightMember leftApart rightApart leftClean rightClean same
  obtain ⟨history, leftHeld⟩ := exists_history_of_run? firstRan left leftMember
  obtain ⟨other, rightHeld⟩ := exists_history_of_run? secondRan right rightMember
  have texts : left.parts.text = right.parts.text := by
    rwa [left.text_of_unjoined leftApart, right.text_of_unjoined rightApart] at same
  have parts : left.parts = right.parts :=
    leftHeld.signed.eq_of_text_eq rightHeld.signed leftClean rightClean texts
  refine ⟨parts, ?_⟩
  rw [leftHeld.lastCategory_eq, rightHeld.lastCategory_eq, parts]

/-- An id that is rejected behind a class leaves what the id in front of the class does. -/
theorem parts_eq_of_text_eq_late_id :
    ∃ first second answers others,
      ({} : Workspace).run?
        [.add none ⟨.className, "b"⟩ (some "s"), .add (some "s") ⟨.id, "a"⟩ none] =
          some (first, answers) ∧
      ({} : Workspace).run?
        [.add none ⟨.id, "a"⟩ (some "t"), .add (some "t") ⟨.className, "b"⟩ none] =
          some (second, others) ∧
      ∃ left ∈ first.selectors, ∃ right ∈ second.selectors,
        left.text = "#a.b" ∧ right.text = "#a.b" ∧
        left.parts = right.parts ∧ left.lastCategory = right.lastCategory := by
  have firstRan : ({} : Workspace).run? [.add none ⟨.className, "b"⟩ (some "s"),
      .add (some "s") ⟨.id, "a"⟩ none] = some (_, _) := rfl
  have secondRan : ({} : Workspace).run? [.add none ⟨.id, "a"⟩ (some "t"),
      .add (some "t") ⟨.className, "b"⟩ none] = some (_, _) := rfl
  have clean : ({ id := some "#a", classes := [".b"] } : Parts).IsClean := by
    apply Parts.isClean_of_textsOf [⟨.id, "a"⟩, ⟨.className, "b"⟩]
    · intro category
      cases category <;> decide
    · decide
  have same := parts_eq_of_text_eq firstRan secondRan _ (Array.mem_of_getElem? (i := 0) rfl)
    _ (Array.mem_of_getElem? (i := 0) rfl) rfl rfl clean clean (by decide)
  exact ⟨_, _, _, _, firstRan, secondRan, _, Array.mem_of_getElem? (i := 0) rfl, _,
    Array.mem_of_getElem? (i := 0) rfl, by decide, by decide, same⟩

end Workspace

end CssSelector

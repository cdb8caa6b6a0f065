import CssSelector.Proofs.Reading
import Mathlib.Data.List.Induction

set_option autoImplicit false

namespace CssSelector

/-- Whether a compound selector may begin behind some tokens: there are none, or the last of them is
a combinator. -/
def AtBoundary (config : Config) (tokens : List String) : Prop :=
  tokens = [] ∨ ∃ earlier symbol, tokens = earlier ++ [symbol] ∧
    ¬ Text.Occurs config.kindSeparator symbol

/-- Whether tokens end with those of some parts that have no combinator between them, and a boundary
before them. -/
def EndsWithBlock (config : Config) (tokens : List String) (block : List Part) : Prop :=
  ∃ earlier own, tokens = earlier ++ own ∧ AtBoundary config earlier ∧
    List.Forall₂ (Part.IsWritten config) block own

/-- What is wrong with a token behind other tokens: the word before the separator is no keyword,
or nothing comes before the combinator, or the parts of its own compound selector leave no room
for it. -/
inductive IsFault (config : Config) (before : List String) (token : String) :
    AssemblyError → Prop where
  | unknownKind {kind value : String} (cut : Text.FirstCut config.kindSeparator token kind value)
      (unknown : ∀ category : Category, category.keyword ≠ kind) :
      IsFault config before token (.malformed (.unknownKind kind token))
  | strayCombinator (bare : ¬ Text.Occurs config.kindSeparator token)
      (boundary : AtBoundary config before) :
      IsFault config before token (.malformed (.strayCombinator token))
  | rejected {block : List Part} {part : Part} {error : PartError}
      (own : EndsWithBlock config before block) (written : part.IsWritten config token)
      (rejected : ((compound block).add part).error? = some error) :
      IsFault config before token (.rejected error)

def HasFault (config : Config) (tokens : List String) : Prop :=
  ∃ before token after error, tokens = before ++ token :: after ∧ IsFault config before token error

theorem Category.ofKeyword?_eq_none_iff {word : String} :
    ofKeyword? word = none ↔ ∀ category : Category, category.keyword ≠ word := by
  simp only [ofKeyword?, List.find?_eq_none, mem_all, true_implies, decide_eq_true_eq, ne_eq]

theorem Part.IsWritten.occurs {config : Config} {part : Part} {token : String}
    (written : part.IsWritten config token) : Text.Occurs config.kindSeparator token :=
  Text.FirstCut.occurs written

theorem hasFault_concat_iff {config : Config} {tokens : List String} {token : String} :
    HasFault config (tokens ++ [token]) ↔
      HasFault config tokens ∨ ∃ error, IsFault config tokens token error := by
  constructor
  · rintro ⟨before, faulty, after, error, same, fault⟩
    -- The last token is the faulty one, or the last of those behind it.
    rcases List.eq_nil_or_concat' after with rfl | ⟨between, last, rfl⟩
    · obtain ⟨rfl, rfl⟩ := List.append_singleton_inj.mp same
      exact .inr ⟨error, fault⟩
    · rw [← List.cons_append, ← List.append_assoc] at same
      obtain ⟨rfl, rfl⟩ := List.append_singleton_inj.mp same
      exact .inl ⟨before, faulty, between, error, rfl, fault⟩
  · rintro (⟨before, faulty, after, error, rfl, fault⟩ | ⟨error, fault⟩)
    · exact ⟨before, faulty, after ++ [token], error, List.append_assoc .., fault⟩
    · exact ⟨tokens, token, [], error, rfl, fault⟩

theorem HasFault.first {config : Config} {tokens : List String} (faulty : HasFault config tokens) :
    ∃ before token after error, tokens = before ++ token :: after ∧ ¬ HasFault config before ∧
      IsFault config before token error := by
  induction tokens using List.reverseRecOn with
  | nil =>
    obtain ⟨before, token, after, _, none, _⟩ := faulty
    exact absurd none.symm
      (List.append_ne_nil_of_right_ne_nil before (List.cons_ne_nil token after))
  | append_singleton tokens token ih =>
    by_cases earlier : HasFault config tokens
    · obtain ⟨before, first, after, error, rfl, sound, fault⟩ := ih earlier
      exact ⟨before, first, after ++ [token], error, List.append_assoc .., sound, fault⟩
    · obtain ⟨error, fault⟩ := (hasFault_concat_iff.mp faulty).resolve_left earlier
      exact ⟨tokens, token, [], error, rfl, earlier, fault⟩

section Blocks

variable {config : Config} {tokens : List String} {token : String} {block other : List Part}

theorem EndsWithBlock.eq_nil (ends : EndsWithBlock config [] block) : block = [] := by
  obtain ⟨earlier, own, none, _, written⟩ := ends
  rw [(List.append_eq_nil_iff.mp none.symm).2] at written
  exact List.forall₂_nil_right_iff.mp written

/-- The last token is a combinator, or it writes the last part of the block. -/
theorem EndsWithBlock.concat (ends : EndsWithBlock config (tokens ++ [token]) block) :
    (block = [] ∧ ¬ Text.Occurs config.kindSeparator token) ∨
      ∃ earlier part, block = earlier ++ [part] ∧ EndsWithBlock config tokens earlier ∧
        part.IsWritten config token := by
  obtain ⟨earlier, own, same, boundary, written⟩ := ends
  rcases List.eq_nil_or_concat' own with rfl | ⟨before, last, rfl⟩
  · rw [List.append_nil] at same
    refine .inl ⟨List.forall₂_nil_right_iff.mp written, ?_⟩
    rcases boundary with rfl | ⟨_, symbol, rfl, bare⟩
    · exact absurd same (List.append_ne_nil_of_right_ne_nil _ (List.cons_ne_nil _ _))
    · obtain ⟨_, rfl⟩ := List.append_singleton_inj.mp same
      exact bare
  · rw [← List.append_assoc] at same
    obtain ⟨rfl, rfl⟩ := List.append_singleton_inj.mp same
    -- The last token writes the last part, and the tokens before it write the other parts.
    have front := List.forall₂_take_append block before [token] written
    obtain ⟨part, rest, last, none, parted⟩ :=
      List.forall₂_cons_right_iff.mp (List.forall₂_drop_append block before [token] written)
    rw [List.forall₂_nil_right_iff.mp none] at parted
    refine .inr ⟨block.take before.length, part, ?_, ⟨earlier, before, rfl, boundary, front⟩, last⟩
    rw [← parted, List.take_append_drop]

theorem EndsWithBlock.unique (ends : EndsWithBlock config tokens block)
    (again : EndsWithBlock config tokens other) : block = other := by
  induction tokens using List.reverseRecOn generalizing block other with
  | nil => rw [ends.eq_nil, again.eq_nil]
  | append_singleton tokens token ih =>
    rcases ends.concat with ⟨rfl, bare⟩ | ⟨earlier, part, rfl, ends, written⟩ <;>
      rcases again.concat with ⟨rfl, alsoBare⟩ | ⟨before, copy, rfl, again, alsoWritten⟩
    · rfl
    · exact absurd alsoWritten.occurs bare
    · exact absurd written.occurs alsoBare
    · rw [ih ends again, written.unique alsoWritten]

end Blocks

section Readings

variable {config : Config} {tokens : List String} {reading : Reading}

theorem Reads.block_eq_nil_iff (reads : Reads config tokens reading) :
    reading.block = [] ↔ AtBoundary config tokens := by
  cases reads with
  | start => simp only [AtBoundary, true_or]
  | @part tokens reading part token before written accepted =>
    have grown : reading.block ++ [part] ≠ [] :=
      List.append_ne_nil_of_right_ne_nil _ (List.cons_ne_nil _ _)
    refine ⟨fun empty => absurd empty grown, ?_⟩
    rintro (none | ⟨earlier, symbol, same, bare⟩)
    · exact absurd none (List.append_ne_nil_of_right_ne_nil _ (List.cons_ne_nil _ _))
    · obtain ⟨_, rfl⟩ := List.append_singleton_inj.mp same
      exact absurd written.occurs bare
  | @combinator tokens reading symbol before full bare =>
    exact ⟨fun _ => .inr ⟨tokens, symbol, rfl, bare⟩, fun _ => rfl⟩

theorem Reads.endsWithBlock (reads : Reads config tokens reading) :
    EndsWithBlock config tokens reading.block := by
  induction reads with
  | start => exact ⟨[], [], rfl, .inl rfl, .nil⟩
  | @part tokens reading part token before written accepted ih =>
    obtain ⟨earlier, own, rfl, boundary, block⟩ := ih
    refine ⟨earlier, own ++ [token], List.append_assoc .., boundary, ?_⟩
    exact List.rel_append block (.cons written .nil)
  | @combinator tokens reading symbol before full bare ih =>
    exact ⟨tokens ++ [symbol], [], (List.append_nil _).symm, .inr ⟨tokens, symbol, rfl, bare⟩, .nil⟩

theorem Reads.step_of_fault (separated : config.kindSeparator ≠ "")
    (reads : Reads config tokens reading) {token : String} {error : AssemblyError}
    (fault : IsFault config tokens token error) :
    ∃ events, Assembly.step config (reading.assembly config) token = .failure error events := by
  cases fault with
  | unknownKind cut unknown =>
    have missing := Category.ofKeyword?_eq_none_iff.mpr unknown
    exact ⟨_, reading.step_unknown config separated cut missing⟩
  | strayCombinator bare boundary =>
    have empty := reads.block_eq_nil_iff.mpr boundary
    exact ⟨_, reading.step_stray config separated empty bare⟩
  | rejected own written rejected =>
    -- The fault may speak of any block that the tokens end with, but there is only the one read.
    rw [own.unique reads.endsWithBlock] at rejected
    exact ⟨_, reading.step_rejected config separated written rejected⟩

theorem Reads.next_or_fault (reads : Reads config tokens reading) (token : String) :
    (∃ after, Reads config (tokens ++ [token]) after) ∨
      ∃ error, IsFault config tokens token error := by
  rcases token_cases config token with ⟨part, written⟩ | ⟨kind, value, cut, unknown⟩ | bare
  · cases outcome : ((compound reading.block).add part).error? with
    | none => exact .inl ⟨_, reads.part written outcome⟩
    | some error => exact .inr ⟨_, .rejected reads.endsWithBlock written outcome⟩
  · exact .inr ⟨_, .unknownKind cut (Category.ofKeyword?_eq_none_iff.mp unknown)⟩
  · by_cases empty : reading.block = []
    · exact .inr ⟨_, .strayCombinator bare (reads.block_eq_nil_iff.mp empty)⟩
    · exact .inl ⟨_, reads.combinator empty bare⟩

theorem exists_reads_of_not_hasFault (sound : ¬ HasFault config tokens) :
    ∃ reading, Reads config tokens reading := by
  induction tokens using List.reverseRecOn with
  | nil => exact ⟨{}, .start⟩
  | append_singleton tokens token ih =>
    rw [hasFault_concat_iff, not_or] at sound
    obtain ⟨reading, reads⟩ := ih sound.1
    exact (reads.next_or_fault token).resolve_right sound.2

end Readings

/-- Once a token is faulty, the tokens after it are not read. -/
theorem assemble_of_fault {config : Config} (separated : config.kindSeparator ≠ "")
    {before : List String} (sound : ¬ HasFault config before) {token : String}
    {error : AssemblyError} (fault : IsFault config before token error) (after : List String) :
    (assemble config (before ++ token :: after)).result = .error error := by
  obtain ⟨reading, reads⟩ := exists_reads_of_not_hasFault sound
  obtain ⟨events, failed⟩ := reads.step_of_fault separated fault
  rw [reads.assemble_of_failure separated failed after]
  rfl

end CssSelector

import CssSelector.Proofs.Expression

set_option autoImplicit false

namespace CssSelector

theorem Text.ne_empty_of_not_occurs {separator text : String} (absent : ¬ Occurs separator text) :
    separator ≠ "" := by
  rintro rfl
  apply absent
  exact ⟨"", text, rfl⟩

theorem read?_ne_combinator {separator token : String} (occurs : Text.Occurs separator token)
    (symbol : String) : Token.read? separator token ≠ some (.combinator symbol) := by
  unfold Token.read?
  split
  · rintro ⟨⟩
  · split
    · rintro ⟨⟩
    · rename_i missing
      exact absurd occurs (Text.splitOnce?_eq_none_iff.mp missing)

/-- Errors that are the same, but for the tokens of two stray combinators that are related. -/
inductive AssemblyError.Alike (related : String → String → Prop) :
    AssemblyError → AssemblyError → Prop where
  | same (error : AssemblyError) : Alike related error error
  | stray {symbol counterpart : String} (counterparts : related symbol counterpart) :
      Alike related (.malformed (.strayCombinator symbol))
        (.malformed (.strayCombinator counterpart))

namespace Attempt

variable {α β : Type} {related : String → String → Prop}

/-- Attempts with the same events: both come to the same value, or both fail with errors that are
alike. -/
inductive Alike (related : String → String → Prop) : Attempt α → Attempt α → Prop where
  | success (value : α) (events : List Event) :
      Alike related ⟨.ok value, events⟩ ⟨.ok value, events⟩
  | failure {error other : AssemblyError} (alike : error.Alike related other)
      (events : List Event) :
      Alike related (.failure error events) (.failure other events)

theorem Alike.refl (attempt : Attempt α) : Alike related attempt attempt := by
  rcases attempt with ⟨error | value, events⟩
  · exact .failure (.same error) events
  · exact .success value events

theorem Alike.after {first second : Attempt α} (alike : Alike related first second)
    (events : List Event) :
    Alike related ⟨first.result, events ++ first.events⟩
      ⟨second.result, events ++ second.events⟩ := by
  cases alike with
  | success value later => exact .success value (events ++ later)
  | failure alike later => exact .failure alike (events ++ later)

theorem Alike.bind {first second : Attempt α} {next other : α → Attempt β}
    (alike : Alike related first second)
    (goesOn : ∀ value, Alike related (next value) (other value)) :
    Alike related (first.bind next) (second.bind other) := by
  cases alike with
  | success value events => exact (goesOn value).after events
  | failure alike events => exact .failure alike events

theorem Alike.eq {first second : Attempt α} (alike : Alike Eq first second) : first = second := by
  cases alike with
  | success value events => rfl
  | failure alike events =>
    cases alike with
    | same error => rfl
    | stray counterparts => rw [counterparts]

end Attempt

/-- Tokens that mean the same under two conventions: they are the same part, or combinators that
stand for the same. -/
inductive Counterparts (config other : Config) : String → String → Prop where
  | part {token : String} (occurs : Text.Occurs config.kindSeparator token) :
      Counterparts config other token token
  | combinator {symbol counterpart : String} (bare : ¬ Text.Occurs config.kindSeparator symbol)
      (alsoBare : ¬ Text.Occurs config.kindSeparator counterpart)
      (same : config.combinator symbol = other.combinator counterpart) :
      Counterparts config other symbol counterpart

section Counterparts

variable {config other : Config} (separators : other.kindSeparator = config.kindSeparator)
  {related : String → String → Prop}

include separators

/-- What a token does depends on no more than what it means, but for the error in which it is
quoted. -/
theorem Counterparts.step {token counterpart : String}
    (counterparts : Counterparts config other token counterpart)
    (paired : related token counterpart) (assembly : Assembly) :
    Attempt.Alike related (assembly.step config token) (assembly.step other counterpart) := by
  cases counterparts with
  | part occurs =>
    have same : assembly.step other token = assembly.step config token := by
      simp only [Assembly.step, separators]
      split
      · rfl
      · rfl
      · rename_i symbol read
        exact absurd read (read?_ne_combinator occurs symbol)
    rw [same]
    exact .refl _
  | combinator bare alsoBare same =>
    have separated := Text.ne_empty_of_not_occurs bare
    simp only [Assembly.step, separators, read?_of_not_occurs separated bare,
      read?_of_not_occurs separated alsoBare, same]
    cases assembly.current with
    | none => exact .failure (.stray paired) []
    | some current => exact .refl _

/-- Tokens that mean the same at each position are assembled alike, from whatever has been assembled
before. -/
theorem run_of_counterparts {tokens others : List String}
    (counterparts : List.Forall₂ (fun token counterpart =>
      Counterparts config other token counterpart ∧ related token counterpart) tokens others)
    (assembly : Assembly) :
    Attempt.Alike related (assembly.run config tokens) (assembly.run other others) := by
  induction counterparts generalizing assembly with
  | nil => exact .refl _
  | cons first rest ih =>
    have stepped := Counterparts.step separators first.1 first.2 assembly
    exact stepped.bind ih

end Counterparts

/-- Two tokens are the same, or one is the alias and the other the space that it stands for. -/
def Config.Interchanges (config : Config) (token other : String) : Prop :=
  token = other ∨ token = config.descendantAlias ∧ other = " " ∨
    token = " " ∧ other = config.descendantAlias

theorem Config.combinator_alias (config : Config) :
    config.combinator config.descendantAlias = " " :=
  if_pos rfl

theorem Config.combinator_of_ne {config : Config} {symbol : String}
    (other : symbol ≠ config.descendantAlias) : config.combinator symbol = symbol :=
  if_neg other

theorem Config.combinator_space (config : Config) : config.combinator " " = " " := by
  unfold combinator
  split <;> rfl

/-- An alias that is the space it stands for changes nothing. -/
theorem Config.combinator_self (config : Config) (symbol : String) :
    Config.combinator { config with descendantAlias := " " } symbol = symbol := by
  unfold combinator
  split
  · rename_i space
    exact space.symm
  · rfl

theorem Config.interchanges_combinator (config : Config) (token : String) :
    config.Interchanges token (config.combinator token) := by
  unfold combinator
  split
  · rename_i replaced
    exact .inr (.inl ⟨replaced, rfl⟩)
  · exact .inl rfl

/-- A token means the same under another alias, unless it is one of the two aliases. -/
theorem counterparts_of_unaliased {config : Config} {name token : String}
    (plain : token ≠ config.descendantAlias) (alsoPlain : token ≠ name) :
    Counterparts config { config with descendantAlias := name } token token := by
  by_cases occurs : Text.Occurs config.kindSeparator token
  · exact .part occurs
  · refine .combinator occurs occurs ?_
    rw [Config.combinator_of_ne plain, Config.combinator_of_ne alsoPlain]

section Alias

variable {config : Config} (bareAlias : ¬ Text.Occurs config.kindSeparator config.descendantAlias)
  (bareSpace : ¬ Text.Occurs config.kindSeparator " ")

include bareAlias bareSpace

theorem Config.Interchanges.counterparts {token other : String}
    (interchanged : config.Interchanges token other) : Counterparts config config token other := by
  rcases interchanged with rfl | ⟨rfl, rfl⟩ | ⟨rfl, rfl⟩
  · by_cases occurs : Text.Occurs config.kindSeparator token
    · exact .part occurs
    · exact .combinator occurs occurs rfl
  · refine .combinator bareAlias bareSpace ?_
    rw [config.combinator_alias, config.combinator_space]
  · refine .combinator bareSpace bareAlias ?_
    rw [config.combinator_alias, config.combinator_space]

/-- The space may be written where the alias was, if there is no alias any more. -/
theorem counterparts_of_resolved (token : String) :
    Counterparts config { config with descendantAlias := " " } token (config.combinator token) := by
  by_cases occurs : Text.Occurs config.kindSeparator token
  · have other : token ≠ config.descendantAlias := by
      rintro rfl
      exact bareAlias occurs
    rw [Config.combinator_of_ne other]
    exact .part occurs
  · refine .combinator occurs ?_ (Config.combinator_self config _).symm
    unfold Config.combinator
    split
    · exact bareSpace
    · exact occurs

end Alias

/-- The alias and the space may be written for each other at any positions: the assembly comes to
the same selector or fails for the same reason, with the same events, and only the text of a stray
combinator may be quoted differently. It is as if there were no alias and the space stood for it
throughout. Where no token is the alias in full, the alias may be changed to anything else that is
no token. -/
theorem assemble_alike_under_alias (config : Config)
    (bareAlias : ¬ Text.Occurs config.kindSeparator config.descendantAlias)
    (bareSpace : ¬ Text.Occurs config.kindSeparator " ") :
    (∀ tokens others : List String, List.Forall₂ config.Interchanges tokens others →
      Attempt.Alike config.Interchanges (assemble config tokens) (assemble config others)) ∧
    (∀ tokens : List String,
      Attempt.Alike config.Interchanges (assemble config tokens)
        (assemble { config with descendantAlias := " " }
          (tokens.map fun token => if token = config.descendantAlias then " " else token))) ∧
    ∀ (tokens : List String) (name : String), config.descendantAlias ∉ tokens → name ∉ tokens →
      assemble { config with descendantAlias := name } tokens = assemble config tokens := by
  refine ⟨?_, ?_, ?_⟩
  · intro tokens others interchanged
    apply run_of_counterparts rfl
    exact interchanged.imp fun token other pair => ⟨pair.counterparts bareAlias bareSpace, pair⟩
  · intro tokens
    have separators : Config.kindSeparator { config with descendantAlias := " " } =
        config.kindSeparator := rfl
    apply run_of_counterparts separators
    rw [List.forall₂_map_right_iff, List.forall₂_same]
    intro token _
    exact ⟨counterparts_of_resolved bareAlias bareSpace token, config.interchanges_combinator token⟩
  · intro tokens name plain alsoPlain
    have alike : Attempt.Alike Eq (assemble config tokens)
        (assemble { config with descendantAlias := name } tokens) := by
      have separators : Config.kindSeparator { config with descendantAlias := name } =
          config.kindSeparator := rfl
      apply run_of_counterparts separators
      rw [List.forall₂_same]
      intro token member
      have other : token ≠ config.descendantAlias := ne_of_mem_of_not_mem member plain
      have apart : token ≠ name := ne_of_mem_of_not_mem member alsoPlain
      exact ⟨counterparts_of_unaliased other apart, rfl⟩
    exact alike.eq.symm

/-- The alias and the space change places, and the stray combinator at the end is quoted as it is
written. A class that has the alias for its name does not notice another alias. -/
theorem assemble_alike_under_alias_stray :
    ¬ Text.Occurs ":" "_" ∧ ¬ Text.Occurs ":" " " ∧
      Attempt.Alike (Config.Interchanges {})
        (assemble {} ["id:a", "_", "class:_", " ", "element:b", "_", "_"])
        (assemble {} ["id:a", " ", "class:_", "_", "element:b", "_", " "]) ∧
      (assemble {} ["id:a", "_", "class:_", " ", "element:b", "_", "_"]).result =
        .error (.malformed (.strayCombinator "_")) ∧
      (assemble {} ["id:a", " ", "class:_", "_", "element:b", "_", " "]).result =
        .error (.malformed (.strayCombinator " ")) ∧
      assemble { descendantAlias := ">" } ["id:a", "__", "class:_"] =
        assemble {} ["id:a", "__", "class:_"] := by
  have bareAlias : ¬ Text.Occurs ":" "_" := Text.splitOnce?_eq_none_iff.mp (by decide)
  have bareSpace : ¬ Text.Occurs ":" " " := Text.splitOnce?_eq_none_iff.mp (by decide)
  obtain ⟨swapped, _, unaliased⟩ := assemble_alike_under_alias {} bareAlias bareSpace
  refine ⟨bareAlias, bareSpace, swapped _ _ ?_, by decide, by decide, ?_⟩
  · have kept (token : String) : Config.Interchanges {} token token := .inl rfl
    have spaced : Config.Interchanges {} "_" " " := .inr (.inl ⟨rfl, rfl⟩)
    have aliased : Config.Interchanges {} " " "_" := .inr (.inr ⟨rfl, rfl⟩)
    exact .cons (kept _) (.cons spaced (.cons (kept _) (.cons aliased (.cons (kept _)
      (.cons (kept _) (.cons spaced .nil))))))
  · exact unaliased ["id:a", "__", "class:_"] ">" (by decide) (by decide)

end CssSelector

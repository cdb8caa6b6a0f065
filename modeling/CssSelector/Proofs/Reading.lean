import CssSelector.Proofs.Expression

set_option autoImplicit false

namespace CssSelector

theorem Attempt.bind_assoc {α β γ : Type} (first : Attempt α) (second : α → Attempt β)
    (third : β → Attempt γ) :
    (first.bind second).bind third = first.bind fun value => (second value).bind third := by
  rcases first with ⟨result, events⟩
  cases result with
  | error error => rfl
  | ok value =>
    rw [bind_of_ok ⟨.ok value, events⟩ second value rfl, bind_of_ok ⟨.ok value, events⟩ _ value rfl]
    cases outcome : (second value).result with
    | error error =>
      rw [bind_of_error _ third error rfl, bind_of_error _ third error outcome]
      rfl
    | ok next =>
      rw [bind_of_ok _ third next rfl, bind_of_ok _ third next outcome]
      simp only [List.append_assoc]

namespace Assembly

def advance (config : Config) : Assembly → List String → Attempt Assembly
  | assembly, [] => .success assembly
  | assembly, text :: rest =>
    (step config assembly text).bind fun next => advance config next rest

theorem advance_append (config : Config) (assembly : Assembly) (first second : List String) :
    advance config assembly (first ++ second) =
      (advance config assembly first).bind fun next => advance config next second := by
  induction first generalizing assembly with
  | nil => rfl
  | cons text rest ih =>
    rw [List.cons_append, advance, advance, Attempt.bind_assoc]
    exact congrArg _ (funext ih)

theorem advance_concat {config : Config} {assembly middle final : Assembly}
    {tokens : List String} {token : String} {before after : List Event}
    (reached : advance config assembly tokens = ⟨.ok middle, before⟩)
    (stepped : step config middle token = ⟨.ok final, after⟩) :
    advance config assembly (tokens ++ [token]) = ⟨.ok final, before ++ after⟩ := by
  rw [advance_append, reached, Attempt.bind_of_ok _ _ middle rfl, advance, stepped,
    Attempt.bind_of_ok _ _ final rfl]
  simp only [advance, Attempt.success, List.append_nil]

theorem run_append (config : Config) (assembly : Assembly) (first second : List String) :
    run config assembly (first ++ second) =
      (advance config assembly first).bind fun next => run config next second := by
  induction first generalizing assembly with
  | nil => rfl
  | cons text rest ih =>
    rw [List.cons_append, run, advance, Attempt.bind_assoc]
    exact congrArg _ (funext ih)

end Assembly

/-- The joins of an expression from left to right, each with the text of all that is on its left. -/
def Expression.joinings (config : Config) (expression : Expression) : List Event :=
  expression.rest.mapIdx fun index (symbol, block) =>
    .combined (Expression.text config { expression with rest := expression.rest.take index })
      (config.combinator symbol) (compound block).text

theorem Expression.joinings_extend (config : Config) (expression : Expression) (symbol : String)
    (block : List Part) :
    (expression.extend symbol block).joinings config =
      expression.joinings config ++ [Selector.joining (expression.selector config)
        (config.combinator symbol) (compound block)] := by
  simp only [joinings, extend, List.mapIdx_concat, Selector.joining, text_selector,
    List.take_left, List.append_cancel_right_eq]
  rw [List.mapIdx_eq_mapIdx_iff]
  intro index inside
  rw [List.take_append_of_le_length (Nat.le_of_lt inside)]

/-- What has been read of an expression: the part of it on the left of the latest combinator, with
that combinator, and the parts behind it. -/
structure Reading where
  left : Option (Expression × String) := none
  block : List Part := []

namespace Reading

def complete (reading : Reading) : Expression :=
  match reading.left with
  | none => { first := reading.block }
  | some (expression, symbol) => expression.extend symbol reading.block

/-- The state in which an assembly is after a reading. -/
def assembly (config : Config) (reading : Reading) : Assembly where
  left := reading.left.map fun (expression, symbol) =>
    (expression.selector config, config.combinator symbol)
  current := if reading.block = [] then none else some (compound reading.block)

def joinings (config : Config) (reading : Reading) : List Event :=
  match reading.left with
  | none => []
  | some (expression, _) => expression.joinings config

theorem close_assembly (config : Config) (reading : Reading) :
    ∃ events, (reading.assembly config).close (compound reading.block) =
        ⟨.ok (reading.complete.selector config), events⟩ ∧
      reading.joinings config ++ events = reading.complete.joinings config := by
  rcases reading with ⟨left, block⟩
  cases left with
  | none => exact ⟨[], rfl, rfl⟩
  | some pair =>
    rcases pair with ⟨expression, symbol⟩
    refine ⟨_, ?_, (Expression.joinings_extend config expression symbol block).symm⟩
    rw [complete, Expression.selector_extend]
    rfl

theorem current_getD (config : Config) (reading : Reading) :
    (reading.assembly config).current.getD {} = compound reading.block := by
  by_cases empty : reading.block = []
  · simp only [assembly, empty, ↓reduceIte, Option.getD_none]
    rfl
  · simp only [assembly, empty, ↓reduceIte, Option.getD_some]

theorem step_part (config : Config) (separated : config.kindSeparator ≠ "") (reading : Reading)
    {part : Part} {token : String} (written : part.IsWritten config token)
    (accepted : ((compound reading.block).add part).error? = none) :
    Assembly.step config (reading.assembly config) token =
      .success (assembly config { reading with block := reading.block ++ [part] }) := by
  have read := (read?_eq_part_iff separated).mpr written
  have grown : reading.block ++ [part] ≠ [] := by
    simp only [ne_eq, List.append_eq_nil_iff, List.cons_ne_self, and_false, not_false_eq_true]
  simp only [Assembly.step, read, Category.ofKeyword?_keyword, Assembly.addPart, current_getD,
    accepted]
  simp only [assembly, grown, ↓reduceIte, compound, Selector.addAll_concat]

theorem step_rejected (config : Config) (separated : config.kindSeparator ≠ "")
    (reading : Reading) {part : Part} {token : String} (written : part.IsWritten config token)
    {error : PartError} (rejected : ((compound reading.block).add part).error? = some error) :
    Assembly.step config (reading.assembly config) token =
      .failure (.rejected error) ((compound reading.block).add part).events := by
  have read := (read?_eq_part_iff separated).mpr written
  simp only [Assembly.step, read, Category.ofKeyword?_keyword, Assembly.addPart, current_getD,
    rejected]

theorem step_unknown (config : Config) (separated : config.kindSeparator ≠ "") (reading : Reading)
    {token kind value : String} (cut : Text.FirstCut config.kindSeparator token kind value)
    (unknown : Category.ofKeyword? kind = none) :
    Assembly.step config (reading.assembly config) token =
      .failure (.malformed (.unknownKind kind token)) [] := by
  have read := (read?_eq_part_iff separated).mpr cut
  simp only [Assembly.step, read, unknown]

theorem step_stray (config : Config) (separated : config.kindSeparator ≠ "") (reading : Reading)
    {symbol : String} (empty : reading.block = [])
    (bare : ¬ Text.Occurs config.kindSeparator symbol) :
    Assembly.step config (reading.assembly config) symbol =
      .failure (.malformed (.strayCombinator symbol)) [] := by
  have read := read?_of_not_occurs separated bare
  simp only [Assembly.step, read, assembly, empty, ↓reduceIte]

theorem step_combinator (config : Config) (separated : config.kindSeparator ≠ "")
    (reading : Reading) {symbol : String} (full : reading.block ≠ [])
    (bare : ¬ Text.Occurs config.kindSeparator symbol) :
    ∃ events, Assembly.step config (reading.assembly config) symbol =
        ⟨.ok (assembly config { left := some (reading.complete, symbol) }), events⟩ ∧
      reading.joinings config ++ events = reading.complete.joinings config := by
  have read := read?_of_not_occurs separated bare
  obtain ⟨events, closed, joined⟩ := close_assembly config reading
  refine ⟨events, ?_, joined⟩
  have current : (reading.assembly config).current = some (compound reading.block) := by
    simp only [assembly, full, ↓reduceIte]
  simp only [Assembly.step, read, current, closed]
  rfl

end Reading

/-- The readings that accepted tokens lead to. -/
inductive Reads (config : Config) : List String → Reading → Prop where
  | start : Reads config [] {}
  | part {tokens : List String} {reading : Reading} {part : Part} {token : String}
      (before : Reads config tokens reading) (written : part.IsWritten config token)
      (accepted : ((compound reading.block).add part).error? = none) :
      Reads config (tokens ++ [token]) { reading with block := reading.block ++ [part] }
  | combinator {tokens : List String} {reading : Reading} {symbol : String}
      (before : Reads config tokens reading) (full : reading.block ≠ [])
      (bare : ¬ Text.Occurs config.kindSeparator symbol) :
      Reads config (tokens ++ [symbol]) { left := some (reading.complete, symbol) }

/-- After accepted tokens the assembly is in the state of their reading, and has reported its
joins. -/
theorem Reads.advance {config : Config} (separated : config.kindSeparator ≠ "")
    {tokens : List String} {reading : Reading} (reads : Reads config tokens reading) :
    Assembly.advance config {} tokens =
      ⟨.ok (reading.assembly config), reading.joinings config⟩ := by
  induction reads with
  | start => rfl
  | part before written accepted ih =>
    have stepped := Reading.step_part config separated _ written accepted
    have advanced := Assembly.advance_concat ih stepped
    rwa [List.append_nil] at advanced
  | combinator before full bare ih =>
    obtain ⟨events, stepped, joined⟩ := Reading.step_combinator config separated _ full bare
    have advanced := Assembly.advance_concat ih stepped
    rwa [joined] at advanced

/-- A token at which the assembly fails ends it, and what is reported there comes after the
joins. -/
theorem Reads.assemble_of_failure {config : Config} (separated : config.kindSeparator ≠ "")
    {tokens : List String} {reading : Reading} (reads : Reads config tokens reading)
    {token : String} {error : AssemblyError} {events : List Event}
    (failed : Assembly.step config (reading.assembly config) token = .failure error events)
    (rest : List String) :
    assemble config (tokens ++ token :: rest) =
      .failure error (reading.joinings config ++ events) := by
  rw [assemble, Assembly.run_append, reads.advance separated, Attempt.bind_of_ok _ _ _ rfl,
    Assembly.run, failed, Attempt.bind_failure]
  rfl

end CssSelector

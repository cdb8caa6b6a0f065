import CssSelector.Proofs.Faults

set_option autoImplicit false

namespace CssSelector

theorem assemble_eq_bind (config : Config) (tokens : List String) :
    assemble config tokens = (Assembly.advance config {} tokens).bind Assembly.finish := by
  have whole := Assembly.run_append config {} tokens []
  rwa [List.append_nil] at whole

theorem assemble_of_reads {config : Config} (separated : config.kindSeparator ≠ "")
    {tokens : List String} {reading : Reading} (reads : Reads config tokens reading)
    (full : reading.block ≠ []) :
    assemble config tokens =
      ⟨.ok (reading.complete.selector config), reading.complete.joinings config⟩ := by
  obtain ⟨events, closed, joined⟩ := reading.close_assembly config
  have finished : (reading.assembly config).finish =
      ⟨.ok (reading.complete.selector config), events⟩ := by
    simp only [Assembly.finish, Reading.assembly, full, ↓reduceIte]
    exact closed
  rw [assemble_eq_bind, reads.advance separated, Attempt.bind_of_ok _ _ _ rfl, finished, joined]

theorem assemble_of_reads_empty {config : Config} (separated : config.kindSeparator ≠ "")
    {tokens : List String} {reading : Reading} (reads : Reads config tokens reading)
    (empty : reading.block = []) :
    assemble config tokens = .failure (.malformed .missingPart) (reading.joinings config) := by
  have finished : (reading.assembly config).finish = .failure (.malformed .missingPart) [] := by
    simp only [Assembly.finish, Reading.assembly, empty, ↓reduceIte]
  rw [assemble_eq_bind, reads.advance separated, Attempt.bind_of_ok _ _ _ rfl, finished]
  simp only [Attempt.failure, List.append_nil]

theorem assemble_cases {config : Config} (separated : config.kindSeparator ≠ "")
    (tokens : List String) :
    (∃ before token after error, tokens = before ++ token :: after ∧ ¬ HasFault config before ∧
      IsFault config before token error ∧ (assemble config tokens).result = .error error) ∨
    (¬ HasFault config tokens ∧ AtBoundary config tokens ∧
      (assemble config tokens).result = .error (.malformed .missingPart)) ∨
    ∃ reading, Reads config tokens reading ∧ reading.block ≠ [] ∧
      (assemble config tokens).result = .ok (reading.complete.selector config) := by
  by_cases faulty : HasFault config tokens
  · obtain ⟨before, token, after, error, rfl, sound, fault⟩ := faulty.first
    have failed := assemble_of_fault separated sound fault after
    exact .inl ⟨before, token, after, error, rfl, sound, fault, failed⟩
  · obtain ⟨reading, reads⟩ := exists_reads_of_not_hasFault faulty
    by_cases empty : reading.block = []
    · have failed := congrArg Attempt.result (assemble_of_reads_empty separated reads empty)
      exact .inr (.inl ⟨faulty, reads.block_eq_nil_iff.mp empty, failed⟩)
    · have assembled := congrArg Attempt.result (assemble_of_reads separated reads empty)
      exact .inr (.inr ⟨reading, reads, empty, assembled⟩)

theorem reads_of_assemble {config : Config} (separated : config.kindSeparator ≠ "")
    {tokens : List String} {selector : Selector}
    (assembled : (assemble config tokens).result = .ok selector) :
    ∃ reading, Reads config tokens reading ∧ reading.block ≠ [] ∧
      selector = reading.complete.selector config := by
  rcases assemble_cases separated tokens with
    ⟨_, _, _, _, _, _, _, failed⟩ | ⟨_, _, failed⟩ | ⟨reading, reads, full, whole⟩
  · cases assembled.symm.trans failed
  · cases assembled.symm.trans failed
  · cases assembled.symm.trans whole
    exact ⟨reading, reads, full, rfl⟩

namespace Reading

/-- Tokens write a reading if they write what is on its left, its combinator, and its parts. -/
def IsWritten (config : Config) (reading : Reading) (tokens : List String) : Prop :=
  match reading.left with
  | none => List.Forall₂ (Part.IsWritten config) reading.block tokens
  | some (expression, symbol) =>
    ∃ before after, tokens = before ++ symbol :: after ∧ expression.IsWritten config before ∧
      ¬ Text.Occurs config.kindSeparator symbol ∧
      List.Forall₂ (Part.IsWritten config) reading.block after

def Accepted (reading : Reading) : Prop :=
  (∀ expression symbol, reading.left = some (expression, symbol) → expression.Accepted) ∧
    ({} : Selector).Accepts reading.block

theorem IsWritten.complete {config : Config} {reading : Reading} {tokens : List String}
    (written : reading.IsWritten config tokens) (full : reading.block ≠ []) :
    reading.complete.IsWritten config tokens := by
  rcases reading with ⟨left, block⟩
  cases left with
  | none => exact .compound full written
  | some pair =>
    obtain ⟨before, after, rfl, left, bare, parts⟩ := written
    exact .extend left bare full parts

theorem Accepted.complete {reading : Reading} (accepted : reading.Accepted) :
    reading.complete.Accepted := by
  obtain ⟨left, block⟩ := accepted
  cases known : reading.left with
  | none =>
    simpa only [Reading.complete, known, Expression.Accepted, Expression.blocks, List.map_nil,
      List.mem_singleton, forall_eq] using block
  | some pair =>
    rcases pair with ⟨expression, symbol⟩
    simp only [Reading.complete, known, Expression.accepted_extend]
    exact ⟨left expression symbol known, block⟩

end Reading

theorem Reads.isWritten {config : Config} {tokens : List String} {reading : Reading}
    (reads : Reads config tokens reading) :
    reading.IsWritten config tokens ∧ reading.Accepted := by
  induction reads with
  | start =>
    refine ⟨.nil, ?_, Selector.accepts_nil {}⟩
    rintro expression symbol absent
    cases absent
  | @part tokens reading part token before written accepted ih =>
    obtain ⟨tokensWritten, left, block⟩ := ih
    refine ⟨?_, left, (Selector.accepts_concat {} reading.block part).mpr ⟨block, accepted⟩⟩
    rcases reading with ⟨_ | ⟨expression, symbol⟩, parts⟩
    · exact List.rel_append tokensWritten (.cons written .nil)
    · obtain ⟨first, after, rfl, whole, bare, rest⟩ := tokensWritten
      refine ⟨first, after ++ [token], ?_, whole, bare, List.rel_append rest (.cons written .nil)⟩
      simp only [List.append_assoc, List.cons_append]
  | @combinator tokens reading symbol before full bare ih =>
    obtain ⟨written, accepted⟩ := ih
    refine ⟨⟨tokens, [], rfl, written.complete full, bare, .nil⟩, ?_, Selector.accepts_nil {}⟩
    rintro expression other same
    cases same
    exact accepted.complete

theorem Reads.append {config : Config} {before tokens : List String} {reading : Reading}
    {block : List Part} (reads : Reads config before reading)
    (written : List.Forall₂ (Part.IsWritten config) block tokens)
    (accepted : (compound reading.block).Accepts block) :
    Reads config (before ++ tokens) { reading with block := reading.block ++ block } := by
  induction written generalizing before reading with
  | nil => simpa only [List.append_nil] using reads
  | @cons part token block tokens head _ ih =>
    obtain ⟨fits, rest⟩ := (Selector.accepts_cons _ part block).mp accepted
    have grown : compound (reading.block ++ [part]) =
        ((compound reading.block).add part).selector := Selector.addAll_concat {} reading.block part
    have read := ih (reads.part head fits) (by simpa only [grown] using rest)
    simpa only [List.append_assoc, List.singleton_append] using read

theorem exists_reads {config : Config} {expression : Expression} {tokens : List String}
    (written : expression.IsWritten config tokens) (accepted : expression.Accepted) :
    ∃ reading, Reads config tokens reading ∧ reading.block ≠ [] ∧
      reading.complete = expression := by
  induction written with
  | @compound block tokens full parts =>
    have alone : ({} : Selector).Accepts block := accepted block List.mem_cons_self
    exact ⟨{ block }, Reads.start.append parts alone, full, rfl⟩
  | @extend expression before symbol block tokens left bare full parts ih =>
    obtain ⟨earlier, last⟩ := (Expression.accepted_extend expression symbol block).mp accepted
    obtain ⟨reading, reads, some, rfl⟩ := ih earlier
    have read := (reads.combinator some bare).append parts last
    refine ⟨{ left := Option.some (reading.complete, symbol), block }, ?_, full, rfl⟩
    simpa only [List.append_assoc, List.singleton_append, List.nil_append] using read

/-- A selector comes of tokens exactly if they write an expression whose compound selectors accept
their parts, and it is the one that the expression stands for. -/
theorem assemble_eq_ok_iff (config : Config) (separated : config.kindSeparator ≠ "")
    (tokens : List String) (selector : Selector) :
    (assemble config tokens).result = .ok selector ↔
      ∃ expression : Expression, expression.IsWritten config tokens ∧ expression.Accepted ∧
        selector = expression.selector config := by
  constructor
  · intro assembled
    obtain ⟨reading, reads, full, rfl⟩ := reads_of_assemble separated assembled
    have written := reads.isWritten.1
    have accepted := reads.isWritten.2
    exact ⟨reading.complete, written.complete full, accepted.complete, rfl⟩
  · rintro ⟨expression, written, accepted, rfl⟩
    obtain ⟨reading, reads, full, rfl⟩ := exists_reads written accepted
    rw [assemble_of_reads separated reads full]

/-- The separator may occur in a value, and the alias in a part. -/
theorem assemble_eq_ok_iff_aliased :
    (assemble { descendantAlias := "in", kindSeparator := "=" }
      ["class=a=b", "in", "element=in", "id=c", ">", "attr=d"]).result =
        .ok { joinedText := some ".a=b   in#c > [d]" } := by
  have written (part : Part) (token : String) (split : Text.splitOnce? token "=" =
      some (part.category.keyword, part.token)) :
      part.IsWritten { descendantAlias := "in", kindSeparator := "=" } token :=
    Text.splitOnce?_eq_some_iff.mp split
  have bare (symbol : String) (absent : Text.splitOnce? symbol "=" = none) :
      ¬ Text.Occurs "=" symbol := Text.splitOnce?_eq_none_iff.mp absent
  have first := Expression.IsWritten.compound (List.cons_ne_nil _ _)
    (.cons (written ⟨.className, "a=b"⟩ "class=a=b" (by decide)) .nil)
  have second := first.extend (bare "in" (by decide)) (List.cons_ne_nil _ _)
    (.cons (written ⟨.element, "in"⟩ "element=in" (by decide))
      (.cons (written ⟨.id, "c"⟩ "id=c" (by decide)) .nil))
  have third := second.extend (bare ">" (by decide)) (List.cons_ne_nil _ _)
    (.cons (written ⟨.attributeTest, "d"⟩ "attr=d" (by decide)) .nil)
  refine (assemble_eq_ok_iff _ (by decide) _ _).mpr ⟨_, third, ?_, ?_⟩
  · unfold Expression.Accepted
    decide
  · decide

end CssSelector

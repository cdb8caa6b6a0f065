import CssSelector.Proofs.AssemblyFailure
import CssSelector.Proofs.EventReports

set_option autoImplicit false

namespace CssSelector

/-- The reports of the joins of an expression from left to right, each with the text of all that is
on its left. -/
def Expression.joinReports (config : Config) (expression : Expression) : List String :=
  expression.rest.mapIdx fun index (symbol, block) =>
    joinReport (Expression.text config { expression with rest := expression.rest.take index })
      (config.combinator symbol) (compound block).text

theorem Expression.reports_joinings (config : Config) (expression : Expression) :
    Event.reports .debug (expression.joinings config) = expression.joinReports config := by
  rw [Event.reports_debug]
  apply List.ext_getElem
  · simp only [joinings, joinReports, List.length_map, List.length_mapIdx]
  · intro index inside alsoInside
    simp only [joinings, joinReports, List.getElem_map, List.getElem_mapIdx]
    rfl

theorem Expression.length_joinReports (config : Config) (expression : Expression) :
    (expression.joinReports config).length = expression.blocks.length - 1 := by
  simp only [joinReports, blocks, List.length_mapIdx, List.length_cons, List.length_map,
    Nat.add_sub_cancel]

namespace Reading

/-- The compound selectors that a combinator has closed. -/
def closed (reading : Reading) : List (List Part) :=
  match reading.left with
  | none => []
  | some (expression, _) => expression.blocks

def joinReports (config : Config) (reading : Reading) : List String :=
  match reading.left with
  | none => []
  | some (expression, _) => expression.joinReports config

theorem reports_joinings (config : Config) (reading : Reading) :
    Event.reports .debug (reading.joinings config) = reading.joinReports config := by
  rcases reading with ⟨_ | ⟨expression, symbol⟩, block⟩
  · rfl
  · exact expression.reports_joinings config

theorem length_joinReports (config : Config) (reading : Reading) :
    (reading.joinReports config).length = reading.closed.length - 1 := by
  rcases reading with ⟨_ | ⟨expression, symbol⟩, block⟩
  · rfl
  · exact expression.length_joinReports config

end Reading

/-- Where an assembly fails: at the first faulty token, or at the end if a part is missing there. -/
def FailsAt (config : Config) (before after : List String) (error : AssemblyError) : Prop :=
  (∃ token rest, after = token :: rest ∧ IsFault config before token error) ∨
    after = [] ∧ AtBoundary config before ∧ error = .malformed .missingPart

/-- What is reported of a failure. A rejection is reported with the text that the compound selector
has when it holds what it keeps of the rejected part. -/
inductive ReportsFailure (config : Config) (block : List Part) (after : List String) :
    AssemblyError → List String → Prop where
  | malformed (error : TokenError) : ReportsFailure config block after (.malformed error) []
  | rejected {token : String} {rest : List String} {part : Part} {error : PartError}
      (next : after = token :: rest) (written : part.IsWritten config token)
      (rejected : ((compound block).add part).error? = some error) :
      ReportsFailure config block after (.rejected error)
        [error.report (compound (block ++ [part])).text]

theorem exists_failing_reading {config : Config} (separated : config.kindSeparator ≠ "")
    {tokens : List String} {error : AssemblyError}
    (failed : (assemble config tokens).result = .error error) :
    ∃ before after reading, tokens = before ++ after ∧ Reads config before reading ∧
      FailsAt config before after error := by
  rcases (assemble_eq_error_iff separated).mp failed with
    ⟨before, token, rest, rfl, sound, fault⟩ | ⟨sound, boundary, missing⟩
  · obtain ⟨reading, reads⟩ := exists_reads_of_not_hasFault sound
    exact ⟨before, token :: rest, reading, rfl, reads, .inl ⟨token, rest, rfl, fault⟩⟩
  · obtain ⟨reading, reads⟩ := exists_reads_of_not_hasFault sound
    exact ⟨tokens, [], reading, (List.append_nil tokens).symm, reads, .inr ⟨rfl, boundary, missing⟩⟩

section Failures

variable {config : Config} {before after : List String} {reading : Reading}
  (reads : Reads config before reading)

include reads

/-- What is reported where an assembly fails comes after its joins. -/
theorem Reads.reports_of_failure (separated : config.kindSeparator ≠ "") {token : String}
    {error : AssemblyError} {events : List Event}
    (failed : Assembly.step config (reading.assembly config) token = .failure error events)
    (rest : List String) :
    Event.reports .debug (assemble config (before ++ token :: rest)).events =
      reading.joinReports config ++ Event.reports .debug events := by
  rw [reads.assemble_of_failure separated failed rest, Attempt.failure, Event.reports_append,
    reading.reports_joinings]

theorem Reads.reports_of_rejection (separated : config.kindSeparator ≠ "") {part : Part}
    {token : String} {error : PartError} (written : part.IsWritten config token)
    (rejected : ((compound reading.block).add part).error? = some error) (rest : List String) :
    Event.reports .debug (assemble config (before ++ token :: rest)).events =
      reading.joinReports config ++ [error.report (compound (reading.block ++ [part])).text] := by
  have failed := reading.step_rejected config separated written rejected
  have kept : ((compound reading.block).add part).selector = compound (reading.block ++ [part]) :=
    (Selector.addAll_concat {} reading.block part).symm
  rw [reads.reports_of_failure separated failed rest, Selector.Addition.reports_events, rejected,
    kept]
  rfl

theorem Reads.reports_of_failsAt (separated : config.kindSeparator ≠ "") {error : AssemblyError}
    (fails : FailsAt config before after error) :
    ∃ reports, ReportsFailure config reading.block after error reports ∧
      Event.reports .debug (assemble config (before ++ after)).events =
        reading.joinReports config ++ reports := by
  rcases fails with ⟨token, rest, rfl, fault⟩ | ⟨rfl, boundary, rfl⟩
  · cases fault with
    | unknownKind cut unknown =>
      have failed := reading.step_unknown config separated cut
        (Category.ofKeyword?_eq_none_iff.mpr unknown)
      exact ⟨[], .malformed _, reads.reports_of_failure separated failed rest⟩
    | strayCombinator bare boundary =>
      have failed := reading.step_stray config separated (reads.block_eq_nil_iff.mpr boundary) bare
      exact ⟨[], .malformed _, reads.reports_of_failure separated failed rest⟩
    | rejected own written rejected =>
      rw [own.unique reads.endsWithBlock] at rejected
      exact ⟨_, .rejected rfl written rejected,
        reads.reports_of_rejection separated written rejected rest⟩
  · refine ⟨[], .malformed _, ?_⟩
    rw [List.append_nil, List.append_nil,
      assemble_of_reads_empty separated reads (reads.block_eq_nil_iff.mpr boundary)]
    exact reading.reports_joinings config

end Failures

/-- An assembly reports the joins of its expression from left to right. If it fails, it has reported
those of the compound selectors that were closed before, one less than there are of them, and behind
them the rejection of a part, but no malformed token. -/
theorem reports_of_assemble (config : Config) (separated : config.kindSeparator ≠ "")
    (tokens : List String) :
    (∀ selector, (assemble config tokens).result = .ok selector →
      ∃ expression : Expression, expression.IsWritten config tokens ∧ expression.Accepted ∧
        selector = expression.selector config ∧
        Event.reports .debug (assemble config tokens).events = expression.joinReports config ∧
        (expression.joinReports config).length = expression.blocks.length - 1) ∧
    ∀ error, (assemble config tokens).result = .error error →
      ∃ (before after : List String) (reading : Reading) (reports : List String),
        tokens = before ++ after ∧
        reading.IsWritten config before ∧ reading.Accepted ∧ FailsAt config before after error ∧
        ReportsFailure config reading.block after error reports ∧
        Event.reports .debug (assemble config tokens).events =
          reading.joinReports config ++ reports ∧
        (reading.joinReports config).length = reading.closed.length - 1 := by
  constructor
  · intro selector assembled
    obtain ⟨reading, reads, full, rfl⟩ := reads_of_assemble separated assembled
    obtain ⟨written, accepted⟩ := reads.isWritten
    refine ⟨reading.complete, written.complete full, accepted.complete, rfl, ?_, ?_⟩
    · rw [assemble_of_reads separated reads full]
      exact reading.complete.reports_joinings config
    · exact reading.complete.length_joinReports config
  · intro error failed
    obtain ⟨before, after, reading, rfl, reads, fails⟩ := exists_failing_reading separated failed
    obtain ⟨written, accepted⟩ := reads.isWritten
    obtain ⟨reports, told, log⟩ := reads.reports_of_failsAt separated fails
    exact ⟨before, after, reading, reports, rfl, written, accepted, fails, told, log,
      reading.length_joinReports config⟩

/-- The alias is reported as the space that it stands for. An id that comes late is reported with
the compound selector that has kept it, which is not joined any more. -/
theorem reports_of_assemble_late_id :
    (∃ expression : Expression,
      expression.IsWritten {} ["element:a", ">", "id:b", "_", "class:c"] ∧
      expression.joinReports {} = [joinReport "a" ">" "#b", joinReport "a > #b" " " ".c"]) ∧
    ∃ (before after : List String) (reading : Reading) (reports : List String),
      before ++ after = ["element:a", ">", "id:b", "_", "class:c", "id:d", "~"] ∧
      reading.IsWritten {} before ∧
      FailsAt {} before after (.rejected (.misplaced .id .className)) ∧
      reading.joinReports {} ++ reports =
        [joinReport "a" ">" "#b", (PartError.misplaced .id .className).report "#d.c"] := by
  constructor
  · obtain ⟨expression, written, _, _, log, _⟩ :=
      (reports_of_assemble {} (by decide) ["element:a", ">", "id:b", "_", "class:c"]).1
        { joinedText := some "a > #b   .c" } (by decide)
    have events : (assemble {} ["element:a", ">", "id:b", "_", "class:c"]).events =
        [.combined "a" ">" "#b", .combined "a > #b" " " ".c"] := by decide
    rw [events] at log
    exact ⟨expression, written, log.symm⟩
  · obtain ⟨before, after, reading, reports, whole, written, _, fails, _, log, _⟩ :=
      (reports_of_assemble {} (by decide)
        ["element:a", ">", "id:b", "_", "class:c", "id:d", "~"]).2
        (.rejected (.misplaced .id .className)) (by decide)
    have events : (assemble {} ["element:a", ">", "id:b", "_", "class:c", "id:d", "~"]).events =
        [.combined "a" ">" "#b", .misplaced .id .className "#d.c"] := by decide
    rw [events] at log
    exact ⟨before, after, reading, reports, whole.symm, written, fails, log.symm⟩

end CssSelector

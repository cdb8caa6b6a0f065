import CssSelector.Proofs.AssemblyResult

set_option autoImplicit false

namespace CssSelector

theorem assemble_eq_error_iff {config : Config} (separated : config.kindSeparator ≠ "")
    {tokens : List String} {error : AssemblyError} :
    (assemble config tokens).result = .error error ↔
      (∃ before token after, tokens = before ++ token :: after ∧ ¬ HasFault config before ∧
        IsFault config before token error) ∨
      (¬ HasFault config tokens ∧ AtBoundary config tokens ∧ error = .malformed .missingPart) := by
  constructor
  · intro failed
    rcases assemble_cases separated tokens with
      ⟨before, token, after, first, whole, sound, fault, told⟩ | ⟨sound, boundary, told⟩ |
        ⟨_, _, _, assembled⟩
    · cases failed.symm.trans told
      exact .inl ⟨before, token, after, whole, sound, fault⟩
    · cases failed.symm.trans told
      exact .inr ⟨sound, boundary, rfl⟩
    · cases failed.symm.trans assembled
  · rintro (⟨before, token, after, rfl, sound, fault⟩ | ⟨sound, boundary, rfl⟩)
    · exact assemble_of_fault separated sound fault after
    · obtain ⟨reading, reads⟩ := exists_reads_of_not_hasFault sound
      rw [assemble_of_reads_empty separated reads (reads.block_eq_nil_iff.mpr boundary)]
      rfl

/-- The first faulty token decides on the error, or, when none is faulty, a part missing at the end
does; what follows a faulty token does not change it, and its message says what is wrong. -/
theorem assemble_fails_at_first_fault (config : Config) (separated : config.kindSeparator ≠ "")
    (tokens : List String) :
    (∀ error, (assemble config tokens).result = .error error ↔
      (∃ before token after, tokens = before ++ token :: after ∧ ¬ HasFault config before ∧
        IsFault config before token error) ∨
      (¬ HasFault config tokens ∧ AtBoundary config tokens ∧ error = .malformed .missingPart)) ∧
    (HasFault config tokens → ∀ rest,
      (assemble config (tokens ++ rest)).result = (assemble config tokens).result) ∧
    (∀ kind token, (AssemblyError.malformed (.unknownKind kind token)).message =
      "unknown part kind " ++ Text.quote kind ++ " in " ++ Text.quote token) ∧
    (∀ token, (AssemblyError.malformed (.strayCombinator token)).message =
      "combinator " ++ Text.quote token ++ " must follow a selector part") ∧
    (AssemblyError.malformed .missingPart).message =
      "expected a selector part after the last combinator" := by
  refine ⟨fun error => assemble_eq_error_iff separated, ?_, fun _ _ => rfl, fun _ => rfl, rfl⟩
  intro faulty rest
  obtain ⟨before, token, after, error, rfl, sound, fault⟩ := faulty.first
  rw [List.append_assoc, List.cons_append, assemble_of_fault separated sound fault,
    assemble_of_fault separated sound fault]

/-- A second id behind a combinator is no fault, an element behind that id is one, and whatever
comes next is not reached. -/
theorem assemble_fails_at_first_fault_behind_combinator :
    HasFault {} ["id:a", "class:b", ">", "id:a", "element:c"] ∧
      ∀ rest, (assemble {} (["id:a", "class:b", ">", "id:a", "element:c"] ++ rest)).result =
        .error (.rejected (.misplaced .element .id)) := by
  have written (part : Part) (token : String) (split : Text.splitOnce? token ":" =
      some (part.category.keyword, part.token)) : part.IsWritten {} token :=
    Text.splitOnce?_eq_some_iff.mp split
  have bare : ¬ Text.Occurs ":" ">" := Text.splitOnce?_eq_none_iff.mp (by decide)
  have block : EndsWithBlock {} ["id:a", "class:b", ">", "id:a"] [⟨.id, "a"⟩] :=
    ⟨["id:a", "class:b", ">"], ["id:a"], rfl, .inr ⟨["id:a", "class:b"], ">", rfl, bare⟩,
      .cons (written ⟨.id, "a"⟩ "id:a" (by decide)) .nil⟩
  have fault : IsFault {} ["id:a", "class:b", ">", "id:a"] "element:c"
      (.rejected (.misplaced .element .id)) :=
    .rejected block (written ⟨.element, "c"⟩ "element:c" (by decide)) (by decide)
  have faulty : HasFault {} ["id:a", "class:b", ">", "id:a", "element:c"] :=
    ⟨["id:a", "class:b", ">", "id:a"], "element:c", [], _, rfl, fault⟩
  obtain ⟨_, unread, _⟩ := assemble_fails_at_first_fault {} (by decide)
    ["id:a", "class:b", ">", "id:a", "element:c"]
  exact ⟨faulty, fun rest => (unread faulty rest).trans (by decide)⟩

end CssSelector

import CssSelector.Proofs.EventLevels
import CssSelector.Proofs.PrintableMessages
import CssSelector.Proofs.StepEffect

set_option autoImplicit false

namespace CssSelector

/-- Events of which each is reported on a line of its own, in a message that can be shown as it
is. -/
structure Event.OneLineEach (events : List Event) : Prop where
  inert : ∀ event ∈ events, Text.IsInert event.message
  lines : Text.lines (Event.lines events) = events.map report ++ [""]

theorem Event.oneLineEach (events : List Event) : OneLineEach events where
  inert event _ := event.prints_message.isInert
  lines := by
    have prints : ∀ text ∈ events.map report, Text.Prints text := by
      intro text member
      obtain ⟨event, _, rfl⟩ := List.mem_map.mp member
      exact event.prints_report
    rw [← Text.lines_join prints, Event.lines, List.map_map]
    rfl

/-- Whatever is in the parts, the names and the combinators of a script, and in the tokens and the
conventions of an assembly, there is one line for each event and no more, and its message and those
of all errors can be shown as they are. -/
theorem messages_cannot_be_forged :
    (∀ (script : List Workspace.Step) (final : Workspace) (answers : List Workspace.Answer),
      ({} : Workspace).run? script = some (final, answers) →
      Event.OneLineEach (answers.flatMap (·.events)) ∧
        ∀ answer ∈ answers, ∀ error,
          answer.reply.error? = some error → Text.IsInert error.message) ∧
    ∀ (config : Config) (tokens : List String),
      Event.OneLineEach (assemble config tokens).events ∧
        ∀ error, (assemble config tokens).result = .error error → Text.IsInert error.message := by
  constructor
  · intro script final answers _
    exact ⟨Event.oneLineEach _, fun _ _ error _ => error.prints_message.isInert⟩
  · intro config tokens
    exact ⟨Event.oneLineEach _, fun error _ => error.prints_message.isInert⟩

/-- An id with a line break and a command to the terminal in it is reported on one line, and a
combinator with both in it is quoted in the error. -/
theorem messages_cannot_be_forged_line_break :
    (∃ (final : Workspace) (answers : List Workspace.Answer),
      ({} : Workspace).run? [.add none ⟨.id, "a\nDEBUG:cssbuilder:b\x1b[2J"⟩ (some "s"),
        .add (some "s") ⟨.id, "c"⟩ none] = some (final, answers) ∧
      Text.lines (Event.lines (answers.flatMap (·.events))) =
        ["DEBUG:cssbuilder:duplicate id rejected in Selector('#a\\nDEBUG:cssbuilder:b\\x1b[2J')",
          ""] ∧
      Text.IsInert (PartError.duplicate .id).message) ∧
    (assemble {} ["\x1b[2J\n"]).result = .error (.malformed (.strayCombinator "\x1b[2J\n")) ∧
      Text.IsInert (AssemblyError.malformed (.strayCombinator "\x1b[2J\n")).message := by
  obtain ⟨ofScript, ofAssembly⟩ := messages_cannot_be_forged
  have ran : ({} : Workspace).run? [.add none ⟨.id, "a\nDEBUG:cssbuilder:b\x1b[2J"⟩ (some "s"),
      .add (some "s") ⟨.id, "c"⟩ none] = some (_, _) := rfl
  obtain ⟨told, inert⟩ := ofScript _ _ _ ran
  have stray : (assemble {} ["\x1b[2J\n"]).result =
      .error (.malformed (.strayCombinator "\x1b[2J\n")) := by
    decide
  refine ⟨⟨_, _, ran, told.lines.trans ?_, ?_⟩, stray, (ofAssembly _ _).2 _ stray⟩
  · decide +kernel
  · exact inert _ (List.mem_cons_of_mem _ List.mem_cons_self) _ rfl

end CssSelector

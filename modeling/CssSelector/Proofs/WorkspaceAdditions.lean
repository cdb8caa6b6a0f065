import CssSelector.Proofs.AcceptedText
import CssSelector.Workspace

set_option autoImplicit false

namespace CssSelector.Workspace

theorem selector?_eq_some_iff {workspace : Workspace} {name : String} {selector : Selector} :
    workspace.selector? name = some selector ↔
      ∃ place, workspace.place? name = some place ∧
        workspace.selectors[place]? = some selector := by
  simp only [selector?, Option.bind_eq_some_iff]

@[simp] theorem place?_bind_self (workspace : Workspace) (name : String) (place : Nat) :
    (workspace.bind (some name) place).place? name = some place := by
  simp only [place?, bind, List.lookup_cons_self]

def additions (name : String) (parts : List Part) : List Step :=
  parts.map fun part => .add (some name) part none

theorem addPart?_named {workspace : Workspace} {name : String} {selector : Selector}
    (known : workspace.selector? name = some selector) (part : Part) :
    ∃ after answer, workspace.addPart? (some name) part none = some (after, answer) ∧
      after.selector? name = some (selector.add part).selector := by
  obtain ⟨place, bound, present⟩ := selector?_eq_some_iff.mp known
  have inside : place < workspace.selectors.size := by
    obtain ⟨inside, _⟩ := Array.getElem?_eq_some_iff.mp present
    exact inside
  have stored : (workspace.store place (selector.add part).selector).selector? name =
      some (selector.add part).selector :=
    selector?_eq_some_iff.mpr ⟨place, bound, getElem?_store_self workspace place _ inside⟩
  simp only [addPart?, receiver?, bound, Option.map_some, Option.bind_eq_bind, Option.bind_some,
    present]
  cases (selector.add part).error? with
  | none => exact ⟨_, _, rfl, stored⟩
  | some error => exact ⟨_, _, rfl, stored⟩

theorem run?_additions {workspace : Workspace} {name : String} {selector : Selector}
    (known : workspace.selector? name = some selector) (parts : List Part) :
    ∃ after answers, workspace.run? (additions name parts) = some (after, answers) ∧
      after.selector? name = some (selector.addAll parts) := by
  induction parts generalizing workspace selector with
  | nil => exact ⟨workspace, [], rfl, known⟩
  | cons part rest ih =>
    obtain ⟨next, answer, performed, reached⟩ := addPart?_named known part
    obtain ⟨after, answers, ran, final⟩ := ih reached
    refine ⟨after, answer :: answers, ?_, final⟩
    rw [additions] at ran
    simp only [additions, List.map_cons, run?, perform?, performed, ran, Option.bind_eq_bind,
      Option.bind_some]

theorem addPart?_new (workspace : Workspace) (part : Part) (name : String) :
    ∃ after answer, workspace.addPart? none part (some name) = some (after, answer) ∧
      after.selector? name = some (({} : Selector).add part).selector := by
  have accepted : (({} : Selector).add part).error? = none := by
    rw [← Selector.addAll_nil {}, Selector.error?_add_addAll, verdict_eq_none_iff]
    refine ⟨isSpent_nil part.category, ?_⟩
    intro other member
    cases member
  have present : workspace.allocate.1.selectors[workspace.allocate.2]? = some {} := by
    simp only [allocate, Array.getElem?_push_size]
  have inside : workspace.allocate.2 < workspace.allocate.1.selectors.size := by
    simp only [allocate, Array.size_push]
    omega
  simp only [addPart?, receiver?, Option.bind_eq_bind, Option.bind_some, present, accepted]
  refine ⟨_, _, rfl, ?_⟩
  rw [selector?_eq_some_iff]
  refine ⟨_, place?_bind_self _ name _, ?_⟩
  rw [selectors_bind]
  exact getElem?_store_self _ _ _ inside

/-- A selector that accepts every part writes them in the order in which they came, both on its own
and under the name that it is given when the first part starts it. -/
theorem text_of_accepted_in_order (parts : List Part) (accepted : ({} : Selector).Accepts parts) :
    (({} : Selector).addAll parts).text = String.join (parts.map Part.text) ∧
      ∀ (workspace : Workspace) (name : String) (first : Part) (rest : List Part),
        parts = first :: rest →
        ∃ after answers selector,
          workspace.run? (.add none first (some name) :: additions name rest) =
            some (after, answers) ∧
          after.selector? name = some selector ∧
          selector.text = String.join (parts.map Part.text) := by
  have written := Selector.text_addAll_of_accepts accepted
  refine ⟨written, ?_⟩
  rintro workspace name first rest rfl
  obtain ⟨started, answer, performed, known⟩ := addPart?_new workspace first name
  obtain ⟨after, answers, ran, reached⟩ := run?_additions known rest
  refine ⟨after, answer :: answers, _, ?_, reached, written⟩
  simp only [run?, perform?, performed, ran, Option.bind_eq_bind, Option.bind_some]

/-- An empty element leaves no trace in front of the one that replaces it. -/
theorem text_of_accepted_in_order_blank_element :
    ({} : Selector).Accepts [⟨.element, ""⟩, ⟨.element, "a"⟩, ⟨.className, "b"⟩,
        ⟨.className, "c"⟩, ⟨.pseudoElement, "d"⟩] ∧
      (({} : Selector).addAll [⟨.element, ""⟩, ⟨.element, "a"⟩, ⟨.className, "b"⟩,
        ⟨.className, "c"⟩, ⟨.pseudoElement, "d"⟩]).text = "a.b.c::d" ∧
      ∃ after answers selector,
        ({} : Workspace).run? (.add none ⟨.element, ""⟩ (some "s") :: additions "s"
          [⟨.element, "a"⟩, ⟨.className, "b"⟩, ⟨.className, "c"⟩, ⟨.pseudoElement, "d"⟩]) =
            some (after, answers) ∧
        after.selector? "s" = some selector ∧ selector.text = "a.b.c::d" := by
  have accepted : ({} : Selector).Accepts [⟨.element, ""⟩, ⟨.element, "a"⟩, ⟨.className, "b"⟩,
      ⟨.className, "c"⟩, ⟨.pseudoElement, "d"⟩] := by decide
  have written := text_of_accepted_in_order _ accepted
  exact ⟨accepted, written.1, written.2 {} "s" _ _ rfl⟩

end CssSelector.Workspace

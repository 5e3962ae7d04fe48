import Mathlib.Data.List.Induction
import Mathlib.Logic.Relation

/-!
# Histories of events

A run of several parties is the list of what has happened, in the order in which
it has happened.  A rule says which event is legal after which history, and
`Run` adds legal events one by one: the order of the parties is whatever the
list says.

* `run_iff` says that a history is a run exactly when each event was legal at
  its time.
* `run_before` says that what comes before an event of a run is a run, so that
  what is shown of every run holds at the time of the event.
* `Run.refines` says that the runs of a rule are runs of another one, when this
  allows everything that is legal after a run.
-/

namespace Wimsey.System

variable {Event : Type} (legal : List Event → Event → Prop)

/-- A legal event happens. -/
inductive Extend : List Event → List Event → Prop
  | mk (history : List Event) {event : Event} (isLegal : legal history event) :
      Extend history (history ++ [event])

/-- The histories of the runs. -/
abbrev Run (history : List Event) : Prop :=
  Relation.ReflTransGen (Extend legal) [] history

/-- The event happens in the history, after these others. -/
def Occurs (before : List Event) (event : Event)
    (history : List Event) : Prop :=
  ∃ after, history = before ++ event :: after

variable {legal} {before history : List Event} {event : Event}

theorem exists_occurs_of_mem (h : event ∈ history) :
    ∃ before, Occurs before event history := by
  obtain ⟨before, after, rfl⟩ := List.mem_iff_append.1 h
  exact ⟨before, after, rfl⟩

theorem Occurs.mem (h : Occurs before event history) : event ∈ history := by
  obtain ⟨after, rfl⟩ := h
  simp

/-- What happens in an extended history has happened before, or is the new
event. -/
theorem occurs_append_iff {new : Event} :
    Occurs before event (history ++ [new]) ↔
      Occurs before event history ∨ before = history ∧ event = new := by
  constructor
  · intro ⟨after, h⟩
    cases after using List.reverseRecOn with
    | nil =>
      obtain ⟨hbefore, hevent⟩ := List.append_inj' h rfl
      exact Or.inr ⟨hbefore.symm, (List.cons.inj hevent).1.symm⟩
    | append_singleton after last =>
      rw [← List.cons_append, ← List.append_assoc] at h
      exact Or.inl ⟨after, (List.append_inj' h rfl).1⟩
  · rintro (⟨after, rfl⟩ | ⟨rfl, rfl⟩)
    · exact ⟨after ++ [new], by simp⟩
    · exact ⟨[], rfl⟩

/-- What has happened before an event has happened. -/
theorem Occurs.trans {earlier : List Event} {cause : Event}
    (h : Occurs earlier cause before) (h' : Occurs before event history) :
    Occurs earlier cause history := by
  obtain ⟨after, rfl⟩ := h
  obtain ⟨after', rfl⟩ := h'
  exact ⟨after ++ event :: after', by simp⟩

/-- A history is that of a run exactly when each event was legal when it
happened. -/
theorem run_iff :
    Run legal history ↔ ∀ before event, Occurs before event history →
    legal before event := by
  constructor
  · intro h
    induction h with
    | refl =>
      rintro before event ⟨after, h⟩
      simp at h
    | tail _ hstep ih =>
      obtain ⟨hlegal⟩ := hstep
      intro before event h
      rcases occurs_append_iff.1 h with h | ⟨rfl, rfl⟩
      · exact ih before event h
      · exact hlegal
  · intro h
    induction history using List.reverseRecOn with
    | nil => exact .refl
    | append_singleton history event ih =>
      have hrun :=
        ih fun before e hoccurs =>
          h before e (occurs_append_iff.2 (.inl hoccurs))
      exact hrun.tail
        (.mk history (h history event (occurs_append_iff.2 (.inr ⟨rfl, rfl⟩))))

/-- What comes before an event of a run is a run. -/
theorem run_before (h : Run legal history)
    (hoccurs : Occurs before event history) :
    Run legal before := by
  rw [run_iff] at h ⊢
  exact fun earlier cause hcause => h earlier cause (hcause.trans hoccurs)

/-- The runs of a rule are runs of another one that allows, after each of them,
what the rule allows. -/
theorem Run.refines {allowed : List Event → Event → Prop}
    (h : Run legal history) (hstep : ∀ {history event}, Run legal history →
      legal history event → allowed history event) :
    Run allowed history := by
  rw [run_iff]
  intro before event hoccurs
  exact hstep (run_before h hoccurs) (run_iff.1 h before event hoccurs)

end Wimsey.System

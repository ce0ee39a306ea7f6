/-
This file is about traces: the labels that a labelled transition relation accepts, from
one state to another.

A trace can be cut anywhere, and its halves meet in a state. What holds at the start
and is kept by every label of a trace, as a property of the labels seen so far and the
state they lead to, holds at its end.
-/

import Mathlib

namespace Trace

variable {State Label : Type} {next : State → Label → State → Prop}

/-- The labels lead from one state to another. -/
def Runs (next : State → Label → State → Prop) : State → List Label → State → Prop
  | start, [], finish => start = finish
  | start, label :: rest, finish => ∃ middle, next start label middle ∧ Runs next middle rest finish

theorem runs_append {start finish : State} {first second : List Label} :
    Runs next start (first ++ second) finish ↔
      ∃ middle, Runs next start first middle ∧ Runs next middle second finish := by
  induction first generalizing start with
  | nil => exact ⟨fun runs => ⟨start, rfl, runs⟩, fun ⟨middle, same, runs⟩ => same ▸ runs⟩
  | cons label rest inductionHypothesis =>
    constructor
    · rintro ⟨other, stepped, runs⟩
      obtain ⟨middle, before, after⟩ := inductionHypothesis.mp runs
      exact ⟨middle, ⟨other, stepped, before⟩, after⟩
    · rintro ⟨middle, ⟨other, stepped, before⟩, after⟩
      exact ⟨other, stepped, inductionHypothesis.mpr ⟨middle, before, after⟩⟩

theorem runs_singleton {start finish : State} {label : Label} :
    Runs next start [label] finish ↔ next start label finish :=
  ⟨fun ⟨_, stepped, same⟩ => same ▸ stepped, fun stepped => ⟨finish, stepped, rfl⟩⟩

/-- What every label keeps holds at the end. -/
theorem Runs.invariant {start finish : State} {labels : List Label}
    (runs : Runs next start labels finish) (invariant : List Label → State → Prop)
    (begins : invariant [] start)
    (continues : ∀ seen label before after, label ∈ labels → invariant seen before →
      next before label after → invariant (seen ++ [label]) after) : invariant labels finish := by
  induction labels using List.reverseRecOn generalizing finish with
  | nil =>
    obtain rfl : start = finish := runs
    exact begins
  | append_singleton labels label inductionHypothesis =>
    obtain ⟨middle, before, last⟩ := runs_append.mp runs
    have holds := inductionHypothesis before fun seen other start finish listed =>
      continues seen other start finish (List.mem_append_left _ listed)
    exact continues labels label middle finish (List.mem_append_right _ List.mem_cons_self) holds
      (runs_singleton.mp last)

end Trace

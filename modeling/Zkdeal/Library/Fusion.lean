/-
This file is about loops that take several steps in one pass. A loop runs a step until the
state has ended; a fused step is a step or two, and the second one is not taken in a state
that has ended. The fused loop then passes through states of the plain one, and it stops where
the plain one stops, if either of them does.
-/

import Mathlib.Computability.StateTransition

namespace Fusion

open StateTransition

variable {State : Type} {ended : State → Bool} {step fused : State → State}

/-- One pass of the loop. -/
def pass (ended : State → Bool) (step : State → State) (state : State) : Option State :=
  if ended state then none else some (step state)

theorem pass_of_not_ended {state : State} (going : ended state = false) :
    pass ended step state = some (step state) := by
  rw [pass, going, if_neg Bool.false_ne_true]

/-- A fused step is a step, or a step that does not end the loop and the one after it. -/
def Fuses (ended : State → Bool) (step fused : State → State) : Prop :=
  ∀ state, ended state = false →
    fused state = step state ∨ ended (step state) = false ∧ fused state = step (step state)

/-- A pass of the fused loop is one or more passes of the plain one. -/
theorem Fuses.respects (fuses : Fuses ended step fused) :
    Respects (pass ended fused) (pass ended step) fun state other => id state = other := by
  refine fun_respects.mpr fun state => ?_
  cases going : ended state with
  | true =>
    rw [pass, going, if_pos rfl]
    show pass ended step state = none
    rw [pass, going, if_pos rfl]
  | false =>
    rw [pass_of_not_ended going]
    show Reaches₁ (pass ended step) state (fused state)
    have first : Reaches₁ (pass ended step) state (step state) :=
      .single (pass_of_not_ended going)
    rcases fuses state going with once | ⟨goingOn, twice⟩
    · rwa [once]
    · rw [twice]
      exact first.tail (pass_of_not_ended goingOn)

/-- The fused loop passes through states of the plain one. -/
theorem Fuses.reaches (fuses : Fuses ended step fused) {start state : State}
    (reached : Reaches (pass ended fused) start state) : Reaches (pass ended step) start state := by
  obtain ⟨other, rfl, plain⟩ := tr_reaches fuses.respects rfl reached
  exact plain

/-- The fused loop ends where the plain one does. -/
theorem Fuses.eval_eq (fuses : Fuses ended step fused) (start : State) :
    eval (pass ended fused) start = eval (pass ended step) start := by
  rw [← id_map (eval (pass ended fused) start)]
  exact (tr_eval' _ _ id fuses.respects start).symm

end Fusion

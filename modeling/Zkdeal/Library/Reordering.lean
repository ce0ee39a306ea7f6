/-
This file is about loops whose order does not matter. Two states are alike if the
rest of a program cannot tell them apart; a loop ends in alike states whatever order
it takes its items in, as soon as any two of its steps commute up to that.
-/

import Mathlib

namespace Reordering

variable {State Item : Type} {alike : State → State → Prop} {step : State → Item → State}

/-- Item by item the same steps lead from alike states to alike states. -/
theorem foldl_alike_of_forall₂ {same : Item → Item → Prop}
    (respects : ∀ state other item twin, alike state other → same item twin →
      alike (step state item) (step other twin))
    {items twins : List Item} (pairs : List.Forall₂ same items twins) {state other : State}
    (starts : alike state other) : alike (items.foldl step state) (twins.foldl step other) := by
  induction pairs generalizing state other with
  | nil => exact starts
  | cons paired _ inductionHypothesis =>
    exact inductionHypothesis (respects _ _ _ _ starts paired)

/-- Steps that commute pairwise up to likeness can be taken in any order. -/
theorem foldl_alike_of_perm (equivalence : Equivalence alike) {apart : Item → Item → Prop}
    (symmetric : ∀ {item other}, apart item other → apart other item)
    (respects : ∀ state other item, alike state other → alike (step state item) (step other item))
    (commutes : ∀ state item other, apart item other →
      alike (step (step state item) other) (step (step state other) item))
    {items shuffled : List Item} (perm : items.Perm shuffled) (distinct : items.Pairwise apart)
    (state : State) : alike (items.foldl step state) (shuffled.foldl step state) := by
  have rest (items : List Item) {state other : State} (starts : alike state other) :
      alike (items.foldl step state) (items.foldl step other) := by
    refine foldl_alike_of_forall₂ ?_ (List.forall₂_same.mpr fun item _ => Eq.refl item) starts
    rintro state other item _ starts rfl
    exact respects state other item starts
  induction perm generalizing state with
  | nil => exact equivalence.refl _
  | cons item _ inductionHypothesis =>
    exact inductionHypothesis (List.pairwise_cons.mp distinct).2 (step state item)
  | swap first second tail =>
    have separate := (List.pairwise_cons.mp distinct).1 first List.mem_cons_self
    exact rest tail (commutes state second first separate)
  | trans front _ firstHypothesis secondHypothesis =>
    have middle := (front.pairwise_iff symmetric).mp distinct
    exact equivalence.trans (firstHypothesis distinct state) (secondHypothesis middle state)

end Reordering

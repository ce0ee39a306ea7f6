/-
This file is about a memory that is written cell by cell: what a list of writes
leaves behind, and when every one of them can still be read afterwards.
-/

import Mathlib

namespace Writes

variable {Cell Value : Type} [DecidableEq Cell]

/-- Write a list of values one after the other. -/
def apply (memory : Cell → Value) (writes : List (Cell × Value)) : Cell → Value :=
  writes.foldl (fun written write => Function.update written write.1 write.2) memory

theorem apply_concat (memory : Cell → Value) (writes : List (Cell × Value))
    (write : Cell × Value) :
    apply memory (writes ++ [write]) = Function.update (apply memory writes) write.1 write.2 := by
  rw [apply, List.foldl_append, List.foldl_cons, List.foldl_nil, apply]

/-- A cell that is not written keeps its value. -/
theorem apply_of_notMem {memory : Cell → Value} {writes : List (Cell × Value)} {cell : Cell}
    (unwritten : ∀ write ∈ writes, write.1 ≠ cell) : apply memory writes cell = memory cell := by
  induction writes generalizing memory with
  | nil => rfl
  | cons write rest inductionHypothesis =>
    obtain ⟨different, others⟩ := List.forall_mem_cons.mp unwritten
    rw [apply, List.foldl_cons, ← apply, inductionHypothesis others,
      Function.update_of_ne different.symm]

/-- A cell that is written holds one of the values written to it. -/
theorem exists_write {memory : Cell → Value} {writes : List (Cell × Value)} {cell : Cell}
    (written : ∃ write ∈ writes, write.1 = cell) :
    ∃ write ∈ writes, write.1 = cell ∧ apply memory writes cell = write.2 := by
  induction writes generalizing memory with
  | nil =>
    obtain ⟨write, member, -⟩ := written
    cases member
  | cons first rest inductionHypothesis =>
    rw [apply, List.foldl_cons, ← apply]
    by_cases later : ∃ write ∈ rest, write.1 = cell
    · obtain ⟨write, member, same, holds⟩ := inductionHypothesis later
      exact ⟨write, List.mem_cons_of_mem _ member, same, holds⟩
    · have untouched : ∀ write ∈ rest, write.1 ≠ cell :=
        fun write member same => later ⟨write, member, same⟩
      obtain ⟨write, member, same⟩ := written
      rcases List.mem_cons.mp member with rfl | member
      · refine ⟨write, List.mem_cons_self, same, ?_⟩
        rw [apply_of_notMem untouched, ← same, Function.update_self]
      · exact absurd same (untouched write member)

/-- Every write can be read back exactly when no two of them disagree about a cell. -/
theorem apply_eq_iff (memory : Cell → Value) (writes : List (Cell × Value)) :
    (∀ write ∈ writes, apply memory writes write.1 = write.2) ↔
      ∀ first ∈ writes, ∀ second ∈ writes, first.1 = second.1 → first.2 = second.2 := by
  constructor
  · intro holds first firstListed second secondListed same
    rw [← holds first firstListed, ← holds second secondListed, same]
  · intro agree write listed
    obtain ⟨last, lastListed, same, holds⟩ := exists_write ⟨write, listed, rfl⟩
    rw [holds]
    exact agree last lastListed write listed same

end Writes

/-
This file is the sponge construction over bit strings, for any permutation of a
state of any width.

A message is padded with a one, as few zeros as possible and a one, to a multiple of
the rate; block after block is added to the first bits of the state and the state is
permuted; and the output is read from the first bits of the state, which is permuted
again whenever they are used up.

Messages mostly come as strings of longer units. Cutting such a string into chunks
and writing every unit as bits may be done in either order.
-/

import Mathlib.Logic.Function.Iterate
import Zkdeal.Library.Words

namespace Sponge

/-! ### Chunks -/

section Chunks

variable {Item Part : Type}

/-- The complete chunks of a list, in order. -/
def chunksExact (size : Nat) (items : List Item) : List (List Item) :=
  (List.range (items.length / size)).map fun index => (items.drop (index * size)).take size

/-- What the complete chunks leave over. -/
def remainder (size : Nat) (items : List Item) : List Item :=
  items.drop (items.length / size * size)

theorem length_remainder (size : Nat) (items : List Item) :
    (remainder size items).length = items.length % size := by
  rw [remainder, List.length_drop, Nat.mod_eq_sub, Nat.mul_comm]

theorem length_of_mem_chunksExact {size : Nat} {items chunk : List Item}
    (member : chunk ∈ chunksExact size items) : chunk.length = size := by
  obtain ⟨index, among, rfl⟩ := List.mem_map.mp member
  have inside : (index + 1) * size ≤ items.length :=
    (Nat.mul_le_mul_right size (List.mem_range.mp among)).trans (Nat.div_mul_le_self _ _)
  rw [Nat.succ_mul] at inside
  rw [List.length_take, List.length_drop]
  omega

/-- What fills up the last chunk makes it the last one. -/
theorem chunksExact_append {size : Nat} {items filling : List Item}
    (fills : (remainder size items ++ filling).length = size) (positive : 0 < size) :
    chunksExact size (items ++ filling) =
      chunksExact size items ++ [remainder size items ++ filling] := by
  have covered := Nat.div_mul_le_self items.length size
  have total : (items ++ filling).length = (items.length / size + 1) * size := by
    rw [List.length_append, remainder, List.length_drop] at fills
    rw [List.length_append, Nat.succ_mul]
    omega
  rw [chunksExact, chunksExact, total, Nat.mul_div_cancel _ positive, List.range_succ,
    List.map_append, List.map_singleton]
  congr 1
  · refine List.map_congr_left fun index among => ?_
    have inside : (index + 1) * size ≤ items.length :=
      (Nat.mul_le_mul_right size (List.mem_range.mp among)).trans covered
    rw [Nat.succ_mul] at inside
    rw [List.drop_append_of_le_length (by omega), List.take_append_of_le_length]
    rw [List.length_drop]
    omega
  · rw [List.drop_append_of_le_length covered, ← remainder, List.take_of_length_le fills.le]

section Fixed

variable {write : Item → List Part} {width : Nat} (fixed : ∀ item, (write item).length = width)

include fixed

theorem length_flatMap_fixed (items : List Item) :
    (items.flatMap write).length = items.length * width := by
  induction items with
  | nil => rw [List.flatMap_nil, List.length_nil, List.length_nil, Nat.zero_mul]
  | cons item rest inductionHypothesis =>
    rw [List.flatMap_cons, List.length_append, fixed, inductionHypothesis, List.length_cons,
      Nat.succ_mul, Nat.add_comm]

theorem drop_flatMap_fixed (count : Nat) (items : List Item) :
    (items.flatMap write).drop (count * width) = (items.drop count).flatMap write := by
  induction count generalizing items with
  | zero => rw [Nat.zero_mul, List.drop_zero, List.drop_zero]
  | succ count inductionHypothesis =>
    cases items with
    | nil => rw [List.flatMap_nil, List.drop_nil, List.drop_nil, List.flatMap_nil]
    | cons item rest =>
      rw [List.flatMap_cons, Nat.succ_mul, Nat.add_comm, ← List.drop_drop,
        List.drop_left' (fixed item), inductionHypothesis, List.drop_succ_cons]

theorem take_flatMap_fixed (count : Nat) (items : List Item) :
    (items.flatMap write).take (count * width) = (items.take count).flatMap write := by
  induction count generalizing items with
  | zero => rw [Nat.zero_mul, List.take_zero, List.take_zero, List.flatMap_nil]
  | succ count inductionHypothesis =>
    cases items with
    | nil => rw [List.flatMap_nil, List.take_nil, List.take_nil, List.flatMap_nil]
    | cons item rest =>
      rw [List.flatMap_cons, Nat.succ_mul, Nat.add_comm, ← fixed item, List.take_length_add_append,
        fixed item, inductionHypothesis, List.take_succ_cons, List.flatMap_cons]

/-- Chunks of units are chunks of what is written for them. -/
theorem chunksExact_flatMap (positive : 0 < width) (size : Nat) (items : List Item) :
    chunksExact (size * width) (items.flatMap write) =
      (chunksExact size items).map (List.flatMap write) := by
  rw [chunksExact, chunksExact, length_flatMap_fixed fixed, Nat.mul_div_mul_right _ _ positive,
    List.map_map]
  refine List.map_congr_left fun index _ => ?_
  rw [← Nat.mul_assoc, drop_flatMap_fixed fixed, take_flatMap_fixed fixed, Function.comp_apply]

end Fixed

end Chunks

/-! ### The construction -/

/-- The state whose first bits are the given ones, with zeros behind them. -/
def ofBits (width : Nat) (bits : List Bool) : BitVec width :=
  BitVec.ofFnLE fun index => bits.getD index false

/-- A one, as few zeros as make the whole a multiple of the rate, and a one. -/
def padding (rate length : Nat) : List Bool :=
  true :: (List.replicate ((rate - (length + 2) % rate) % rate) false ++ [true])

section Construction

variable {width : Nat} (permutation : BitVec width → BitVec width) (rate : Nat)

def absorb (state : BitVec width) (block : List Bool) : BitVec width :=
  permutation (state ^^^ ofBits width block)

/-- The state after a padded message. -/
def absorbAll (bits : List Bool) : BitVec width :=
  (chunksExact rate bits).foldl (absorb permutation) 0

/-- The first bits that come out of a state. -/
def squeeze (state : BitVec width) (count : Nat) : List Bool :=
  (List.range count).map fun index =>
    (permutation^[index / rate] state).getLsbD (index % rate)

/-- The sponge: the given number of output bits of a message. -/
def hash (message : List Bool) (count : Nat) : List Bool :=
  squeeze permutation rate
    (absorbAll permutation rate (message ++ padding rate message.length)) count

/-- Output that fits into one block is read off the state. -/
theorem squeeze_of_le {count : Nat} (short : count ≤ rate) (state : BitVec width) :
    squeeze permutation rate state count = (List.range count).map state.getLsbD := by
  refine List.map_congr_left fun index among => ?_
  have inside := (List.mem_range.mp among).trans_le short
  rw [Nat.div_eq_of_lt inside, Nat.mod_eq_of_lt inside, Function.iterate_zero_apply]

end Construction

end Sponge

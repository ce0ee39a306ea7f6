/-
This file models the guest's Keccak-256 and proves that it is the sponge over its
permutation, with a rate of 136 bytes and the legacy padding.

The guest keeps the state as twenty-five lanes and adds a block to it lane by lane; the
sponge keeps one string of bits. Bit `z` of lane `l` is bit `64 * l + z` of the string,
and bit `z` of a byte is its bit `z` in either. The permutation is the accelerator's,
and nothing is assumed about it.
-/

import Zkdeal.Library.Sponge
import Zkdeal.Types

namespace Zkdeal

open Words Sponge

/-- The byte width of a block. -/
def keccak256Rate : Nat := 136

/-- The twenty-five lanes of the state. -/
abbrev Lanes : Type := Vector U64 25

/-! ### The guest's code -/

/-- The word whose bytes are given from the lowest. -/
def fromLeBytes (bytes : Bytes) : U64 :=
  bytes.foldr (fun byte word => (word <<< 8) ||| byte.setWidth 64) 0

/-- The bytes of a word, from the lowest. -/
def toLeBytes (word : U64) : Bytes :=
  (List.range 8).map fun index => word.extractLsb' (8 * index) 8

/-- `state[lane] ^= word`. -/
def xorLane (state : Lanes) (lane : Nat) (word : U64) : Lanes :=
  state.mapIdx fun index own => if index = lane then own ^^^ word else own

/-- The lanes of a state after the words of a block were added to the first of them. -/
def xorBlock (state : Lanes) (block : Bytes) : Lanes :=
  (chunksExact 8 block).zipIdx.foldl
    (fun state entry => xorLane state entry.2 (fromLeBytes entry.1)) state

/-- The block of what the complete blocks left over, with the padding in it. -/
def finalBlock (remainder : Bytes) : Bytes :=
  let block := remainder ++ List.replicate (keccak256Rate - remainder.length) 0
  let block := block.modify remainder.length (· ^^^ 0x01)
  block.modify (keccak256Rate - 1) (· ^^^ 0x80)

section Guest

variable (permute : Lanes → Lanes)

def absorbBlock (state : Lanes) (block : Bytes) : Lanes := permute (xorBlock state block)

def nativeKeccak256 (input : Bytes) : Bytes :=
  let state := (chunksExact keccak256Rate input).foldl (absorbBlock permute)
    (Vector.replicate 25 0)
  let state := absorbBlock permute state (finalBlock (remainder keccak256Rate input))
  (state.toList.take 4).flatMap toLeBytes

end Guest

/-- The legacy padding of a message of the given length, in bytes. -/
def legacyPadding (length : Nat) : Bytes :=
  let gap := keccak256Rate - length % keccak256Rate
  if gap = 1 then [0x81] else 0x01 :: (List.replicate (gap - 2) 0 ++ [0x80])

/-! ### Bits -/

/-- The bits of a word, from the lowest. -/
def wordBits {width : Nat} (word : BitVec width) : List Bool := (List.range width).map word.getLsbD

def bytesBits (bytes : Bytes) : List Bool := bytes.flatMap wordBits

/-- The state as one string. -/
def stateBits (state : Lanes) : BitVec 1600 :=
  BitVec.ofFnLE fun index => (state.get ⟨index / 64, by omega⟩).getLsbD (index % 64)

/-- The lanes of a string. -/
def bitsLanes (bits : BitVec 1600) : Lanes :=
  Vector.ofFn fun lane => bits.extractLsb' (64 * lane) 64

/-- A permutation of the lanes, as one of strings. -/
def onLanes (permute : Lanes → Lanes) (bits : BitVec 1600) : BitVec 1600 :=
  stateBits (permute (bitsLanes bits))

section Bits

theorem length_wordBits {width : Nat} (word : BitVec width) : (wordBits word).length = width := by
  rw [wordBits, List.length_map, List.length_range]

theorem getElem?_wordBits {width index : Nat} (word : BitVec width) (inside : index < width) :
    (wordBits word)[index]? = some (word.getLsbD index) := by
  rw [wordBits, List.getElem?_map, List.getElem?_range inside, Option.map_some]

theorem length_bytesBits (bytes : Bytes) : (bytesBits bytes).length = bytes.length * 8 :=
  length_flatMap_fixed length_wordBits bytes

theorem getElem?_bytesBits {bytes : Bytes} {index : Nat} (inside : index < bytes.length * 8) :
    (bytesBits bytes)[index]? = some ((bytes.getD (index / 8) 0).getLsbD (index % 8)) := by
  have reached : index / 8 < bytes.length := by omega
  have placed := getElem?_flatMap_of_fixed (fun byte _ => length_wordBits byte)
    (List.getElem?_eq_getElem reached) (Nat.mod_lt index (by decide))
  rw [Nat.div_add_mod] at placed
  rw [bytesBits, placed, getElem?_wordBits _ (Nat.mod_lt index (by decide)),
    List.getD_eq_getElem _ _ reached]

theorem chunksExact_bytesBits (size : Nat) (bytes : Bytes) :
    chunksExact (size * 8) (bytesBits bytes) = (chunksExact size bytes).map bytesBits :=
  chunksExact_flatMap length_wordBits (by decide) size bytes

/-- Behind a string of bytes there are only zeros. -/
theorem getLsbD_ofBits_bytesBits {bytes : Bytes} {width index : Nat} (inside : index < width) :
    (ofBits width (bytesBits bytes)).getLsbD index =
      (bytes.getD (index / 8) 0).getLsbD (index % 8) := by
  rw [ofBits, BitVec.getLsbD_ofFnLE, dif_pos inside, List.getD_eq_getElem?_getD]
  by_cases reached : index < bytes.length * 8
  · rw [getElem?_bytesBits reached, Option.getD_some]
  · have behind : (bytesBits bytes).length ≤ index := by
      rw [length_bytesBits]
      omega
    rw [List.getElem?_eq_none behind, List.getD_eq_default _ _ (by omega)]
    exact BitVec.getLsbD_zero.symm

theorem getLsbD_fromLeBytes {bytes : Bytes} {index : Nat} (inside : index < 64) :
    (fromLeBytes bytes).getLsbD index = (bytes.getD (index / 8) 0).getLsbD (index % 8) := by
  induction bytes generalizing index with
  | nil => exact BitVec.getLsbD_zero.trans BitVec.getLsbD_zero.symm
  | cons byte rest inductionHypothesis =>
    rw [fromLeBytes, List.foldr_cons, ← fromLeBytes, BitVec.getLsbD_or, BitVec.getLsbD_shiftLeft,
      BitVec.getLsbD_setWidth, decide_eq_true inside]
    by_cases low : index < 8
    · rw [Nat.div_eq_of_lt low, Nat.mod_eq_of_lt low, List.getD_cons_zero, decide_eq_true low]
      simp
    · rw [BitVec.getLsbD_of_ge byte index (by omega), inductionHypothesis (by omega),
        decide_eq_false low, show index / 8 = (index - 8) / 8 + 1 by omega, List.getD_cons_succ,
        show index % 8 = (index - 8) % 8 by omega]
      simp

theorem bytesBits_toLeBytes (word : U64) : bytesBits (toLeBytes word) = wordBits word := by
  refine List.ext_getElem? fun index => ?_
  have size : (toLeBytes word).length = 8 := by rw [toLeBytes, List.length_map, List.length_range]
  by_cases inside : index < 64
  · have reached : index / 8 < 8 := by omega
    rw [getElem?_wordBits _ inside, getElem?_bytesBits (by omega), toLeBytes,
      List.getD_eq_getElem?_getD, List.getElem?_map, List.getElem?_range reached, Option.map_some,
      Option.getD_some, BitVec.getLsbD_extractLsb', decide_eq_true (Nat.mod_lt index (by decide)),
      Bool.true_and, Nat.div_add_mod]
  · rw [List.getElem?_eq_none (by rw [length_bytesBits]; omega),
      List.getElem?_eq_none (by rw [length_wordBits]; omega)]

theorem getLsbD_stateBits {state : Lanes} {index : Nat} (inside : index < 1600) :
    (stateBits state).getLsbD index =
      (state.get ⟨index / 64, by omega⟩).getLsbD (index % 64) := by
  rw [stateBits, BitVec.getLsbD_ofFnLE, dif_pos inside]

/-- A state is what its bits say. -/
theorem bitsLanes_stateBits (state : Lanes) : bitsLanes (stateBits state) = state := by
  refine Vector.ext fun lane reached => ?_
  rw [bitsLanes, Vector.getElem_ofFn]
  refine BitVec.eq_of_getLsbD_eq fun index inside => ?_
  have behind : 64 * lane + index < 1600 := by omega
  have own : (64 * lane + index) / 64 = lane := by omega
  have offset : (64 * lane + index) % 64 = index := by omega
  rw [BitVec.getLsbD_extractLsb', decide_eq_true inside, Bool.true_and, getLsbD_stateBits behind,
    offset]
  simp only [own]
  rfl

theorem onLanes_stateBits (permute : Lanes → Lanes) (state : Lanes) :
    onLanes permute (stateBits state) = stateBits (permute state) := by
  rw [onLanes, bitsLanes_stateBits]

end Bits

/-! ### Blocks -/

section Blocks

theorem getElem_xorLane {state : Lanes} {lane : Nat} {word : U64} {index : Nat}
    (inside : index < 25) :
    (xorLane state lane word)[index] =
      if index = lane then state[index] ^^^ word else state[index] := by
  rw [xorLane, Vector.getElem_mapIdx]

/-- Chunks from a lane on are added to the lanes from there on, and no others change. -/
theorem getElem_xorLanes (chunks : List Bytes) (start : Nat) (state : Lanes) {index : Nat}
    (inside : index < 25) :
    ((chunks.zipIdx start).foldl
        (fun state entry => xorLane state entry.2 (fromLeBytes entry.1)) state)[index] =
      state[index] ^^^
        (if start ≤ index then fromLeBytes (chunks.getD (index - start) []) else 0) := by
  induction chunks generalizing start state with
  | nil =>
    have zero : fromLeBytes [] = 0 := rfl
    rw [List.zipIdx_nil, List.foldl_nil, List.getD_nil, zero, ite_self]
    exact BitVec.xor_zero.symm
  | cons chunk rest inductionHypothesis =>
    rw [List.zipIdx_cons, List.foldl_cons, inductionHypothesis, getElem_xorLane inside]
    obtain before | rfl | after := Nat.lt_trichotomy index start
    · rw [if_neg before.ne, if_neg (by omega), if_neg (by omega)]
    · rw [if_pos rfl, if_neg (by omega), if_pos le_rfl, Nat.sub_self, List.getD_cons_zero]
      exact BitVec.xor_zero
    · rw [if_neg after.ne', if_pos (by omega), if_pos (by omega),
        show index - start = index - (start + 1) + 1 by omega, List.getD_cons_succ]

/-- The byte of a chunk, in the string it was cut from. -/
theorem getD_getD_chunksExact {size : Nat} {bytes : Bytes} (even : bytes.length % size = 0)
    (lane : Nat) {offset : Nat} (inside : offset < size) :
    ((chunksExact size bytes).getD lane []).getD offset 0 =
      bytes.getD (lane * size + offset) 0 := by
  have total : bytes.length = bytes.length / size * size := by
    have split := Nat.div_add_mod' bytes.length size
    omega
  by_cases reached : lane < bytes.length / size
  · have chunk : (chunksExact size bytes)[lane]? = some ((bytes.drop (lane * size)).take size) := by
      rw [chunksExact, List.getElem?_map, List.getElem?_range reached, Option.map_some]
    rw [List.getD_eq_getElem?_getD, List.getD_eq_getElem?_getD, chunk, Option.getD_some,
      List.getElem?_take_of_lt inside, List.getElem?_drop, List.getD_eq_getElem?_getD]
  · have absent : (chunksExact size bytes).length ≤ lane := by
      rw [chunksExact, List.length_map, List.length_range]
      exact not_lt.mp reached
    have behind : bytes.length ≤ lane * size + offset :=
      total.trans_le ((Nat.mul_le_mul_right size (not_lt.mp reached)).trans (Nat.le_add_right _ _))
    rw [List.getD_eq_default _ _ absent, List.getD_nil, List.getD_eq_default _ _ behind]

/-- Adding a block lane by lane is adding its bits. -/
theorem stateBits_xorBlock (state : Lanes) {block : Bytes} (whole : block.length = keccak256Rate) :
    stateBits (xorBlock state block) = stateBits state ^^^ ofBits 1600 (bytesBits block) := by
  refine BitVec.eq_of_getLsbD_eq fun index inside => ?_
  have lane : index / 64 < 25 := by omega
  have even : block.length % 8 = 0 := by rw [whole]; rfl
  have added := getElem_xorLanes (chunksExact 8 block) 0 state lane
  rw [if_pos (Nat.zero_le _), Nat.sub_zero] at added
  rw [BitVec.getLsbD_xor, getLsbD_stateBits inside, getLsbD_stateBits inside,
    getLsbD_ofBits_bytesBits inside]
  calc ((xorBlock state block).get ⟨index / 64, lane⟩).getLsbD (index % 64)
      = (state[index / 64] ^^^
          fromLeBytes ((chunksExact 8 block).getD (index / 64) [])).getLsbD (index % 64) :=
        congrArg (BitVec.getLsbD · (index % 64)) added
    _ = _ := by
        rw [BitVec.getLsbD_xor, getLsbD_fromLeBytes (Nat.mod_lt _ (by decide)),
          getD_getD_chunksExact even _ (by omega),
          show index / 64 * 8 + index % 64 / 8 = index / 8 by omega,
          show index % 64 % 8 = index % 8 by omega]
        rfl

variable (permute : Lanes → Lanes)

/-- One block of the guest is one block of the sponge. -/
theorem stateBits_absorbBlock (state : Lanes) {block : Bytes}
    (whole : block.length = keccak256Rate) :
    stateBits (absorbBlock permute state block) =
      absorb (onLanes permute) (stateBits state) (bytesBits block) := by
  rw [absorbBlock, absorb, ← stateBits_xorBlock state whole, onLanes_stateBits]

/-- Any number of blocks. -/
theorem stateBits_foldl_absorbBlock (blocks : List Bytes)
    (whole : ∀ block ∈ blocks, block.length = keccak256Rate) (state : Lanes) :
    stateBits (blocks.foldl (absorbBlock permute) state) =
      (blocks.map bytesBits).foldl (absorb (onLanes permute)) (stateBits state) := by
  induction blocks generalizing state with
  | nil => rw [List.foldl_nil, List.map_nil, List.foldl_nil]
  | cons block rest inductionHypothesis =>
    obtain ⟨own, others⟩ := List.forall_mem_cons.mp whole
    rw [List.foldl_cons, inductionHypothesis others, stateBits_absorbBlock permute state own,
      List.map_cons, List.foldl_cons]

end Blocks

/-! ### Padding -/

section Padding

theorem modify_append (before after : Bytes) (index : Nat) (change : U8 → U8) :
    (before ++ after).modify (before.length + index) change =
      before ++ after.modify index change := by
  induction before with
  | nil => rw [List.nil_append, List.nil_append, List.length_nil, Nat.zero_add]
  | cons byte rest inductionHypothesis =>
    rw [List.cons_append, List.length_cons, Nat.add_right_comm, List.modify_succ_cons,
      inductionHypothesis, List.cons_append]

/-- The guest's last block is what was left over and the padding. -/
theorem finalBlock_eq {rest : Bytes} (short : rest.length < keccak256Rate) :
    finalBlock rest = rest ++ legacyPadding rest.length := by
  obtain ⟨gap, total⟩ : ∃ gap, keccak256Rate = rest.length + (gap + 1) :=
    ⟨keccak256Rate - rest.length - 1, by omega⟩
  have room : keccak256Rate - rest.length = gap + 1 := by omega
  have last : keccak256Rate - 1 = rest.length + gap := by omega
  have marked : (rest ++ List.replicate (gap + 1) 0).modify rest.length (· ^^^ 0x01) =
      rest ++ 0x01 :: List.replicate gap 0 := modify_append rest _ 0 _
  rw [finalBlock, legacyPadding, Nat.mod_eq_of_lt short, room, last, marked, modify_append]
  congr 1
  cases gap with
  | zero => rfl
  | succ gap =>
    have ends : (List.replicate (gap + 1) (0 : U8)).modify gap (· ^^^ 0x80) =
        List.replicate gap 0 ++ [0x80] := by
      have placed := modify_append (List.replicate gap 0) [0] 0 (· ^^^ 0x80)
      rw [List.length_replicate] at placed
      rw [List.replicate_succ']
      exact placed
    rw [List.modify_succ_cons, ends, if_neg (by omega), Nat.add_sub_add_right, Nat.add_sub_cancel]

theorem length_finalBlock {rest : Bytes} (short : rest.length < keccak256Rate) :
    (finalBlock rest).length = keccak256Rate := by
  rw [finalBlock, List.length_modify, List.length_modify, List.length_append,
    List.length_replicate]
  omega

theorem bytesBits_zeros (count : Nat) :
    bytesBits (List.replicate count 0) = List.replicate (count * 8) false := by
  have zero : wordBits (0 : U8) = List.replicate 8 false := by decide
  rw [bytesBits, List.flatMap_replicate, zero, List.flatten_replicate_replicate]

/-- The padding bytes are the padding bits. -/
theorem bytesBits_legacyPadding (length : Nat) :
    bytesBits (legacyPadding length) = padding (keccak256Rate * 8) (length * 8) := by
  have zeros :
      (keccak256Rate * 8 - (length * 8 + 2) % (keccak256Rate * 8)) % (keccak256Rate * 8) =
        (keccak256Rate - length % keccak256Rate) * 8 - 2 := by
    unfold keccak256Rate
    omega
  obtain ⟨gap, room⟩ : ∃ gap, keccak256Rate - length % keccak256Rate = gap + 1 :=
    ⟨keccak256Rate - length % keccak256Rate - 1, by unfold keccak256Rate; omega⟩
  rw [legacyPadding, padding, zeros, room]
  cases gap with
  | zero => decide
  | succ gap =>
    have first : wordBits (0x01 : U8) = true :: List.replicate 7 false := by decide
    have final : wordBits (0x80 : U8) = List.replicate 7 false ++ [true] := by decide
    have split : (gap + 1 + 1) * 8 - 2 = 7 + (gap * 8 + 7) := by omega
    rw [if_neg (by omega), Nat.add_sub_add_right, Nat.add_sub_cancel, bytesBits,
      List.flatMap_cons, List.flatMap_append, ← bytesBits, bytesBits_zeros,
      List.flatMap_singleton, first, final, split, List.replicate_add, List.replicate_add]
    simp only [List.cons_append, List.append_assoc]

end Padding

/-! ### The sponge -/

section Correctness

variable (permute : Lanes → Lanes)

/-- The bits of the first four lanes. -/
theorem bytesBits_output (state : Lanes) :
    bytesBits ((state.toList.take 4).flatMap toLeBytes) =
      (List.range 256).map (stateBits state).getLsbD := by
  have lanes : bytesBits ((state.toList.take 4).flatMap toLeBytes) =
      (state.toList.take 4).flatMap wordBits := by
    rw [bytesBits, List.flatMap_assoc]
    exact List.flatMap_congr fun lane _ => bytesBits_toLeBytes lane
  have count : (state.toList.take 4).length = 4 := by
    rw [List.length_take, Vector.length_toList]
    rfl
  have size : ((state.toList.take 4).flatMap wordBits).length = 256 := by
    rw [length_flatMap_fixed length_wordBits, count]
  rw [lanes]
  refine List.ext_getElem? fun index => ?_
  by_cases inside : index < 256
  · have reached : index / 64 < (state.toList.take 4).length := by omega
    have placed := getElem?_flatMap_of_fixed (fun lane _ => length_wordBits lane)
      (List.getElem?_eq_getElem reached) (Nat.mod_lt index (by decide))
    rw [Nat.div_add_mod] at placed
    rw [placed, getElem?_wordBits _ (Nat.mod_lt index (by decide)), List.getElem?_map,
      List.getElem?_range inside, Option.map_some, getLsbD_stateBits (by omega),
      List.getElem_take, Vector.getElem_toList]
    rfl
  · rw [List.getElem?_eq_none (by omega), List.getElem?_eq_none]
    rw [List.length_map, List.length_range]
    omega

/-- The padded message, in bytes. -/
theorem bytesBits_padded (input : Bytes) :
    bytesBits input ++ padding (keccak256Rate * 8) (bytesBits input).length =
      bytesBits (input ++ legacyPadding input.length) := by
  rw [length_bytesBits, ← bytesBits_legacyPadding, bytesBits, bytesBits, bytesBits,
    List.flatMap_append]

/-- Cut into blocks, the padded message is what the guest absorbs. -/
theorem chunksExact_padded (input : Bytes) :
    chunksExact keccak256Rate (input ++ legacyPadding input.length) =
      chunksExact keccak256Rate input ++ [finalBlock (remainder keccak256Rate input)] := by
  have short : (remainder keccak256Rate input).length < keccak256Rate := by
    rw [length_remainder]
    exact Nat.mod_lt _ (by decide)
  have own : legacyPadding input.length =
      legacyPadding (remainder keccak256Rate input).length := by
    rw [legacyPadding, legacyPadding, length_remainder, Nat.mod_mod]
  have last := finalBlock_eq short
  rw [own, last, chunksExact_append (last ▸ length_finalBlock short) (by decide)]

/-- The state the guest reads its output from. -/
theorem stateBits_absorbed (input : Bytes) :
    stateBits (absorbBlock permute
        ((chunksExact keccak256Rate input).foldl (absorbBlock permute) (Vector.replicate 25 0))
        (finalBlock (remainder keccak256Rate input))) =
      absorbAll (onLanes permute) (keccak256Rate * 8)
        (bytesBits input ++ padding (keccak256Rate * 8) (bytesBits input).length) := by
  have start : stateBits (Vector.replicate 25 0) = 0 := by
    refine BitVec.eq_of_getLsbD_eq fun index inside => ?_
    rw [getLsbD_stateBits inside]
    simp [Vector.get]
  have short : (remainder keccak256Rate input).length < keccak256Rate := by
    rw [length_remainder]
    exact Nat.mod_lt _ (by decide)
  have whole : ∀ block ∈ chunksExact keccak256Rate input, block.length = keccak256Rate :=
    fun block member => length_of_mem_chunksExact member
  rw [stateBits_absorbBlock permute _ (length_finalBlock short),
    stateBits_foldl_absorbBlock permute _ whole, start, absorbAll, bytesBits_padded,
    chunksExact_bytesBits, chunksExact_padded, List.map_append, List.foldl_append,
    List.map_singleton, List.foldl_cons, List.foldl_nil]

/-- The guest's Keccak-256 is the sponge with a rate of 136 of the state's 200 bytes. -/
theorem nativeKeccak256_eq_sponge (input : Bytes) :
    (nativeKeccak256 permute input).length = 32 ∧
      bytesBits (nativeKeccak256 permute input) =
        Sponge.hash (onLanes permute) (136 * 8) (bytesBits input) 256 ∧
      bytesBits input ++ padding (136 * 8) (bytesBits input).length =
        bytesBits (input ++ legacyPadding input.length) := by
  have output : bytesBits (nativeKeccak256 permute input) =
      Sponge.hash (onLanes permute) (136 * 8) (bytesBits input) 256 := by
    rw [nativeKeccak256, bytesBits_output, Sponge.hash, squeeze_of_le _ _ (by decide),
      stateBits_absorbed permute input]
    rfl
  refine ⟨?_, output, bytesBits_padded input⟩
  have sizes := congrArg List.length output
  rw [length_bytesBits, Sponge.hash, squeeze, List.length_map, List.length_range] at sizes
  omega

end Correctness

end Zkdeal

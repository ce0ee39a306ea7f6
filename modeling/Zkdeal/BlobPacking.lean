/-
This file is about the canonical bytes of the blobs of a byte string: they hold every
octet of it once, and zeroes around.

A field element is the next thirty-one octets behind leading zeroes; the last one
that has octets at all may be shorter. As long as the offset of a blob is a machine
word, its field elements are the ones of the data from there on, and an index behind
the data gives a blob of zeroes.
-/

import Zkdeal.Hosting

namespace Zkdeal

open Words Guard

/-! ### Field elements -/

/-- A loop over the first indices stops at the first one it does not take. -/
theorem takeWhile_range (takes : Nat → Bool) (count : Nat) :
    ∃ stop ≤ count, (List.range count).takeWhile takes = List.range stop ∧
      (∀ index < stop, takes index = true) ∧ (stop < count → takes stop = false) := by
  induction count with
  | zero => exact ⟨0, le_rfl, rfl, fun index below => absurd below (Nat.not_lt_zero _),
      fun below => absurd below (Nat.not_lt_zero _)⟩
  | succ count inductionHypothesis =>
    obtain ⟨stop, bounded, taken, all, stops⟩ := inductionHypothesis
    rw [List.range_succ, List.takeWhile_append, taken, List.length_range, List.length_range]
    by_cases whole : stop = count
    · subst whole
      rw [if_pos rfl]
      cases last : takes stop with
      | false =>
        refine ⟨stop, Nat.le_succ _, ?_, all, fun _ => last⟩
        rw [List.takeWhile_cons_of_neg (by rw [last]; decide), List.append_nil]
      | true =>
        refine ⟨stop + 1, le_rfl, ?_, fun index below => ?_, fun below => absurd below (by omega)⟩
        · rw [List.takeWhile_cons_of_pos last, List.takeWhile_nil, List.range_succ]
        · obtain earlier | rfl := Nat.lt_succ_iff_lt_or_eq.mp below
          · exact all index earlier
          · exact last
    · rw [if_neg whole]
      exact ⟨stop, by omega, rfl, all, fun _ => stops (by omega)⟩

theorem map_range_eq_append_replicate {Item : Type} {convert : Nat → Item} {rest : Item}
    {stop count : Nat} (bounded : stop ≤ count)
    (behind : ∀ index, stop ≤ index → index < count → convert index = rest) :
    (List.range count).map convert =
      (List.range stop).map convert ++ List.replicate (count - stop) rest := by
  obtain ⟨more, rfl⟩ := Nat.exists_eq_add_of_le bounded
  rw [List.range_add, List.map_append, Nat.add_sub_cancel_left, List.map_map]
  refine congrArg _ (List.eq_replicate_iff.mpr ⟨by simp, fun item member => ?_⟩)
  obtain ⟨index, inside, rfl⟩ := List.mem_map.mp member
  exact behind _ (Nat.le_add_right _ _) (Nat.add_lt_add_left (List.mem_range.mp inside) _)

theorem length_fieldPayload (data : Bytes) (start : Nat) :
    (fieldPayload data start).length =
      min canonicalBytesPerFieldElementV1 (data.length - start) := by
  rw [fieldPayload, List.length_take, List.length_drop]

theorem fieldPayload_of_le {data : Bytes} {start : Nat} (behind : data.length ≤ start) :
    fieldPayload data start = [] := by
  rw [fieldPayload, List.drop_of_length_le behind, List.take_nil]

/-- Thirty-one octets are a canonical scalar. -/
theorem ofBigEndian_fieldPayload_lt (data : Bytes) (start : Nat) :
    ofBigEndian (fieldPayload data start) < 256 ^ canonicalBytesPerFieldElementV1 := by
  refine (ofBigEndian_lt _).trans_le (Nat.pow_le_pow_right (by decide) ?_)
  rw [length_fieldPayload]
  exact Nat.min_le_left _ _

theorem scalarFromBe_fieldPayload (data : Bytes) (start : Nat) :
    scalarFromBe (BitVec.ofNat 256 (ofBigEndian (fieldPayload data start))) =
      some (ofBigEndian (fieldPayload data start) : Scalar) := by
  have bound := ofBigEndian_fieldPayload_lt data start
  have small : 256 ^ canonicalBytesPerFieldElementV1 < blsModulus := by decide +kernel
  have word : 256 ^ canonicalBytesPerFieldElementV1 < 2 ^ 256 := by decide +kernel
  rw [scalarFromBe, BitVec.toNat_ofNat, Nat.mod_eq_of_lt (bound.trans word),
    if_pos (bound.trans small)]

/-- The thirty-two octets of a field element. -/
def fieldWord (data : Bytes) (start : Nat) : Bytes :=
  List.replicate (32 - (fieldPayload data start).length) 0 ++ fieldPayload data start

theorem length_fieldWord (data : Bytes) (start : Nat) : (fieldWord data start).length = 32 := by
  have short := length_fieldPayload data start
  rw [fieldWord, List.length_append, List.length_replicate, short]
  unfold canonicalBytesPerFieldElementV1
  omega

theorem wordBytes_scalarToBe_fieldPayload (data : Bytes) (start : Nat) :
    wordBytes 32 (scalarToBe (ofBigEndian (fieldPayload data start) : Scalar)) =
      fieldWord data start := by
  have bound := ofBigEndian_fieldPayload_lt data start
  have small : 256 ^ canonicalBytesPerFieldElementV1 < blsModulus := by decide +kernel
  have word : 256 ^ canonicalBytesPerFieldElementV1 < 2 ^ 256 := by decide +kernel
  rw [wordBytes, scalarToBe, ZMod.val_natCast_of_lt (bound.trans small), BitVec.toNat_ofNat,
    Nat.mod_eq_of_lt (bound.trans word), bigEndian_ofBigEndian, fieldWord]
  rw [length_fieldPayload]
  exact (Nat.min_le_left _ _).trans (by decide)

/-! ### One blob -/

section Blob

variable {primitives : Primitives} {data : Bytes}

/-- The offset of a field element, as a number. -/
def exactStart (blobIndex fieldIndex : Nat) : Nat :=
  blobIndex * canonicalBytesPerBlobV1 + fieldIndex * canonicalBytesPerFieldElementV1

/-- The octets of the blobs of a byte string. -/
def blobBytes (data : Bytes) (blobIndex : Nat) : Bytes :=
  (List.range fieldElementsPerBlobV1).flatMap fun fieldIndex =>
    fieldWord data (exactStart blobIndex fieldIndex)

/-- Behind every slice there is room for one more field element. -/
theorem room_of_sliced (wide : canonicalBytesPerBlobV1 < 2 ^ primitives.usizeBits)
    (sliced : data.length < 2 ^ (primitives.usizeBits - 1)) :
    data.length + canonicalBytesPerFieldElementV1 ≤ 2 ^ primitives.usizeBits := by
  have positive : primitives.usizeBits ≠ 0 := by
    intro none
    rw [none] at wide
    exact absurd wide (by decide)
  have half := Nat.two_pow_pred_mul_two (Nat.pos_of_ne_zero positive)
  rw [canonicalBytesPerBlobV1, fieldElementsPerBlobV1] at wide
  unfold canonicalBytesPerFieldElementV1 at wide ⊢
  omega

/-- Up to the first offset behind the data no offset has wrapped around. -/
theorem fieldStart_of_reached (wide : canonicalBytesPerBlobV1 < 2 ^ primitives.usizeBits)
    (sliced : data.length < 2 ^ (primitives.usizeBits - 1)) {blobIndex stop : Nat}
    (fits : blobIndex * canonicalBytesPerBlobV1 < 2 ^ primitives.usizeBits)
    (reached : ∀ index < stop, fieldStart primitives blobIndex index < data.length) :
    ∀ index ≤ stop, fieldStart primitives blobIndex index = exactStart blobIndex index := by
  have room := room_of_sliced wide sliced
  intro index
  induction index with
  | zero =>
    intro _
    rw [fieldStart, exactStart, Nat.zero_mul, Nat.add_zero, Nat.mod_eq_of_lt fits]
  | succ index inductionHypothesis =>
    intro below
    have here := reached index below
    rw [inductionHypothesis (by omega), exactStart] at here
    rw [fieldStart, exactStart, Nat.succ_mul]
    exact Nat.mod_eq_of_lt (by omega)

theorem blobFieldValues_eq (wide : canonicalBytesPerBlobV1 < 2 ^ primitives.usizeBits)
    (sliced : data.length < 2 ^ (primitives.usizeBits - 1)) {blobIndex : Nat}
    (fits : blobIndex * canonicalBytesPerBlobV1 < 2 ^ primitives.usizeBits) :
    blobFieldValues primitives data blobIndex =
      .ok ((List.range fieldElementsPerBlobV1).map fun fieldIndex =>
        (ofBigEndian (fieldPayload data (exactStart blobIndex fieldIndex)) : Scalar)) := by
  obtain ⟨stop, bounded, taken, reached, stops⟩ := takeWhile_range
    (fun fieldIndex => fieldStart primitives blobIndex fieldIndex < data.length)
    fieldElementsPerBlobV1
  have exact := fieldStart_of_reached wide sliced fits fun index below =>
    of_decide_eq_true (reached index below)
  have zeroes : ∀ index, stop ≤ index → index < fieldElementsPerBlobV1 →
      fieldPayload data (exactStart blobIndex index) = [] := by
    intro index behind inside
    have last := of_decide_eq_false (stops (by omega))
    rw [exact stop le_rfl] at last
    refine fieldPayload_of_le ?_
    unfold exactStart at last ⊢
    have := Nat.mul_le_mul_right canonicalBytesPerFieldElementV1 behind
    omega
  refine bind_eq_ok.mpr ⟨(List.range stop).map fun fieldIndex =>
    (ofBigEndian (fieldPayload data (exactStart blobIndex fieldIndex)) : Scalar), ?_,
    pure_eq_ok.mpr ?_⟩
  · rw [taken]
    refine mapM_eq_ok_map fun index member => orRefuse_eq_ok.mpr ?_
    rw [exact index (List.mem_range.mp member).le]
    exact scalarFromBe_fieldPayload _ _
  · rw [List.length_map, List.length_range]
    refine (map_range_eq_append_replicate bounded fun index behind inside => ?_).symm
    rw [zeroes index behind inside]
    exact Nat.cast_zero

/-- The bytes of a blob whose offset is a machine word. -/
theorem canonicalBlobBytesV1_eq (wide : canonicalBytesPerBlobV1 < 2 ^ primitives.usizeBits)
    (sliced : data.length < 2 ^ (primitives.usizeBits - 1)) {blobIndex : Nat}
    (fits : blobIndex * canonicalBytesPerBlobV1 < 2 ^ primitives.usizeBits) :
    canonicalBlobBytesV1 primitives data blobIndex =
      .ok (blobBytes data blobIndex) := by
  refine bind_eq_ok.mpr ⟨_, blobFieldValues_eq wide sliced fits, pure_eq_ok.mpr ?_⟩
  rw [List.flatMap_map]
  exact congrArg (List.flatMap · _) (funext fun fieldIndex =>
    wordBytes_scalarToBe_fieldPayload _ _)

/-- The offset of the blob one whole wrap of the machine word later is the same. -/
theorem canonicalBlobBytesV1_wraps (wide : 12 ≤ primitives.usizeBits) (blobIndex : Nat) :
    canonicalBlobBytesV1 primitives data (blobIndex + 2 ^ (primitives.usizeBits - 12)) =
      canonicalBlobBytesV1 primitives data blobIndex := by
  have starts : fieldStart primitives (blobIndex + 2 ^ (primitives.usizeBits - 12)) =
      fieldStart primitives blobIndex := by
    funext fieldIndex
    have whole : 2 ^ (primitives.usizeBits - 12) * canonicalBytesPerBlobV1 =
        2 ^ primitives.usizeBits * canonicalBytesPerFieldElementV1 := by
      have blob : canonicalBytesPerBlobV1 = 2 ^ 12 * canonicalBytesPerFieldElementV1 := rfl
      rw [blob, ← Nat.mul_assoc, ← Nat.pow_add, Nat.sub_add_cancel wide]
    rw [fieldStart, fieldStart, Nat.add_mul, whole, Nat.add_right_comm,
      Nat.add_mul_mod_self_left]
  unfold canonicalBlobBytesV1 blobFieldValues
  rw [starts]

end Blob

/-! ### Where an octet stands -/

/-- The number of blobs of a byte string. -/
def blobCount (length : Nat) : Nat :=
  (length + (canonicalBytesPerBlobV1 - 1)) / canonicalBytesPerBlobV1

/-- The blob and the position in it of one octet of a byte string. The octets of a field element
end at the end of its word. -/
def place (length position : Nat) : Nat × Nat :=
  let field := position / 31
  (field / 4096, 32 * (field % 4096) + (32 - min 31 (length - 31 * field) + position % 31))

theorem place_injOn (length : Nat) : Set.InjOn (place length) (Set.Iio length) := by
  intro first firstInside second secondInside same
  rw [Set.mem_Iio] at firstInside secondInside
  obtain ⟨blobs, positions⟩ := Prod.mk.inj same
  have fields : first / 31 % 4096 = second / 31 % 4096 := by omega
  have elements : first / 31 = second / 31 := by omega
  rw [elements] at positions
  omega

theorem place_lt {length position : Nat} (inside : position < length) :
    (place length position).1 < blobCount length := by
  unfold place blobCount canonicalBytesPerBlobV1 fieldElementsPerBlobV1
    canonicalBytesPerFieldElementV1
  dsimp only
  omega

theorem exactStart_eq (blobIndex fieldIndex : Nat) :
    exactStart blobIndex fieldIndex = 31 * (4096 * blobIndex + fieldIndex) := by
  unfold exactStart canonicalBytesPerBlobV1 fieldElementsPerBlobV1 canonicalBytesPerFieldElementV1
  ring

theorem getElem?_fieldWord (data : Bytes) (start : Nat) {offset : Nat} (inside : offset < 32) :
    (fieldWord data start)[offset]? =
      if offset < 32 - min 31 (data.length - start) then some 0
      else data[start + (offset - (32 - min 31 (data.length - start)))]? := by
  have short := length_fieldPayload data start
  rw [canonicalBytesPerFieldElementV1] at short
  rw [fieldWord, short]
  split
  case isTrue before =>
    rw [List.getElem?_append_left (by rwa [List.length_replicate]), List.getElem?_replicate,
      if_pos before]
  case isFalse behind =>
    rw [List.getElem?_append_right (by rw [List.length_replicate]; omega), List.length_replicate,
      fieldPayload, canonicalBytesPerFieldElementV1, List.getElem?_take_of_lt (by omega),
      List.getElem?_drop]

theorem getElem?_blobBytes (data : Bytes) (blobIndex : Nat) {fieldIndex offset : Nat}
    (inBlob : fieldIndex < fieldElementsPerBlobV1) (inWord : offset < 32) :
    (blobBytes data blobIndex)[32 * fieldIndex + offset]? =
      (fieldWord data (exactStart blobIndex fieldIndex))[offset]? :=
  getElem?_flatMap_of_fixed (fun _ _ => length_fieldWord _ _) (List.getElem?_range inBlob) inWord

theorem length_blobBytes (data : Bytes) (blobIndex : Nat) :
    (blobBytes data blobIndex).length = 32 * fieldElementsPerBlobV1 := by
  rw [blobBytes, List.length_flatMap, List.map_congr_left fun _ _ => length_fieldWord _ _,
    List.map_const', List.sum_replicate, List.length_range, smul_eq_mul, Nat.mul_comm]

/-- An octet of the data stands at its place. -/
theorem getElem?_blobBytes_place {data : Bytes} {position : Nat}
    (inside : position < data.length) :
    (blobBytes data (place data.length position).1)[(place data.length position).2]? =
      data[position]? := by
  have inBlob : position / 31 % 4096 < fieldElementsPerBlobV1 := Nat.mod_lt _ (by decide)
  unfold place
  dsimp only
  rw [getElem?_blobBytes _ _ inBlob (by omega), getElem?_fieldWord _ _ (by omega), exactStart_eq,
    Nat.div_add_mod, if_neg (by omega)]
  congr 1
  omega

/-- Every other octet of a blob is zero. -/
theorem blobBytes_eq_zero {data : Bytes} {blobIndex position : Nat} {octet : Byte}
    (found : (blobBytes data blobIndex)[position]? = some octet)
    (free : ∀ other < data.length, place data.length other ≠ (blobIndex, position)) :
    octet = 0 := by
  obtain ⟨inside, -⟩ := List.getElem?_eq_some_iff.mp found
  rw [length_blobBytes] at inside
  have inBlob : position / 32 < fieldElementsPerBlobV1 := Nat.div_lt_of_lt_mul inside
  have inWord : position % 32 < 32 := Nat.mod_lt _ (by decide)
  rw [← Nat.div_add_mod position 32, getElem?_blobBytes _ _ inBlob inWord,
    getElem?_fieldWord _ _ inWord, exactStart_eq] at found
  split at found
  case isTrue before => exact (Option.some.inj found).symm
  case isFalse behind =>
    obtain ⟨known, -⟩ := List.getElem?_eq_some_iff.mp found
    refine absurd ?_ (free _ known)
    unfold fieldElementsPerBlobV1 at inBlob
    generalize fieldIs : 4096 * blobIndex + position / 32 = field at behind known ⊢
    generalize payloadIs : min 31 (data.length - 31 * field) = payload at behind known ⊢
    have element : (31 * field + (position % 32 - (32 - payload))) / 31 = field := by omega
    have offset : (31 * field + (position % 32 - (32 - payload))) % 31 =
        position % 32 - (32 - payload) := by omega
    rw [place, element, offset, payloadIs, Prod.mk.injEq]
    constructor
    · omega
    · omega

/-- Behind the data there are only zeroes. -/
theorem blobBytes_of_le {data : Bytes} {blobIndex : Nat}
    (behind : blobCount data.length ≤ blobIndex) :
    blobBytes data blobIndex = List.replicate (32 * fieldElementsPerBlobV1) 0 := by
  refine List.eq_replicate_iff.mpr ⟨length_blobBytes _ _, fun octet member => ?_⟩
  obtain ⟨position, found⟩ := List.mem_iff_getElem?.mp member
  refine blobBytes_eq_zero found fun other inside same => ?_
  have before := place_lt inside
  rw [same] at before
  exact absurd before (by omega)

/-- The blobs of two byte strings of one length determine them. -/
theorem eq_of_blobBytes_eq {first second : Bytes} (lengths : first.length = second.length)
    (same : ∀ index < blobCount first.length, blobBytes first index = blobBytes second index) :
    first = second := by
  refine List.ext_getElem? fun position => ?_
  by_cases inside : position < first.length
  · have there := same _ (place_lt inside)
    rw [← getElem?_blobBytes_place inside, there, lengths,
      getElem?_blobBytes_place (lengths ▸ inside)]
  · rw [List.getElem?_eq_none (by omega), List.getElem?_eq_none (by omega)]

/-- A word of thirty-two octets, the first one zero, is a canonical scalar. -/
theorem ofBigEndian_fieldWord (data : Bytes) (start : Nat) :
    (fieldWord data start).head? = some 0 ∧ ofBigEndian (fieldWord data start) < blsModulus := by
  have short := length_fieldPayload data start
  rw [canonicalBytesPerFieldElementV1] at short
  have head : (fieldWord data start).head? = some 0 := by
    rw [List.head?_eq_getElem?, getElem?_fieldWord _ _ (by decide), if_pos (by omega)]
  obtain ⟨rest, split⟩ := List.head?_eq_some_iff.mp head
  have lengths := length_fieldWord data start
  rw [split, List.length_cons, Nat.succ_inj] at lengths
  have bound := ofBigEndian_lt rest
  rw [lengths] at bound
  refine ⟨head, ?_⟩
  rw [split]
  exact bound.trans (by decide +kernel)

/-! ### The blobs of a byte string -/

/-- The offset of a blob with octets is inside the data. -/
theorem offset_lt_of_lt_blobCount {primitives : Primitives} {length blobIndex : Nat}
    (sliced : length < 2 ^ (primitives.usizeBits - 1)) (counted : blobIndex < blobCount length) :
    blobIndex * canonicalBytesPerBlobV1 < 2 ^ primitives.usizeBits := by
  have half : 2 ^ (primitives.usizeBits - 1) ≤ 2 ^ primitives.usizeBits :=
    Nat.pow_le_pow_right (by decide) (Nat.sub_le _ _)
  unfold blobCount canonicalBytesPerBlobV1 fieldElementsPerBlobV1
    canonicalBytesPerFieldElementV1 at *
  omega

/-- Blob packing loses nothing. The lengths of slices are below half of the machine word, and
the offset of a blob behind the data has to be a machine word too. -/
theorem canonicalBlobBytes_lossless (primitives : Primitives)
    (wide : canonicalBytesPerBlobV1 < 2 ^ primitives.usizeBits) (data : Bytes)
    (sliced : data.length < 2 ^ (primitives.usizeBits - 1)) :
    (∀ index < blobCount data.length, ∃ words : List Bytes,
        canonicalBlobBytesV1 primitives data index = .ok words.flatten ∧
          words.length = fieldElementsPerBlobV1 ∧
          ∀ word ∈ words, word.length = 32 ∧ word.head? = some 0 ∧
            ofBigEndian word < blsModulus) ∧
      Set.InjOn (place data.length) (Set.Iio data.length) ∧
      (∀ position octet, data[position]? = some octet →
        (place data.length position).1 < blobCount data.length ∧
          ∃ blob, canonicalBlobBytesV1 primitives data (place data.length position).1 = .ok blob ∧
            blob[(place data.length position).2]? = some octet) ∧
      (∀ index < blobCount data.length, ∀ blob,
        canonicalBlobBytesV1 primitives data index = .ok blob →
          ∀ position octet, blob[position]? = some octet →
            (∀ other < data.length, place data.length other ≠ (index, position)) →
              octet = 0) ∧
      (∀ other : Bytes, other.length = data.length →
        (∀ index < blobCount data.length,
          canonicalBlobBytesV1 primitives other index =
            canonicalBlobBytesV1 primitives data index) → other = data) ∧
      (∀ index, blobCount data.length ≤ index →
        index * canonicalBytesPerBlobV1 < 2 ^ primitives.usizeBits →
          canonicalBlobBytesV1 primitives data index =
            .ok (List.replicate (32 * fieldElementsPerBlobV1) 0)) := by
  have packed : ∀ index < blobCount data.length,
      canonicalBlobBytesV1 primitives data index = .ok (blobBytes data index) :=
    fun index counted =>
      canonicalBlobBytesV1_eq wide sliced (offset_lt_of_lt_blobCount sliced counted)
  refine ⟨fun index counted => ?_, place_injOn _, fun position octet known => ?_,
    fun index counted blob made position octet found free => ?_,
    fun other lengths same => ?_, fun index behind fits => ?_⟩
  · refine ⟨(List.range fieldElementsPerBlobV1).map fun fieldIndex =>
      fieldWord data (exactStart index fieldIndex), ?_, ?_, fun word member => ?_⟩
    · rw [packed index counted, blobBytes, List.flatMap]
    · rw [List.length_map, List.length_range]
    · obtain ⟨fieldIndex, -, rfl⟩ := List.mem_map.mp member
      exact ⟨length_fieldWord _ _, ofBigEndian_fieldWord _ _⟩
  · obtain ⟨inside, -⟩ := List.getElem?_eq_some_iff.mp known
    have counted := place_lt inside
    exact ⟨counted, _, packed _ counted, (getElem?_blobBytes_place inside).trans known⟩
  · rw [packed index counted, Except.ok.injEq] at made
    rw [← made] at found
    exact blobBytes_eq_zero found free
  · refine eq_of_blobBytes_eq lengths fun index counted => ?_
    rw [lengths] at counted
    have both := same index counted
    rw [packed index counted, canonicalBlobBytesV1_eq wide (lengths ▸ sliced)
      (offset_lt_of_lt_blobCount sliced counted)] at both
    exact Except.ok.inj both
  · rw [canonicalBlobBytesV1_eq wide sliced fits, blobBytes_of_le behind]

/-- Octets over one word and into the next. -/
def sampleOctets : Bytes := (List.range 33).map fun index => BitVec.ofNat 8 (index + 1)

/-- The first 31 octets fill the first word behind its leading zero, and the other two end the
second one. -/
theorem canonicalBlobBytes_lossless_sample :
    ∃ blob, canonicalBlobBytesV1 samplePrimitives sampleOctets 0 = .ok blob ∧
      blob[1]? = some 1 ∧ blob[31]? = some 31 ∧ blob[62]? = some 32 ∧ blob[63]? = some 33 := by
  obtain ⟨-, -, stands, -⟩ := canonicalBlobBytes_lossless samplePrimitives (by decide) sampleOctets
    (by decide)
  obtain ⟨-, blob, made, first⟩ := stands 0 1 rfl
  have found : ∀ position octet, (place sampleOctets.length position).1 = 0 →
      sampleOctets[position]? = some octet →
      blob[(place sampleOctets.length position).2]? = some octet := by
    intro position octet here known
    obtain ⟨-, other, madeAgain, stands⟩ := stands position octet known
    rw [here] at madeAgain
    rwa [← Except.ok.inj (madeAgain.symm.trans made)]
  exact ⟨blob, made, first, found 30 31 (by decide) rfl, found 31 32 (by decide) rfl,
    found 32 33 (by decide) rfl⟩

/-- With an index whose offset is no machine word any more, the first blob comes back. -/
theorem canonicalBlobBytes_wrapped :
    blobCount [(1 : Byte)].length ≤ 2 ^ 20 ∧ 2 ^ 20 < 2 ^ samplePrimitives.usizeBits ∧
      canonicalBlobBytesV1 samplePrimitives [1] (2 ^ 20) ≠
        .ok (List.replicate (32 * fieldElementsPerBlobV1) 0) := by
  refine ⟨by decide, by decide, ?_⟩
  have wraps : canonicalBlobBytesV1 samplePrimitives [1] (0 + 2 ^ 20) =
      canonicalBlobBytesV1 samplePrimitives [1] 0 := canonicalBlobBytesV1_wraps (by decide) 0
  have first : canonicalBlobBytesV1 samplePrimitives [1] 0 = .ok (blobBytes [1] 0) :=
    canonicalBlobBytesV1_eq (by decide) (by decide) (by decide)
  rw [Nat.zero_add, first] at wraps
  have placed : place [(1 : Byte)].length 0 = (0, 31) := by decide
  have stands : (blobBytes [1] (place [(1 : Byte)].length 0).1)[(place [(1 : Byte)].length 0).2]? =
      some 1 := getElem?_blobBytes_place (by decide)
  rw [placed] at stands
  intro zero
  rw [wraps, Except.ok.injEq] at zero
  rw [zero, List.getElem?_replicate, if_pos (by decide)] at stands
  exact absurd stands (by decide)

end Zkdeal

/-
This file is recursive length prefix encoding, as the Ethereum encoders produce
it: a byte string or a list of encoded items, each behind a header that carries
its length, integers as their big-endian octets without leading zeroes.

An encoded item ends by itself as long as its length has at most eight octets,
which is the range the standard defines. The lemmas measure that on the encoded
item, so that a bound on a whole document carries over to everything inside it.
-/

import Zkdeal.Library.Delimited

namespace Rlp

open Words

/-- The big-endian octets of a number without leading zeroes; zero is the empty string. -/
def minimalBytes (value : Nat) : Bytes :=
  if value = 0 then [] else bigEndian (value.log2 / 8 + 1) value

/-- The header of a payload: short payloads carry their length in the first octet, long ones
the length of their length. -/
def header (offset length : Nat) : Bytes :=
  if length < 56 then [BitVec.ofNat 8 (offset + length)]
  else BitVec.ofNat 8 (offset + 55 + (minimalBytes length).length) :: minimalBytes length

/-- A byte string; a single octet below `0x80` is its own encoding. -/
def encodeBytes (payload : Bytes) : Bytes :=
  match payload with
  | [octet] => if octet.toNat < 0x80 then [octet] else header 0x80 1 ++ [octet]
  | _ => header 0x80 payload.length ++ payload

/-- An unsigned integer of any width. -/
def encodeWord {width : Nat} (value : BitVec width) : Bytes :=
  encodeBytes (minimalBytes value.toNat)

/-- A list of items that are already encoded. -/
def encodeList (items : List Bytes) : Bytes :=
  header 0xc0 items.flatten.length ++ items.flatten

example : encodeWord (0 : BitVec 64) = [0x80] := by decide

example : encodeList [encodeBytes (ascii "cat"), encodeWord (1024 : BitVec 64)] =
    [0xc7, 0x83, 0x63, 0x61, 0x74, 0x82, 0x04, 0x00] := by decide

/-! ### Integers -/

/-- Lengths whose octets fit a header. -/
def maxLength : Nat := 256 ^ 8

theorem minimalBytes_eq (value : Nat) :
    minimalBytes value = bigEndian (minimalBytes value).length value := by
  unfold minimalBytes
  split
  · rfl
  · rw [length_bigEndian]

theorem lt_pow_length_minimalBytes (value : Nat) : value < 256 ^ (minimalBytes value).length := by
  unfold minimalBytes
  split
  · rename_i zero
    simp [zero]
  · rename_i nonzero
    rw [length_bigEndian, show 256 = 2 ^ 8 from rfl, ← Nat.pow_mul]
    refine lt_of_lt_of_le (Nat.lt_log2_self) (Nat.pow_le_pow_right (by decide) ?_)
    omega

theorem minimalBytes_injective {first second : Nat}
    (equal : minimalBytes first = minimalBytes second) : first = second := by
  have secondBound := lt_pow_length_minimalBytes second
  rw [← equal] at secondBound
  refine bigEndian_injective (lt_pow_length_minimalBytes first) secondBound ?_
  rw [← minimalBytes_eq first, equal, ← minimalBytes_eq second]

theorem length_minimalBytes_le {value bits : Nat} (bounded : value < 2 ^ bits) :
    (minimalBytes value).length ≤ (bits + 7) / 8 := by
  unfold minimalBytes
  split
  · simp
  · rename_i nonzero
    rw [length_bigEndian]
    have logarithm := (Nat.log2_lt nonzero).mpr bounded
    omega

/-! ### Headers -/

/-- The number the first octet of a header adds to its offset: the length of a short payload,
or 55 and the length of the length of a long one. -/
def marker (length : Nat) : Nat :=
  if length < 56 then length else 55 + (minimalBytes length).length

/-- What follows the first octet of a header. -/
def lengthBytes (length : Nat) : Bytes := if length < 56 then [] else minimalBytes length

theorem header_eq (offset length : Nat) :
    header offset length = BitVec.ofNat 8 (offset + marker length) :: lengthBytes length := by
  unfold header marker lengthBytes
  split
  · rfl
  · rw [Nat.add_assoc]

theorem marker_le {length : Nat} (bounded : length < maxLength) : marker length ≤ 63 := by
  unfold marker
  split
  · omega
  · have octets : (minimalBytes length).length ≤ (64 + 7) / 8 := length_minimalBytes_le bounded
    omega

theorem toNat_first {offset length : Nat} (low : offset ≤ 0xc0) (bounded : length < maxLength) :
    (BitVec.ofNat 8 (offset + marker length)).toNat = offset + marker length := by
  have := marker_le bounded
  rw [BitVec.toNat_ofNat, Nat.mod_eq_of_lt (by omega)]

theorem length_minimalBytes_pos {value : Nat} (positive : 0 < value) :
    0 < (minimalBytes value).length := by
  rw [minimalBytes, if_neg (by omega), length_bigEndian]
  omega

/-- The marker tells short payloads from long ones, and how many octets the length takes. -/
theorem length_eq_of_marker_eq {first second : Nat} {rest otherRest : Bytes}
    (markers : marker first = marker second)
    (equal : lengthBytes first ++ rest = lengthBytes second ++ otherRest) :
    first = second ∧ rest = otherRest := by
  unfold marker at markers
  unfold lengthBytes at equal
  by_cases firstShort : first < 56 <;> by_cases secondShort : second < 56
  · rw [if_pos firstShort, if_pos secondShort] at markers equal
    exact ⟨markers, equal⟩
  · have := length_minimalBytes_pos (show 0 < second by omega)
    rw [if_pos firstShort, if_neg secondShort] at markers
    omega
  · have := length_minimalBytes_pos (show 0 < first by omega)
    rw [if_neg firstShort, if_pos secondShort] at markers
    omega
  · rw [if_neg firstShort, if_neg secondShort] at markers equal
    obtain ⟨octets, rests⟩ := List.append_inj equal (by omega)
    exact ⟨minimalBytes_injective octets, rests⟩

theorem delimited_header {offset : Nat} (low : offset ≤ 0xc0) :
    Delimited (fun length => length < maxLength) (header offset) := by
  intro first second rest otherRest firstBounded secondBounded equal
  rw [header_eq, header_eq, List.cons_append, List.cons_append, List.cons.injEq] at equal
  have octets := congrArg BitVec.toNat equal.1
  rw [toNat_first low firstBounded, toNat_first low secondBounded] at octets
  exact length_eq_of_marker_eq (by omega) equal.2

/-- A payload behind a header that carries its length. -/
theorem delimited_payload {offset : Nat} (low : offset ≤ 0xc0) :
    Delimited (fun payload : Bytes => payload.length < maxLength)
      (fun payload => header offset payload.length ++ payload) := by
  intro first second rest otherRest firstBounded secondBounded equal
  rw [List.append_assoc, List.append_assoc] at equal
  obtain ⟨lengths, payloads⟩ := delimited_header low firstBounded secondBounded equal
  exact List.append_inj payloads lengths

/-! ### Byte strings -/

/-- A byte string is its own encoding or stands behind a header. -/
theorem encodeBytes_cases (payload : Bytes) :
    (∃ octet : Byte, octet.toNat < 0x80 ∧ payload = [octet] ∧ encodeBytes payload = [octet]) ∨
      encodeBytes payload = header 0x80 payload.length ++ payload := by
  match payload with
  | [] => exact .inr rfl
  | _ :: _ :: _ => exact .inr rfl
  | [octet] =>
    rw [encodeBytes]
    split
    · rename_i small
      exact .inl ⟨octet, small, rfl, rfl⟩
    · exact .inr rfl

theorem encodeBytes_ne_nil (payload : Bytes) : encodeBytes payload ≠ [] := by
  obtain ⟨octet, -, -, equal⟩ | equal := encodeBytes_cases payload
  · rw [equal]
    exact List.cons_ne_nil _ _
  · rw [equal, header_eq]
    exact List.cons_ne_nil _ _

theorem length_le_encodeBytes (payload : Bytes) :
    payload.length ≤ (encodeBytes payload).length := by
  obtain ⟨octet, -, alone, equal⟩ | equal := encodeBytes_cases payload
  · rw [equal, alone]
  · rw [equal, List.length_append]
    omega

/-- A small octet on its own is not the first octet of a header. -/
theorem small_ne_header {octet : Byte} {length : Nat} {rest otherRest : Bytes}
    (small : octet.toNat < 0x80) (bounded : length < maxLength) :
    [octet] ++ rest ≠ header 0x80 length ++ otherRest := by
  intro equal
  rw [header_eq, List.cons_append, List.cons_append, List.cons.injEq] at equal
  rw [equal.1, toNat_first (by decide) bounded] at small
  omega

theorem delimited_encodeBytes :
    Delimited (fun payload : Bytes => payload.length < maxLength) encodeBytes := by
  intro first second rest otherRest firstBounded secondBounded equal
  obtain ⟨octet, small, alone, firstEqual⟩ | firstEqual := encodeBytes_cases first <;>
    obtain ⟨other, otherSmall, otherAlone, secondEqual⟩ | secondEqual :=
      encodeBytes_cases second <;>
    rw [firstEqual, secondEqual] at equal
  · obtain ⟨octets, rests⟩ := List.append_inj equal rfl
    exact ⟨by rw [alone, otherAlone, octets], rests⟩
  · rw [List.append_assoc] at equal
    exact absurd equal (small_ne_header small secondBounded)
  · rw [List.append_assoc] at equal
    exact absurd equal.symm (small_ne_header otherSmall firstBounded)
  · exact delimited_payload (by decide) firstBounded secondBounded equal

/-- Words of any practical width need no bound. -/
theorem delimited_encodeWord {width : Nat} (narrow : width ≤ 256) :
    Delimited (fun _ => True) fun value : BitVec width => encodeWord value := by
  intro first second rest otherRest _ _ equal
  have bounded : ∀ value : BitVec width, (minimalBytes value.toNat).length < maxLength := by
    intro value
    refine lt_of_le_of_lt (length_minimalBytes_le value.isLt) ?_
    unfold maxLength
    omega
  obtain ⟨octets, rests⟩ := delimited_encodeBytes (bounded first) (bounded second) equal
  exact ⟨BitVec.eq_of_toNat_eq (minimalBytes_injective octets), rests⟩

/-- Fixed-width words written as byte strings. -/
theorem delimited_encodeBytes_wordBytes {width count : Nat} (fits : 2 ^ width ≤ 256 ^ count)
    (narrow : count ≤ 32) :
    Delimited (fun _ => True) fun value : BitVec width => encodeBytes (wordBytes count value) := by
  intro first second rest otherRest _ _ equal
  have bounded : ∀ value : BitVec width, (wordBytes count value).length < maxLength := by
    intro value
    rw [length_wordBytes]
    unfold maxLength
    omega
  obtain ⟨octets, rests⟩ := delimited_encodeBytes (bounded first) (bounded second) equal
  exact ⟨wordBytes_injective fits octets, rests⟩

/-! ### Lists -/

theorem encodeList_ne_nil (items : List Bytes) : encodeList items ≠ [] := by
  rw [encodeList, header_eq]
  exact List.cons_ne_nil _ _

theorem length_flatten_le_encodeList (items : List Bytes) :
    items.flatten.length ≤ (encodeList items).length := by
  rw [encodeList, List.length_append]
  omega

/-- An item of a list is no longer than the list. -/
theorem length_le_encodeList {items : List Bytes} {item : Bytes} (member : item ∈ items) :
    item.length ≤ (encodeList items).length :=
  (List.sublist_flatten_of_mem member).length_le.trans (length_flatten_le_encodeList items)

/-- Two lists in front of a string have the same contents, and the same rest follows. -/
theorem encodeList_append_inj {first second : List Bytes} {rest otherRest : Bytes}
    (firstBounded : (encodeList first).length < maxLength)
    (secondBounded : (encodeList second).length < maxLength)
    (equal : encodeList first ++ rest = encodeList second ++ otherRest) :
    first.flatten = second.flatten ∧ rest = otherRest :=
  delimited_payload (by decide)
    (lt_of_le_of_lt (length_flatten_le_encodeList first) firstBounded)
    (lt_of_le_of_lt (length_flatten_le_encodeList second) secondBounded) equal

/-- A list of items of one kind. -/
theorem delimited_encodeList_map {Item : Type} {domain : Item → Prop} {encode : Item → Bytes}
    (delimited : Delimited domain encode) (visible : ∀ item, encode item ≠ []) :
    Delimited
      (fun items : List Item =>
        (encodeList (items.map encode)).length < maxLength ∧ ∀ item ∈ items, domain item)
      (fun items => encodeList (items.map encode)) := by
  intro first second rest otherRest firstIn secondIn equal
  obtain ⟨bodies, rests⟩ := encodeList_append_inj firstIn.1 secondIn.1 equal
  rw [← List.flatMap_def, ← List.flatMap_def] at bodies
  exact ⟨delimited.flatMap_inj visible firstIn.2 secondIn.2 bodies, rests⟩

end Rlp

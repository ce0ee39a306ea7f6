/-
This file is the arithmetic of fixed-width machine words: checked addition,
subtraction and multiplication, each characterised by the one equation between
natural numbers that its success means, and the big-endian byte strings such
words are written as.

A checked operation is stated here once for every width. Its specification is
an equivalence, so a caller never unfolds it: `checkedAdd a b = some c` *is*
`a.toNat + b.toNat = c.toNat`, and overflow is the failure of that equation to
have a solution.
-/

import Mathlib

namespace Words

/-! ### Checked arithmetic -/

section Checked

variable {width : Nat}

/-- Addition that fails instead of wrapping. -/
def checkedAdd (left right : BitVec width) : Option (BitVec width) :=
  if left.toNat + right.toNat < 2 ^ width then some (left + right) else none

/-- Subtraction that fails instead of wrapping. -/
def checkedSub (left right : BitVec width) : Option (BitVec width) :=
  if right.toNat ≤ left.toNat then some (left - right) else none

/-- Multiplication that fails instead of wrapping. -/
def checkedMul (left right : BitVec width) : Option (BitVec width) :=
  if left.toNat * right.toNat < 2 ^ width then some (left * right) else none

/-- Advance a cursor by a count of items, failing when it leaves the word. -/
def checkedAdvance (cursor : BitVec width) (count : Nat) : Option (BitVec width) :=
  if cursor.toNat + count < 2 ^ width then some (BitVec.ofNat width (cursor.toNat + count))
  else none

/-- Addition that stops at the largest word. -/
def saturatingAdd (left right : BitVec width) : BitVec width :=
  if left.toNat + right.toNat < 2 ^ width then left + right else BitVec.allOnes width

/-- The larger of two words. -/
def larger (left right : BitVec width) : BitVec width := if left ≤ right then right else left

/-- A checked operation gives the word that stands for its exact result. -/
theorem checked_eq_some {total : Nat} {word result : BitVec width}
    (value : total < 2 ^ width → word.toNat = total) :
    (if total < 2 ^ width then some word else none) = some result ↔ total = result.toNat := by
  constructor
  · intro equal
    split at equal
    · rename_i bounded
      rw [← Option.some.inj equal, value bounded]
    · cases equal
  · intro equal
    have bounded : total < 2 ^ width := equal ▸ result.isLt
    rw [if_pos bounded]
    refine congrArg some (BitVec.eq_of_toNat_eq ?_)
    rw [value bounded, equal]

theorem checkedAdd_eq_some {left right sum : BitVec width} :
    checkedAdd left right = some sum ↔ left.toNat + right.toNat = sum.toNat := by
  refine checked_eq_some fun bounded => ?_
  rw [BitVec.toNat_add, Nat.mod_eq_of_lt bounded]

theorem checkedSub_eq_some {left right difference : BitVec width} :
    checkedSub left right = some difference ↔
      left.toNat = right.toNat + difference.toNat := by
  unfold checkedSub
  constructor
  · intro equal
    split at equal
    · rename_i bounded
      rw [← Option.some.inj equal, BitVec.toNat_sub_of_le bounded]
      omega
    · cases equal
  · intro equal
    have bounded : right.toNat ≤ left.toNat := by omega
    rw [if_pos bounded]
    refine congrArg some (BitVec.eq_of_toNat_eq ?_)
    rw [BitVec.toNat_sub_of_le bounded]
    omega

theorem checkedSub_isSome {left right : BitVec width} :
    (∃ difference, checkedSub left right = some difference) ↔ right.toNat ≤ left.toNat := by
  constructor
  · rintro ⟨difference, equal⟩
    have := checkedSub_eq_some.mp equal
    omega
  · intro bounded
    exact ⟨left - right, if_pos bounded⟩

theorem checkedMul_eq_some {left right product : BitVec width} :
    checkedMul left right = some product ↔ left.toNat * right.toNat = product.toNat := by
  refine checked_eq_some fun bounded => ?_
  rw [BitVec.toNat_mul, Nat.mod_eq_of_lt bounded]

theorem checkedAdvance_eq_some {cursor next : BitVec width} {count : Nat} :
    checkedAdvance cursor count = some next ↔ cursor.toNat + count = next.toNat := by
  refine checked_eq_some fun bounded => ?_
  rw [BitVec.toNat_ofNat, Nat.mod_eq_of_lt bounded]

theorem toNat_saturatingAdd (left right : BitVec width) :
    (saturatingAdd left right).toNat = min (2 ^ width - 1) (left.toNat + right.toNat) := by
  unfold saturatingAdd
  split
  case isTrue fits =>
    rw [BitVec.toNat_add, Nat.mod_eq_of_lt fits]
    omega
  case isFalse exceeds =>
    rw [BitVec.toNat_allOnes]
    omega

theorem saturatingAdd_of_checkedAdd {left right sum : BitVec width}
    (added : checkedAdd left right = some sum) : saturatingAdd left right = sum := by
  have total := checkedAdd_eq_some.mp added
  have bound := sum.isLt
  refine BitVec.eq_of_toNat_eq ?_
  rw [toNat_saturatingAdd, total]
  omega

/-- What a cursor advanced by is what is between its two places. -/
theorem checkedSub_of_checkedAdvance {before after : BitVec width} {count : Nat}
    (advanced : checkedAdvance before count = some after) :
    ∃ difference, checkedSub after before = some difference ∧ difference.toNat = count := by
  have total := checkedAdvance_eq_some.mp advanced
  have ordered : before.toNat ≤ after.toNat := by omega
  obtain ⟨difference, subtracted⟩ := checkedSub_isSome.mpr ordered
  have split := checkedSub_eq_some.mp subtracted
  exact ⟨difference, subtracted, by omega⟩

theorem saturatingAdd_right_comm (count left right : BitVec width) :
    saturatingAdd (saturatingAdd count left) right =
      saturatingAdd (saturatingAdd count right) left := by
  refine BitVec.eq_of_toNat_eq ?_
  simp only [toNat_saturatingAdd]
  omega

/-- Every number that fits a word is the value of one. -/
theorem exists_toNat_eq {value : Nat} (fits : value < 2 ^ width) :
    ∃ word : BitVec width, word.toNat = value :=
  ⟨BitVec.ofNat width value, by rw [BitVec.toNat_ofNat, Nat.mod_eq_of_lt fits]⟩

theorem toNat_eq_zero {value : BitVec width} : value.toNat = 0 ↔ value = 0 := by
  constructor
  · intro zero
    exact BitVec.eq_of_toNat_eq (by rw [zero]; simp)
  · rintro rfl
    simp

end Checked

/-! ### Big-endian byte strings -/

/-- One octet. -/
abbrev Byte := BitVec 8

/-- A byte string. -/
abbrev Bytes := List Byte

/-- The `count` low-order octets of a natural number, most significant first. -/
def bigEndian : Nat → Nat → Bytes
  | 0, _ => []
  | count + 1, value => BitVec.ofNat 8 (value / 256 ^ count) :: bigEndian count value

@[simp]
theorem length_bigEndian (count value : Nat) : (bigEndian count value).length = count := by
  induction count with
  | zero => rfl
  | succ count inductionHypothesis => rw [bigEndian, List.length_cons, inductionHypothesis]

/-- A big-endian string determines the number up to its width. -/
theorem bigEndian_mod_eq (count first second : Nat)
    (equal : bigEndian count first = bigEndian count second) :
    first % 256 ^ count = second % 256 ^ count := by
  induction count with
  | zero => simp [Nat.mod_one]
  | succ count inductionHypothesis =>
    rw [bigEndian, bigEndian, List.cons.injEq] at equal
    have low := inductionHypothesis equal.2
    have high : first / 256 ^ count % 256 = second / 256 ^ count % 256 := by
      have := congrArg BitVec.toNat equal.1
      simpa only [BitVec.toNat_ofNat] using this
    rw [Nat.pow_succ, Nat.mod_mul, Nat.mod_mul, low, high]

theorem bigEndian_injective {count first second : Nat} (firstBound : first < 256 ^ count)
    (secondBound : second < 256 ^ count)
    (equal : bigEndian count first = bigEndian count second) : first = second := by
  have residues := bigEndian_mod_eq count first second equal
  rwa [Nat.mod_eq_of_lt firstBound, Nat.mod_eq_of_lt secondBound] at residues

/-- The big-endian octets of a word whose width is a whole number of octets. -/
def wordBytes {width : Nat} (count : Nat) (value : BitVec width) : Bytes :=
  bigEndian count value.toNat

@[simp]
theorem length_wordBytes {width : Nat} (count : Nat) (value : BitVec width) :
    (wordBytes count value).length = count := length_bigEndian count _

theorem wordBytes_injective {width count : Nat} (fits : 2 ^ width ≤ 256 ^ count)
    {first second : BitVec width} (equal : wordBytes count first = wordBytes count second) :
    first = second :=
  BitVec.eq_of_toNat_eq (bigEndian_injective (lt_of_lt_of_le first.isLt fits)
    (lt_of_lt_of_le second.isLt fits) equal)

theorem setWidth_injective {width larger : Nat} (fits : width ≤ larger)
    {first second : BitVec width} (equal : first.setWidth larger = second.setWidth larger) :
    first = second := by
  have values := congrArg BitVec.toNat equal
  rw [BitVec.toNat_setWidth_of_le fits, BitVec.toNat_setWidth_of_le fits] at values
  exact BitVec.eq_of_toNat_eq values

/-- Strings of one fixed length concatenate injectively. -/
theorem flatMap_injective {Item : Type} {encode : Item → Bytes} {length : Nat}
    (positive : 0 < length) {first second : List Item}
    (firstFixed : ∀ item ∈ first, (encode item).length = length)
    (secondFixed : ∀ item ∈ second, (encode item).length = length)
    (injective : ∀ left ∈ first, ∀ right ∈ second, encode left = encode right → left = right)
    (equal : first.flatMap encode = second.flatMap encode) : first = second := by
  induction first generalizing second with
  | nil =>
    cases second with
    | nil => rfl
    | cons head tail =>
      have lengths := congrArg List.length equal
      rw [List.flatMap_nil, List.flatMap_cons, List.length_append,
        secondFixed head List.mem_cons_self, List.length_nil] at lengths
      omega
  | cons head tail inductionHypothesis =>
    cases second with
    | nil =>
      have lengths := congrArg List.length equal
      rw [List.flatMap_nil, List.flatMap_cons, List.length_append,
        firstFixed head List.mem_cons_self, List.length_nil] at lengths
      omega
    | cons otherHead otherTail =>
      rw [List.forall_mem_cons] at firstFixed secondFixed
      rw [List.flatMap_cons, List.flatMap_cons] at equal
      obtain ⟨heads, tails⟩ := List.append_inj equal (by rw [firstFixed.1, secondFixed.1])
      rw [injective head List.mem_cons_self otherHead List.mem_cons_self heads,
        inductionHypothesis firstFixed.2 secondFixed.2 (fun left leftMember right rightMember =>
          injective left (List.mem_cons_of_mem _ leftMember) right
            (List.mem_cons_of_mem _ rightMember)) tails]

/-- The number a big-endian string denotes. -/
def ofBigEndian (bytes : Bytes) : Nat :=
  bytes.foldl (fun value octet => 256 * value + octet.toNat) 0

theorem ofBigEndian_concat (bytes : Bytes) (octet : Byte) :
    ofBigEndian (bytes ++ [octet]) = 256 * ofBigEndian bytes + octet.toNat := by
  rw [ofBigEndian, List.foldl_concat, ofBigEndian]

theorem ofBigEndian_lt (bytes : Bytes) : ofBigEndian bytes < 256 ^ bytes.length := by
  induction bytes using List.reverseRecOn with
  | nil => exact Nat.one_pos
  | append_singleton rest octet inductionHypothesis =>
    have bound : octet.toNat < 256 := octet.isLt
    rw [ofBigEndian_concat, List.length_append, List.length_singleton, Nat.pow_succ]
    omega

theorem bigEndian_succ_eq_concat (count value : Nat) :
    bigEndian (count + 1) value = bigEndian count (value / 256) ++ [BitVec.ofNat 8 value] := by
  induction count with
  | zero => rw [bigEndian, bigEndian, bigEndian, Nat.pow_zero, Nat.div_one, List.nil_append]
  | succ count inductionHypothesis =>
    rw [bigEndian, inductionHypothesis, bigEndian, Nat.div_div_eq_div_mul, ← Nat.pow_succ',
      List.cons_append]

theorem bigEndian_zero (count : Nat) : bigEndian count 0 = List.replicate count 0 := by
  induction count with
  | zero => rfl
  | succ count inductionHypothesis =>
    rw [bigEndian, inductionHypothesis, Nat.zero_div, List.replicate_succ]
    rfl

/-- Writing a number back gives the string it was read from, behind zero octets. -/
theorem bigEndian_ofBigEndian {bytes : Bytes} {count : Nat} (fits : bytes.length ≤ count) :
    bigEndian count (ofBigEndian bytes) =
      List.replicate (count - bytes.length) 0 ++ bytes := by
  induction bytes using List.reverseRecOn generalizing count with
  | nil =>
    rw [List.append_nil]
    exact bigEndian_zero count
  | append_singleton rest octet inductionHypothesis =>
    rw [List.length_append, List.length_singleton] at fits ⊢
    obtain ⟨count, rfl⟩ : ∃ shorter, count = shorter + 1 := ⟨count - 1, by omega⟩
    have bound : octet.toNat < 256 := octet.isLt
    have high : (256 * ofBigEndian rest + octet.toNat) / 256 = ofBigEndian rest := by omega
    have low : BitVec.ofNat 8 (256 * ofBigEndian rest + octet.toNat) = octet := by
      refine BitVec.eq_of_toNat_eq ?_
      rw [BitVec.toNat_ofNat]
      omega
    rw [bigEndian_succ_eq_concat, ofBigEndian_concat, high, low,
      inductionHypothesis (by omega), Nat.add_sub_add_right, List.append_assoc]

/-- Reading a number back that was written. -/
theorem ofBigEndian_bigEndian {count value : Nat} (fits : value < 256 ^ count) :
    ofBigEndian (bigEndian count value) = value := by
  have bound := ofBigEndian_lt (bigEndian count value)
  have written := bigEndian_ofBigEndian (length_bigEndian count value).le
  rw [length_bigEndian] at bound written
  rw [Nat.sub_self, List.replicate_zero, List.nil_append] at written
  exact bigEndian_injective bound fits written

theorem ofNat_ofBigEndian_wordBytes {width count : Nat} (fits : 2 ^ width ≤ 256 ^ count)
    (value : BitVec width) : BitVec.ofNat width (ofBigEndian (wordBytes count value)) = value := by
  rw [wordBytes, ofBigEndian_bigEndian (lt_of_lt_of_le value.isLt fits), BitVec.ofNat_toNat,
    BitVec.setWidth_eq]

/-- Leading zero octets do not change the number. -/
theorem ofBigEndian_zeros_append (count : Nat) (bytes : Bytes) :
    ofBigEndian (List.replicate count 0 ++ bytes) = ofBigEndian bytes := by
  induction count with
  | zero => rw [List.replicate_zero, List.nil_append]
  | succ count inductionHypothesis =>
    rw [← inductionHypothesis, List.replicate_succ, List.cons_append, ofBigEndian, List.foldl_cons,
      ofBigEndian]
    rfl

/-- Where a part of strings of one fixed length stands in their concatenation. -/
theorem getElem?_flatMap_of_fixed {Item Part : Type} {encode : Item → List Part} {length : Nat}
    {items : List Item} (fixed : ∀ item ∈ items, (encode item).length = length) {index offset : Nat}
    {item : Item} (found : items[index]? = some item) (inside : offset < length) :
    (items.flatMap encode)[length * index + offset]? = (encode item)[offset]? := by
  induction items generalizing index with
  | nil => cases found
  | cons head tail inductionHypothesis =>
    obtain ⟨own, others⟩ := List.forall_mem_cons.mp fixed
    rw [List.flatMap_cons]
    cases index with
    | zero =>
      rw [List.getElem?_cons_zero, Option.some.injEq] at found
      rw [Nat.mul_zero, Nat.zero_add, List.getElem?_append_left (own ▸ inside), found]
    | succ index =>
      rw [List.getElem?_cons_succ] at found
      have behind : length * (index + 1) + offset - length = length * index + offset := by
        rw [Nat.mul_succ]
        omega
      rw [List.getElem?_append_right (by rw [own, Nat.mul_succ]; omega), own, behind,
        inductionHypothesis others found]

/-- The octets from one position up to another, if the string reaches that far. -/
def slice (bytes : Bytes) (start finish : Nat) : Option Bytes :=
  if finish ≤ bytes.length then some ((bytes.drop start).take (finish - start)) else none

/-- Cut a byte string to a length, or fill it up with zero octets. -/
def resize (length : Nat) (bytes : Bytes) : Bytes :=
  bytes.take length ++ List.replicate (length - bytes.length) 0

@[simp]
theorem length_resize (length : Nat) (bytes : Bytes) : (resize length bytes).length = length := by
  rw [resize, List.length_append, List.length_take, List.length_replicate]
  omega

theorem resize_of_le {length : Nat} {bytes : Bytes} (short : bytes.length ≤ length) :
    resize length bytes = bytes ++ List.replicate (length - bytes.length) 0 := by
  rw [resize, List.take_of_length_le short]

/-- The octets of an ASCII label. -/
def ascii (label : String) : Bytes :=
  label.toList.map fun character => BitVec.ofNat 8 character.toNat

end Words

/-
This file is about text: white space and trimming, byte strings in hexadecimal
digits, and machine words in the digits of a radix.

The hexadecimal reader accepts digits of either case, and the writer writes lower
case: reading inverts writing, and one byte string has many spellings.
-/

import Zkdeal.Library.Words

namespace Texts

open Words

/-- A text, character by character. -/
abbrev Text : Type := List Char

/-! ### White space -/

/-- The characters with the White_Space property. -/
def isWhitespace (character : Char) : Bool :=
  (0x9 ≤ character.toNat && character.toNat ≤ 0xd) ||
    (0x2000 ≤ character.toNat && character.toNat ≤ 0x200a) ||
    [0x20, 0x85, 0xa0, 0x1680, 0x2028, 0x2029, 0x202f, 0x205f, 0x3000].contains character.toNat

/-- White space stands below or above the ASCII letters and digits. -/
theorem toNat_of_isWhitespace {character : Char} (space : isWhitespace character = true) :
    character.toNat ≤ 32 ∨ 133 ≤ character.toNat := by
  unfold isWhitespace at space
  simp only [Bool.or_eq_true, Bool.and_eq_true, decide_eq_true_eq, List.contains_iff_mem,
    List.mem_cons, List.not_mem_nil, or_false] at space
  omega

/-- A text without the white space around it. -/
def trim (text : Text) : Text := (text.dropWhile isWhitespace).rdropWhile isWhitespace

theorem trim_of_forall {text : Text}
    (solid : ∀ character ∈ text, isWhitespace character = false) : trim text = text := by
  have kept (letters : Text) (inside : ∀ character ∈ letters, isWhitespace character = false) :
      letters.dropWhile isWhitespace = letters := by
    cases letters with
    | nil => rfl
    | cons character rest =>
      rw [List.dropWhile_cons, inside character List.mem_cons_self]
      rfl
  have backwards : ∀ character ∈ text.reverse, isWhitespace character = false :=
    fun character member => solid character (List.mem_reverse.mp member)
  rw [trim, kept text solid, List.rdropWhile, kept _ backwards, List.reverse_reverse]

/-! ### Hexadecimal digits -/

section Hexadecimal

def hexDigit (value : Nat) : Char := "0123456789abcdef".toList.getD value '0'

def digitValue? (character : Char) : Option Nat :=
  if '0' ≤ character ∧ character ≤ '9' then some (character.toNat - 48)
  else if 'a' ≤ character ∧ character ≤ 'f' then some (character.toNat - 87)
  else if 'A' ≤ character ∧ character ≤ 'F' then some (character.toNat - 55)
  else none

/-- Two digits for every byte. -/
def hexDigits (bytes : Bytes) : Text :=
  bytes.flatMap fun byte => [hexDigit (byte.toNat / 16), hexDigit (byte.toNat % 16)]

/-- The bytes that pairs of digits denote. -/
def readHexDigits : Text → Option Bytes
  | [] => some []
  | [_] => none
  | high :: low :: rest =>
    match digitValue? high, digitValue? low, readHexDigits rest with
    | some high, some low, some bytes => some (BitVec.ofNat 8 (high <<< 4 ||| low) :: bytes)
    | _, _, _ => none

theorem digitValue?_hexDigit {value : Nat} (small : value < 16) :
    digitValue? (hexDigit value) = some value := by
  have every : ∀ digit : Fin 16, digitValue? (hexDigit digit) = some digit := by decide
  exact every ⟨value, small⟩

theorem utf8Size_hexDigit {value : Nat} (small : value < 16) : (hexDigit value).utf8Size = 1 := by
  have every : ∀ digit : Fin 16, (hexDigit digit).utf8Size = 1 := by decide
  exact every ⟨value, small⟩

theorem nibbles_eq (byte : Byte) :
    BitVec.ofNat 8 ((byte.toNat / 16) <<< 4 ||| byte.toNat % 16) = byte := by
  refine BitVec.eq_of_toNat_eq ?_
  have bound : byte.toNat < 256 := byte.isLt
  rw [← Nat.shiftLeft_add_eq_or_of_lt (by omega), Nat.shiftLeft_eq, BitVec.toNat_ofNat]
  omega

/-- What was written is read back. -/
theorem readHexDigits_hexDigits (bytes : Bytes) : readHexDigits (hexDigits bytes) = some bytes := by
  induction bytes with
  | nil => rfl
  | cons byte rest inductionHypothesis =>
    have bound : byte.toNat < 256 := byte.isLt
    have high : digitValue? (hexDigit (byte.toNat / 16)) = some (byte.toNat / 16) :=
      digitValue?_hexDigit (by omega)
    have low : digitValue? (hexDigit (byte.toNat % 16)) = some (byte.toNat % 16) :=
      digitValue?_hexDigit (by omega)
    rw [hexDigits, List.flatMap_cons, ← hexDigits]
    show (match digitValue? (hexDigit (byte.toNat / 16)), digitValue? (hexDigit (byte.toNat % 16)),
        readHexDigits (hexDigits rest) with
      | some high, some low, some bytes => some (BitVec.ofNat 8 (high <<< 4 ||| low) :: bytes)
      | _, _, _ => none) = some (byte :: rest)
    rw [high, low, inductionHypothesis]
    exact congrArg (fun first => some (first :: rest)) (nibbles_eq byte)

theorem hexDigits_injective {first second : Bytes} (same : hexDigits first = hexDigits second) :
    first = second := by
  have read := congrArg readHexDigits same
  rw [readHexDigits_hexDigits, readHexDigits_hexDigits] at read
  exact Option.some.inj read

/-- The number of bytes a text takes. -/
def utf8Length (text : Text) : Nat := (text.map Char.utf8Size).sum

theorem utf8Length_hexDigits (bytes : Bytes) : utf8Length (hexDigits bytes) = 2 * bytes.length := by
  induction bytes with
  | nil => rfl
  | cons byte rest inductionHypothesis =>
    have bound : byte.toNat < 256 := byte.isLt
    unfold utf8Length at inductionHypothesis ⊢
    rw [hexDigits, List.flatMap_cons, ← hexDigits, List.map_append, List.sum_append,
      inductionHypothesis, List.map_cons, List.map_cons, List.map_nil,
      utf8Size_hexDigit (by omega), utf8Size_hexDigit (by omega), List.length_cons]
    simp only [List.sum_cons, List.sum_nil]
    omega

end Hexadecimal

/-! ### Digits of a radix -/

section Radix

/-- Append a digit to a number below a bound. -/
def appendDigit (radix bound value : Nat) (character : Char) : Except String Nat :=
  match (digitValue? character).filter (· < radix) with
  | none => .error "invalid digit found in string"
  | some digit =>
    if value * radix + digit < bound then .ok (value * radix + digit)
    else .error "number too large to fit in target type"

/-- Read an unsigned number below a bound; a plus sign may stand in front of it. -/
def readRadix (radix bound : Nat) (text : Text) : Except String Nat :=
  match text with
  | [] => .error "cannot parse integer from empty string"
  | ['+'] => .error "invalid digit found in string"
  | '+' :: digits => digits.foldlM (appendDigit radix bound) 0
  | digits => digits.foldlM (appendDigit radix bound) 0

theorem isDigit_of_mem_repr {value : Nat} {character : Char}
    (member : character ∈ value.repr.toList) : character.isDigit = true := by
  rw [Nat.toList_repr] at member
  exact Nat.isDigit_of_mem_toDigits (by decide) (by decide) member

theorem isWhitespace_of_isDigit {character : Char} (digit : character.isDigit = true) :
    isWhitespace character = false := by
  have bounds : 48 ≤ character.toNat ∧ character.toNat ≤ 57 := by
    unfold Char.isDigit at digit
    simp only [Bool.and_eq_true, decide_eq_true_eq, UInt32.le_iff_toNat_le, ge_iff_le] at digit
    exact digit
  refine Bool.eq_false_iff.mpr fun space => ?_
  have outside := toNat_of_isWhitespace space
  omega

theorem trim_repr (value : Nat) : trim value.repr.toList = value.repr.toList :=
  trim_of_forall fun _ member => isWhitespace_of_isDigit (isDigit_of_mem_repr member)

theorem appendDigit_digitChar {bound value digit : Nat} (small : digit < 10)
    (fits : value * 10 + digit < bound) :
    appendDigit 10 bound value digit.digitChar = .ok (value * 10 + digit) := by
  have every : ∀ digit : Fin 10, (digitValue? (Nat.digitChar digit)).filter (· < 10) =
      some digit.val := by decide
  rw [appendDigit, every ⟨digit, small⟩]
  exact if_pos fits

/-- The digits of a number are read back one after the other. -/
theorem foldlM_toDigits {bound : Nat} (value : Nat) (fits : value < bound) :
    (Nat.toDigits 10 value).foldlM (appendDigit 10 bound) 0 = .ok value := by
  induction value using Nat.strongRecOn with
  | ind value inductionHypothesis =>
    by_cases short : value < 10
    · have first : appendDigit 10 bound 0 value.digitChar = .ok (0 * 10 + value) :=
        appendDigit_digitChar short (by omega)
      rw [Nat.zero_mul, Nat.zero_add] at first
      rw [Nat.toDigits_of_lt_base short, List.foldlM_cons, first]
      rfl
    · have front := inductionHypothesis (value / 10) (by omega) (by omega)
      have last : appendDigit 10 bound (value / 10) (value % 10).digitChar =
          .ok (value / 10 * 10 + value % 10) :=
        appendDigit_digitChar (Nat.mod_lt value (by decide)) (by omega)
      have whole : value / 10 * 10 + value % 10 = value := by omega
      rw [Nat.toDigits_of_base_le (by decide) (not_lt.mp short), List.foldlM_append, front]
      show (List.foldlM (appendDigit 10 bound) (value / 10) [(value % 10).digitChar]) = _
      rw [List.foldlM_cons, last, whole]
      rfl

theorem readRadix_repr {bound value : Nat} (fits : value < bound) :
    readRadix 10 bound value.repr.toList = .ok value := by
  have read := foldlM_toDigits value fits
  rw [← Nat.toList_repr] at read
  have digits : ∀ character ∈ value.repr.toList, character.isDigit = true :=
    fun _ => isDigit_of_mem_repr
  have filled : value.repr.toList ≠ [] := by
    rw [Nat.toList_repr]
    exact Nat.toDigits_ne_nil
  revert read digits filled
  generalize value.repr.toList = text
  intro read digits filled
  unfold readRadix
  split
  · exact absurd rfl filled
  · exact absurd (digits '+' (by simp)) (by decide)
  · exact absurd (digits '+' (by simp)) (by decide)
  · exact read

end Radix

end Texts

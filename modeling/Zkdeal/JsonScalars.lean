/-
This file models the scalar readers and writers that every JSON bridge shares: numbers
as numbers, decimal or hexadecimal text, byte strings as hexadecimal text behind `0x`,
and words as byte strings that may be shorter than the word.

The reader and printer of the JSON library and the reader of 256-bit integers are
parameters. What a result needs of the latter is that decimal text is read back.
-/

import Zkdeal.Library.Guard
import Zkdeal.Library.JsonReader
import Zkdeal.Types

namespace Zkdeal

open Words Texts Guard

/-- The library functions the bridge calls; failures are the texts they display. -/
structure TextLibrary where
  fromStr : String → Except String Json.Value
  toText : Json.Value → String
  u256FromStrRadix : String → Nat → Except String U256

/-- Decimal text is read back. -/
def TextLibrary.ReadsDecimal (library : TextLibrary) : Prop :=
  ∀ value : U256, library.u256FromStrRadix value.toNat.repr 10 = .ok value

/-! ### Readers -/

/-- What follows `0x` or `0X`. -/
def stripHexPrefix? : Text → Option Text
  | '0' :: 'x' :: rest => some rest
  | '0' :: 'X' :: rest => some rest
  | _ => none

/-- `u64::from_str_radix`. -/
def u64FromStrRadix (text : String) (radix : Nat) : Except String U64 :=
  (readRadix radix (2 ^ 64) text.toList).map (BitVec.ofNat 64)

/-- A word as a number, or as text: hexadecimal behind the mark, and decimal without it. -/
def parseFlex {Word : Type} (fromUnsigned : U64 → Word)
    (hexadecimal decimal : String → Except String Word) (kind unsignedKind : String)
    (value : Json.Value) (label : String) : Except String Word :=
  match value with
  | .number unsigned =>
    (orRefuse unsigned (label ++ ": not a " ++ unsignedKind)).map fromUnsigned
  | .string text =>
    let trimmed := trim text.toList
    match stripHexPrefix? trimmed with
    | some digits =>
      (hexadecimal (if digits.isEmpty then "0" else String.ofList digits)).mapError
        (label ++ ": bad hex " ++ kind ++ ": " ++ ·)
    | none =>
      (decimal (String.ofList trimmed)).mapError (label ++ ": bad " ++ kind ++ ": " ++ ·)
  | _ => .error (label ++ ": expected number or string")

def parseU64Flex : Json.Value → String → Except String U64 :=
  parseFlex id (u64FromStrRadix · 16) (u64FromStrRadix · 10) "u64" "u64"

def parseU256Flex (library : TextLibrary) : Json.Value → String → Except String U256 :=
  parseFlex (·.setWidth 256) (library.u256FromStrRadix · 16) (library.u256FromStrRadix · 10)
    "u256" "uint"

/-- The length is in bytes and the loop is over bytes, none of which is a digit unless it is
an ASCII character. -/
def parseHexBytes (text label : String) : Except String Bytes := do
  let digits ← orRefuse (stripHexPrefix? text.toList) (label ++ ": missing 0x prefix")
  refuse (utf8Length digits % 2 ≠ 0) (label ++ ": odd-length hex")
  orRefuse (readHexDigits digits) (label ++ ": bad hex")

/-- A word whose leading bytes may be left out. -/
def parseB32 (text label : String) : Except String B256 := do
  let bytes ← parseHexBytes text label
  refuse (32 < bytes.length) (label ++ ": longer than 32 bytes")
  pure (BitVec.ofNat 256 (ofBigEndian bytes))

def getEntry (entries : Json.Entries) (key : String) : Except String Json.Value :=
  orRefuse (Json.get? entries key) ("witness missing '" ++ key ++ "'")

/-- A number under a key. -/
def getU64 (entries : Json.Entries) (key label : String) : Except String U64 := do
  parseU64Flex (← getEntry entries key) label

/-- A text under a key. -/
def getText (entries : Json.Entries) (key label : String) : Except String String := do
  orRefuse (← getEntry entries key).asString? (label ++ ": not a string")

/-- A word under a key. -/
def getB32 (entries : Json.Entries) (key label : String) : Except String B256 := do
  parseB32 (← getText entries key label) label

/-! ### Writers -/

def hex0x (bytes : Bytes) : String := String.ofList ('0' :: 'x' :: hexDigits bytes)

/-- `to_string` of an unsigned integer. -/
def decimal {width : Nat} (value : BitVec width) : Json.Value := .string value.toNat.repr

def hexWord (value : B256) : Json.Value := .string (hex0x (wordBytes 32 value))

/-! ### What is written is read -/

section ReadBack

theorem stripHexPrefix?_repr (value : Nat) : stripHexPrefix? value.repr.toList = none := by
  unfold stripHexPrefix?
  split
  · rename_i rest same
    have member : 'x' ∈ value.repr.toList := by simp [same]
    exact absurd (isDigit_of_mem_repr member) (by decide)
  · rename_i rest same
    have member : 'X' ∈ value.repr.toList := by simp [same]
    exact absurd (isDigit_of_mem_repr member) (by decide)
  · rfl

theorem parseFlex_decimal {Word : Type} {fromUnsigned : U64 → Word}
    {hexadecimal decimal : String → Except String Word} {kind unsignedKind label : String}
    {value : Nat} {word : Word} (read : decimal value.repr = .ok word) :
    parseFlex fromUnsigned hexadecimal decimal kind unsignedKind (.string value.repr) label =
      .ok word := by
  rw [parseFlex, trim_repr, stripHexPrefix?_repr]
  show (decimal (String.ofList value.repr.toList)).mapError _ = _
  rw [String.ofList_toList, read]
  rfl

theorem parseU64Flex_decimal (value : U64) (label : String) :
    parseU64Flex (decimal value) label = .ok value := by
  refine parseFlex_decimal ?_
  rw [u64FromStrRadix, readRadix_repr value.isLt]
  refine congrArg Except.ok ?_
  rw [BitVec.ofNat_toNat, BitVec.setWidth_eq]

theorem parseU256Flex_decimal {library : TextLibrary} (reads : library.ReadsDecimal)
    (value : U256) (label : String) : parseU256Flex library (decimal value) label = .ok value :=
  parseFlex_decimal (reads value)

theorem parseHexBytes_hex0x (bytes : Bytes) (label : String) :
    parseHexBytes (hex0x bytes) label = .ok bytes := by
  have stripped : stripHexPrefix? (hex0x bytes).toList = some (hexDigits bytes) := by
    rw [hex0x, String.toList_ofList, stripHexPrefix?]
  have even : ¬ utf8Length (hexDigits bytes) % 2 ≠ 0 := by
    rw [utf8Length_hexDigits]
    omega
  rw [parseHexBytes, bind_eq_ok]
  refine ⟨_, orRefuse_eq_ok.mpr stripped, refuse_bind_eq_ok.mpr ⟨even, ?_⟩⟩
  rw [orRefuse_eq_ok, readHexDigits_hexDigits]

theorem hex0x_injective {first second : Bytes} (same : hex0x first = hex0x second) :
    first = second := by
  rw [hex0x, hex0x, String.ofList_inj, List.cons.injEq, List.cons.injEq] at same
  exact hexDigits_injective same.2.2

theorem parseB32_hex0x {bytes : Bytes} (fits : bytes.length ≤ 32) (label : String) :
    parseB32 (hex0x bytes) label = .ok (BitVec.ofNat 256 (ofBigEndian bytes)) := by
  rw [parseB32, bind_eq_ok]
  exact ⟨bytes, parseHexBytes_hex0x bytes label, refuse_bind_eq_ok.mpr ⟨not_lt.mpr fits, rfl⟩⟩

theorem parseB32_hexWord (value : B256) (label : String) :
    parseB32 (hex0x (wordBytes 32 value)) label = .ok value := by
  rw [parseB32_hex0x (length_wordBytes 32 value).le, ofNat_ofBigEndian_wordBytes (by decide)]

/-! What stands under a key is read, whatever the other keys are. -/

variable {entries : Json.Entries} {key : String}

theorem getU64_decimal {value : U64} (under : Json.get? entries key = some (decimal value))
    (label : String) : getU64 entries key label = .ok value := by
  rw [getU64, getEntry, under]
  exact parseU64Flex_decimal value label

theorem getU64_number {value : U64} (under : Json.get? entries key = some (.number (some value)))
    (label : String) : getU64 entries key label = .ok value := by
  rw [getU64, getEntry, under]
  rfl

theorem getB32_hexWord {value : B256} (under : Json.get? entries key = some (hexWord value))
    (label : String) : getB32 entries key label = .ok value := by
  rw [getB32, getText, getEntry, under]
  exact parseB32_hexWord value label

end ReadBack

/-- A library that reads and writes JSON text without white space. -/
def sampleTexts : TextLibrary where
  fromStr text := orRefuse (JsonText.read text.toList) "expected value"
  toText value := String.ofList (JsonText.ofValue value)
  u256FromStrRadix text radix := (readRadix radix (2 ^ 256) text.toList).map (BitVec.ofNat 256)

theorem sampleTexts_reads (value : Json.Value) :
    sampleTexts.fromStr (sampleTexts.toText value) = .ok value := by
  show orRefuse (JsonText.read (String.ofList (JsonText.ofValue value)).toList) _ = _
  rw [String.toList_ofList, JsonText.read_ofValue]
  rfl

theorem sampleTexts_readsDecimal : sampleTexts.ReadsDecimal := by
  intro value
  show (readRadix 10 (2 ^ 256) value.toNat.repr.toList).map _ = _
  rw [readRadix_repr value.isLt]
  refine congrArg Except.ok ?_
  rw [BitVec.ofNat_toNat, BitVec.setWidth_eq]

end Zkdeal

/-
This file states the two JSON documents a seven-member room is bound to, the preset
and the exit program, as they come out of the schema decoder, and the texts inside
them that the guest parses itself.

Reading and writing JSON, the schema decoder and the parsers of addresses, hashes
and decimal `u64`s belong to other libraries and are parameters.
-/

import Zkdeal.Settlement.Types
import Zkdeal.Library.Guard

namespace Zkdeal

open Words Guard

/-! ### The exit program -/

structure PositionBackingJsonV4 where
  assetId : U8
  reserveSlot : Option String
deriving DecidableEq

structure ProRataPositionJsonV4 where
  kind : String
  contract : String
  shareBalanceSlot : String
  totalSupplySlot : String
  excludedShareAccounts : List String
  backings : List PositionBackingJsonV4
deriving DecidableEq

structure ExitAssetJsonV4 where
  assetId : U8
  kind : String
  token : Option String
  balanceSlot : Option String
  totalSupplySlot : Option String
deriving DecidableEq

structure ExitProgramJsonV4 where
  version : U8
  assets : List ExitAssetJsonV4
  positions : List ProRataPositionJsonV4
deriving DecidableEq

/-! ### The preset -/

structure ApplicationDomainBindingJsonV4 where
  contract : String
  storageSlot : String
  domainTag : String
deriving DecidableEq

structure ActiveMemberArgumentRuleJsonV4 where
  target : String
  selector : String
  argumentWordIndices : List U8
deriving DecidableEq

structure MembershipStateGuardJsonV4 where
  contract : String
  storageSlot : String
  bitOffset : U16
  bitWidth : U16
  allowedValues : List U64
deriving DecidableEq

structure CodeJsonV4 where
  address : String
  runtimeCodeHash : String
deriving DecidableEq

structure CallRuleJsonV4 where
  caller : String
  target : String
  selectors : List String
  kinds : List String
deriving DecidableEq

structure StorageNamespaceJsonV4 where
  contract : String
  slotPrefix : String
  prefixBits : U16
  writable : Bool
deriving DecidableEq

/-- The counts are machine words of the host. -/
structure ResourceEnvelopeJsonV4 where
  maxBlocksPerBatch : Nat
  maxTransactionsPerBlock : Nat
  maxGasPerBlock : String
  maxWitnessBytes : Nat
  maxMemoryPages : Nat
  maxTouchedAccounts : Nat
  maxTouchedStorageSlots : Nat
deriving DecidableEq

structure PresetJsonV4 where
  version : U8
  executionLevel : String
  fork : String
  code : List CodeJsonV4
  callRules : List CallRuleJsonV4
  storageNamespaces : List StorageNamespaceJsonV4
  applicationDomainBindings : List ApplicationDomainBindingJsonV4
  activeMemberArgumentRules : List ActiveMemberArgumentRuleJsonV4
  membershipStateGuards : List MembershipStateGuardJsonV4
  resources : ResourceEnvelopeJsonV4
  allowContractCreation : Bool
  allowSelfDestruct : Bool
  exitProgramId : String
  assetIds : List U8
deriving DecidableEq

/-! ### What is read with other libraries -/

/-- The JSON reader and writer, the schema decoder, and the parsers of fixed-width texts. -/
structure JsonLibrary where
  Value : Type
  fromSlice : Bytes → Except Message Value
  toVec : Value → Except Message Bytes
  exitProgram : Value → Except Message ExitProgramJsonV4
  preset : Value → Except Message PresetJsonV4
  address : String → Except Message Address
  b256 : String → Except Message B256
  u64 : String → Option U64

namespace JsonLibrary

variable (json : JsonLibrary)

def parseAddress (value : String) (label : Message) : Except Message Address :=
  (json.address value).mapError fun error => label ++ .text ": invalid address: " :: error

def parseB256 (value : String) (label : Message) : Except Message B256 :=
  (json.b256 value).mapError fun error => label ++ .text ": invalid bytes32: " :: error

/-- Read a document that is written the way the library writes it. -/
def readCanonical (document : Bytes) (name : String) :
    Except Message json.Value := do
  let value ← (json.fromSlice document).mapError fun error =>
    [.text name, .text " JSON: "] ++ error
  let canonical ← (json.toVec value).mapError fun error =>
    [.text "canonical ", .text name, .text " JSON: "] ++ error
  refuse (canonical ≠ document) [.text name, .text " JSON is not canonical"]
  pure value

end JsonLibrary

/-! ### What the guest parses itself -/

/-- The octets of a text. -/
def utf8 (text : String) : Bytes :=
  text.toList.flatMap fun character =>
    (String.utf8EncodeChar character).map UInt8.toBitVec

/-- The value of a text of decimal digits. -/
def decimalValue (digits : List Char) : Nat :=
  digits.foldl (fun value digit => 10 * value + (digit.toNat - '0'.toNat)) 0

/-- A `uint256` in decimal without leading zeroes. -/
def parseDecimalU256 (value : String) (label : Message) : Except Message U256 := do
  let digits := value.toList
  refuse (digits.isEmpty ∨ (1 < digits.length ∧ digits.head? = some '0') ∨
      ¬ digits.all Char.isDigit)
    (label ++ [.text ": expected canonical decimal uint256"])
  refuse (2 ^ 256 ≤ decimalValue digits) (label ++ [.text ": uint256 overflow"])
  pure (BitVec.ofNat 256 (decimalValue digits))

def hexDigit (digit : Char) : Option Nat :=
  if '0' ≤ digit ∧ digit ≤ '9' then some (digit.toNat - '0'.toNat)
  else if 'a' ≤ digit ∧ digit ≤ 'f' then some (digit.toNat - 'a'.toNat + 10)
  else if 'A' ≤ digit ∧ digit ≤ 'F' then some (digit.toNat - 'A'.toNat + 10)
  else none

/-- Two hexadecimal digits. The library's reader also takes one digit behind a plus sign. -/
def hexPair (first second : Char) : Option Nat :=
  if first = '+' then hexDigit second
  else do
    let high ← hexDigit first
    let low ← hexDigit second
    pure (16 * high + low)

/-- Four octets in hexadecimal. A text with a multi-byte character does not get through: no
pair with a part of it is read. -/
def parseSelector (value : String) (label : Message) : Except Message Selector :=
  match value.toList with
  | '0' :: 'x' :: digits => do
    refuse ((digits.map Char.utf8Size).sum ≠ 8) (label ++ [.text ": selector is not bytes4"])
    match digits with
    | [d0, d1, d2, d3, d4, d5, d6, d7] =>
      let octets : Option (List Nat) := [(d0, d1), (d2, d3), (d4, d5), (d6, d7)].mapM fun pair =>
        hexPair pair.1 pair.2
      let octets ← orRefuse octets (label ++ [.text ": selector is not hex"])
      pure (BitVec.ofNat 32 (octets.foldl (fun number octet => 256 * number + octet) 0))
    | _ => .error (label ++ [.text ": selector is not hex"])
  | _ => .error (label ++ [.text ": selector needs 0x prefix"])

/-! ### A library to evaluate the model with -/

/-- A hexadecimal text of that many digits behind its mark. -/
def sampleHex (length : Nat) (text : String) : Except Message Nat :=
  match text.toList with
  | '0' :: 'x' :: digits => do
    refuse (digits.length ≠ length) "invalid string length"
    let values ← orRefuse (digits.mapM hexDigit) "invalid character"
    pure (values.foldl (fun number digit => 16 * number + digit) 0)
  | _ => .error "invalid string length"

/-- A library that knows a few documents, each already in the library's own form. -/
def sampleJson (programs : List (Bytes × ExitProgramJsonV4))
    (presets : List (Bytes × PresetJsonV4)) : JsonLibrary where
  Value := Bytes
  fromSlice document := do
    refuse (programs.lookup document = none ∧ presets.lookup document = none) "unknown document"
    pure document
  toVec document := .ok document
  exitProgram document := orRefuse (programs.lookup document) "not an exit program"
  preset document := orRefuse (presets.lookup document) "not a preset"
  address text := (sampleHex 40 text).map (BitVec.ofNat 160)
  b256 text := (sampleHex 64 text).map (BitVec.ofNat 256)
  u64 text :=
    let digits := text.toList
    if digits.isEmpty ∨ ¬ digits.all Char.isDigit ∨ 2 ^ 64 ≤ decimalValue digits then none
    else some (BitVec.ofNat 64 (decimalValue digits))

/-- A hash in hexadecimal. -/
def hexText (value : B256) : String :=
  String.ofList ('0' :: 'x' :: (List.range 64).map fun place =>
    let digit := value.toNat / 16 ^ (63 - place) % 16
    Char.ofNat (if digit < 10 then '0'.toNat + digit else 'a'.toNat + (digit - 10)))

/-- A document written in pieces. -/
def sampleDocument (pieces : List String) : Bytes := pieces.flatMap ascii

/-- An exit program that settles the native asset alone. -/
def sampleNativeDocument : Bytes :=
  sampleDocument ["\x7b\"assets\":[\x7b\"assetId\":0,", "\"kind\":\"native\"\x7d],",
    "\"positions\":[],", "\"version\":4\x7d"]

def sampleNativeJson : ExitProgramJsonV4 := ⟨4, [⟨0, "native", none, none, none⟩], []⟩

/-- A generic preset bound to an exit program. -/
def samplePresetDocument (exitProgramId : String) : Bytes :=
  sampleDocument ["\x7b\"allowContractCreation\":false,", "\"allowSelfDestruct\":false,",
    "\"executionLevel\":\"generic\",", "\"exitProgramId\":\"", exitProgramId, "\",",
    "\"fork\":\"osaka\",", "\"resources\":\x7b", "\"maxBlocksPerBatch\":4,",
    "\"maxGasPerBlock\":\"30000000\",", "\"maxMemoryPages\":64,", "\"maxTouchedAccounts\":16,",
    "\"maxTouchedStorageSlots\":64,", "\"maxTransactionsPerBlock\":8,",
    "\"maxWitnessBytes\":1048576\x7d,", "\"version\":4\x7d"]

def samplePresetJson (exitProgramId : String) : PresetJsonV4 where
  version := 4
  executionLevel := "generic"
  fork := "osaka"
  code := []
  callRules := []
  storageNamespaces := []
  applicationDomainBindings := []
  activeMemberArgumentRules := []
  membershipStateGuards := []
  resources := ⟨4, 8, "30000000", 1048576, 64, 16, 64⟩
  allowContractCreation := false
  allowSelfDestruct := false
  exitProgramId := exitProgramId
  assetIds := []

end Zkdeal

/-
This file models the single-block JSON bridge: the reader of a witness, the writer of
the state after a block, which is the next witness's state, and the state map that is
built from what was read.

A witness carries the state as a text of its own, an object from addresses to accounts.
Addresses, slots and values are hexadecimal text, nonces and balances mostly decimal;
slots and values may be short. Accounts and slots are sorted after they are decoded.
-/

import Zkdeal.JsonScalars
import Zkdeal.Library.KeySort
import Zkdeal.Settlement.ColdRoom

namespace Zkdeal

open Words Texts Guard KeySort

/-! ### The wire -/

structure AccountWire where
  address : Address
  nonce : U64
  balance : U256
  code : Bytes
  storage : List (B256 × B256)
deriving DecidableEq

structure EnvWire where
  timestamp : U64
  gasLimit : U64
deriving DecidableEq

structure StfInputWire where
  roomId : U64
  blockNumber : U64
  prevStateRoot : B256
  state : List AccountWire
  rawTxs : List Bytes
  env : EnvWire
  blockHashes : List HistoricalBlockHash
deriving DecidableEq

/-- The state `to_input` hands over. -/
def StfInputWire.toState (wire : StfInputWire) : List (Address × AccountState) :=
  wire.state.map fun account =>
    (account.address, ⟨account.nonce, account.balance, account.code, account.storage⟩)

/-! ### The reader -/

section Reader

variable (library : TextLibrary)

def parseStorageEntry (entry : String × Json.Value) : Except String (B256 × B256) := do
  let slot ← parseB32 entry.1 "storage slot"
  let text ← orRefuse entry.2.asString? ("storage value for " ++ entry.1 ++ ": not a string")
  let value ← parseB32 text "storage value"
  pure (slot, value)

/-- The slots of an account that are not zero. -/
def parseStorage (key : String) (account : Json.Entries) : Except String (List (B256 × B256)) :=
  match Json.get? account "storage" with
  | none => .ok []
  | some storage => do
    let entries ← orRefuse storage.asObject? ("account " ++ key ++ ": storage not an object")
    let slots ← entries.mapM parseStorageEntry
    pure (sortByKey Prod.fst (slots.filter fun slot => slot.2 ≠ 0))

def parseCode (key : String) (account : Json.Entries) : Except String Bytes :=
  match Json.get? account "code" with
  | some (.string text) => parseHexBytes text "code"
  | some .null => .ok []
  | none => .ok []
  | some _ => .error ("account " ++ key ++ ": code not a string")

def parseAccount (entry : String × Json.Value) : Except String AccountWire := do
  let account ← orRefuse entry.2.asObject? ("account " ++ entry.1 ++ ": not an object")
  let address ← parseHexBytes entry.1 "account address"
  refuse (address.length ≠ 20) ("account address " ++ entry.1 ++ ": not 20 bytes")
  let nonce ← getU64 account "nonce" "nonce"
  let balance ← parseU256Flex library (← getEntry account "balance") "balance"
  let code ← parseCode entry.1 account
  let storage ← parseStorage entry.1 account
  pure ⟨BitVec.ofNat 160 (ofBigEndian address), nonce, balance, code, storage⟩

/-- The accounts of a state dump. -/
def parseState (dumpJson : String) : Except String (List AccountWire) := do
  let dump ← (library.fromStr dumpJson).mapError ("stateDumpJson: " ++ ·)
  let entries ← orRefuse dump.asObject? "stateDumpJson: not an object"
  let accounts ← entries.mapM (parseAccount library)
  pure (sortByKey AccountWire.address accounts)

def parseRawTx (entry : Json.Value × Nat) : Except String Bytes := do
  let text ← orRefuse entry.1.asString? ("rawTxs[" ++ entry.2.repr ++ "]: not a string")
  parseHexBytes text "rawTx"

def parseRawTxs (witness : Json.Entries) : Except String (List Bytes) := do
  let transactions ← orRefuse (← getEntry witness "rawTxs").asArray? "rawTxs: not an array"
  transactions.zipIdx.mapM parseRawTx

def parseEnv (witness : Json.Entries) : Except String EnvWire := do
  let env ← orRefuse (← getEntry witness "env").asObject? "env: not an object"
  let timestamp ← getU64 env "timestamp" "env.timestamp"
  let gasLimit ← getU64 env "gasLimit" "env.gasLimit"
  pure ⟨timestamp, gasLimit⟩

def parseBlockHash (entry : Json.Value × Nat) : Except String HistoricalBlockHash := do
  let label := "blockHashes[" ++ entry.2.repr ++ "]"
  let fields ← orRefuse entry.1.asObject? (label ++ ": not an object")
  let number ← getU64 fields "number" (label ++ ".number")
  let hash ← getB32 fields "hash" (label ++ ".hash")
  pure ⟨number, hash⟩

def parseBlockHashes (witness : Json.Entries) : Except String (List HistoricalBlockHash) :=
  match Json.get? witness "blockHashes" with
  | none => .ok []
  | some entries => do
    let entries ← orRefuse entries.asArray? "blockHashes: not an array"
    entries.zipIdx.mapM parseBlockHash

/-- The witness after its text was read. -/
def parseWitness (witness : Json.Entries) : Except String StfInputWire := do
  let roomId ← getU64 witness "roomId" "roomId"
  let blockNumber ← getU64 witness "blockNumber" "blockNumber"
  let prevStateRoot ← getB32 witness "prevStateRoot" "prevStateRoot"
  let dumpJson ← getText witness "stateDumpJson" "stateDumpJson"
  let state ← parseState library dumpJson
  let rawTxs ← parseRawTxs witness
  let env ← parseEnv witness
  let blockHashes ← parseBlockHashes witness
  pure ⟨roomId, blockNumber, prevStateRoot, state, rawTxs, env, blockHashes⟩

def parseWitnessJson (witnessJson : String) : Except String StfInputWire := do
  let root ← (library.fromStr witnessJson).mapError ("witness JSON: " ++ ·)
  let witness ← orRefuse root.asObject? "witness: not an object"
  parseWitness library witness

end Reader

/-! ### The writer -/

/-- The bytes of a value from the first that is not zero. -/
def minimalBytes (value : U256) : Bytes :=
  let bytes := wordBytes 32 value
  bytes.drop ((bytes.findIdx? (· ≠ 0)).getD 31)

def storageFields (account : AccountRecord) : Json.Entries :=
  account.liveStorage.map fun entry =>
    (hex0x (wordBytes 32 entry.1), .string (hex0x (minimalBytes entry.2)))

def accountFields (account : AccountRecord) : Json.Entries :=
  [("nonce", decimal account.nonce), ("balance", decimal account.balance)] ++
    (if account.code.isEmpty then [] else [("code", .string (hex0x account.code))]) ++
    [("storage", .object (Json.ofFields (storageFields account)))]

def dumpFields (post : StateMap) : Json.Entries :=
  post.accounts.toList.map fun entry =>
    (hex0x (wordBytes 20 entry.1), .object (Json.ofFields (accountFields entry.2)))

/-- The value that is written. -/
def postStateDump (post : StateMap) : Json.Value := .object (Json.ofFields (dumpFields post))

def postStateToDumpJson (library : TextLibrary) (post : StateMap) : String :=
  library.toText (postStateDump post)

end Zkdeal

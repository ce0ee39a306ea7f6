/-
This file proves two facts about the states that travel as JSON: that the writer and
the reader are inverse, so that the chain of witnesses runs on what the blocks left
behind, and when the reader's output is canonical.

The writer writes every account and every slot that is not zero under the one spelling
it uses, in the order of the spellings; the reader decodes them in that order and sorts
what it decoded. An address has one place in that order whatever it was called, so what
comes out is the list of the entries of the map.

The other way round the reader accepts many spellings of one address or slot, and two
of them are two keys of the JSON object. It sorts them next to each other and keeps
both.
-/

import Zkdeal.Library.Maps
import Zkdeal.WitnessJson

namespace Zkdeal

open Words Texts Guard KeySort

/-! ### Reading what was written -/

section Written

theorem ascending_toList {Value : Type} {width : Nat} [Std.TransOrd (BitVec width)]
    (entries : Std.ExtTreeMap (BitVec width) Value compare) :
    Ascending Prod.fst entries.toList :=
  Std.ExtTreeMap.ordered_keys_toList.imp lt_of_compare_eq_lt

/-- The zero bytes in front of a value are what its shortest spelling leaves out. -/
theorem wordBytes_eq_minimalBytes (value : U256) :
    ∃ count, wordBytes 32 value = List.replicate count 0 ++ minimalBytes value := by
  obtain ⟨count, chosen⟩ : ∃ count, ((wordBytes 32 value).findIdx? (· ≠ 0)).getD 31 = count :=
    ⟨_, rfl⟩
  have zeros : count ≤ 32 ∧ ∀ byte ∈ (wordBytes 32 value).take count, byte = 0 := by
    cases found : (wordBytes 32 value).findIdx? (· ≠ 0) with
    | none =>
      rw [found, Option.getD_none] at chosen
      refine ⟨chosen ▸ by decide, fun byte member => ?_⟩
      have zero := List.findIdx?_eq_none_iff.mp found byte (List.mem_of_mem_take member)
      simpa using zero
    | some first =>
      rw [found, Option.getD_some] at chosen
      obtain ⟨inside, _, before⟩ := List.findIdx?_eq_some_iff_getElem.mp (chosen ▸ found)
      rw [length_wordBytes] at inside
      refine ⟨inside.le, fun byte member => ?_⟩
      obtain ⟨index, short, rfl⟩ := List.mem_iff_getElem.mp member
      rw [List.length_take] at short
      rw [List.getElem_take]
      simpa using before index (by omega)
  have front : (wordBytes 32 value).take count = List.replicate count 0 := by
    refine List.eq_replicate_iff.mpr ⟨?_, zeros.2⟩
    rw [List.length_take, length_wordBytes]
    exact Nat.min_eq_left zeros.1
  refine ⟨count, ?_⟩
  rw [← front, minimalBytes, chosen, List.take_append_drop]

theorem parseB32_minimalBytes (value : U256) (label : String) :
    parseB32 (hex0x (minimalBytes value)) label = .ok value := by
  obtain ⟨count, whole⟩ := wordBytes_eq_minimalBytes value
  have sizes := congrArg List.length whole
  rw [length_wordBytes, List.length_append] at sizes
  have number : ofBigEndian (minimalBytes value) = ofBigEndian (wordBytes 32 value) := by
    rw [whole, ofBigEndian_zeros_append]
  rw [parseB32_hex0x (by omega), number, ofNat_ofBigEndian_wordBytes (by decide)]

theorem parseStorageEntry_written (entry : U256 × U256) :
    parseStorageEntry (hex0x (wordBytes 32 entry.1), .string (hex0x (minimalBytes entry.2))) =
      .ok entry := by
  rw [parseStorageEntry, parseB32_hexWord]
  show (parseB32 (hex0x (minimalBytes entry.2)) "storage value" >>= fun value =>
    pure (entry.1, value)) = _
  rw [parseB32_minimalBytes]
  rfl

end Written

/-! ### One account -/

section Account

theorem ascending_liveStorage (account : AccountRecord) :
    Ascending Prod.fst account.liveStorage := (ascending_toList account.storage).filter _

theorem nodup_storageFields (account : AccountRecord) :
    ((storageFields account).map Prod.fst).Nodup := by
  rw [storageFields, List.map_map]
  refine List.pairwise_map.mpr ((List.pairwise_map.mp (ascending_liveStorage account).nodup).imp ?_)
  exact fun different same =>
    different (wordBytes_injective (by decide) (hex0x_injective same))

theorem nodup_accountFields (account : AccountRecord) :
    ((accountFields account).map Prod.fst).Nodup := by
  unfold accountFields
  split
  · show ["nonce", "balance", "storage"].Nodup
    decide
  · show ["nonce", "balance", "code", "storage"].Nodup
    decide

/-- What is on the wire for an entry of the map. -/
def wireOf (entry : Address × AccountRecord) : AccountWire :=
  ⟨entry.1, entry.2.nonce, entry.2.balance, entry.2.code, entry.2.liveStorage⟩

theorem parseStorage_written (key : String) (account : AccountRecord) :
    parseStorage key (Json.ofFields (accountFields account)) = .ok account.liveStorage := by
  have found : Json.get? (Json.ofFields (accountFields account)) "storage" =
      some (.object (Json.ofFields (storageFields account))) := by
    rw [Json.get?_ofFields (nodup_accountFields account), accountFields]
    split
    · rfl
    · rfl
  obtain ⟨slots, read, perm⟩ : ∃ slots,
      (Json.ofFields (storageFields account)).mapM parseStorageEntry = .ok slots ∧
        slots.Perm (account.liveStorage.map fun entry => entry) :=
    mapM_of_perm (Json.ofFields_perm (nodup_storageFields account))
      fun entry _ => parseStorageEntry_written entry
  rw [List.map_id'] at perm
  have kept : slots.filter (fun slot => slot.2 ≠ 0) = slots := by
    refine List.filter_eq_self.mpr fun slot member => ?_
    have live := (List.mem_filter.mp (perm.subset member)).2
    simpa using live
  rw [parseStorage, found]
  show ((Json.ofFields (storageFields account)).mapM parseStorageEntry >>= fun slots =>
    pure (sortByKey Prod.fst (slots.filter fun slot => slot.2 ≠ 0))) = _
  rw [read]
  show Except.ok (sortByKey Prod.fst (slots.filter fun slot => slot.2 ≠ 0)) = _
  rw [kept, sortByKey_of_perm (ascending_liveStorage account) perm]

theorem parseCode_written (key : String) (account : AccountRecord) :
    parseCode key (Json.ofFields (accountFields account)) = .ok account.code := by
  rw [parseCode, Json.get?_ofFields (nodup_accountFields account), accountFields]
  by_cases empty : account.code.isEmpty = true
  · rw [if_pos empty, List.isEmpty_iff.mp empty]
    rfl
  · rw [if_neg empty]
    exact parseHexBytes_hex0x account.code "code"

theorem getU64_nonce (account : AccountRecord) :
    getU64 (Json.ofFields (accountFields account)) "nonce" "nonce" = .ok account.nonce := by
  refine getU64_decimal ?_ "nonce"
  rw [Json.get?_ofFields (nodup_accountFields account)]
  rfl

theorem getEntry_balance (account : AccountRecord) :
    getEntry (Json.ofFields (accountFields account)) "balance" =
      .ok (decimal account.balance) := by
  rw [getEntry, Json.get?_ofFields (nodup_accountFields account)]
  rfl

theorem parseAccount_written {library : TextLibrary} (reads : library.ReadsDecimal)
    (entry : Address × AccountRecord) :
    parseAccount library (hex0x (wordBytes 20 entry.1),
      .object (Json.ofFields (accountFields entry.2))) = .ok (wireOf entry) := by
  have sized : ¬ (wordBytes 20 entry.1).length ≠ 20 := not_not.mpr (length_wordBytes 20 entry.1)
  rw [parseAccount, bind_eq_ok]
  refine ⟨_, rfl, bind_eq_ok.mpr ⟨_, parseHexBytes_hex0x _ _, refuse_bind_eq_ok.mpr ⟨sized, ?_⟩⟩⟩
  refine bind_eq_ok.mpr ⟨_, getU64_nonce entry.2, bind_eq_ok.mpr
    ⟨_, getEntry_balance entry.2, bind_eq_ok.mpr ⟨_, parseU256Flex_decimal reads _ _, ?_⟩⟩⟩
  refine bind_eq_ok.mpr ⟨_, parseCode_written _ entry.2, bind_eq_ok.mpr
    ⟨_, parseStorage_written _ entry.2, ?_⟩⟩
  rw [ofNat_ofBigEndian_wordBytes (by decide)]
  rfl

end Account

/-! ### The whole state -/

section State

theorem nodup_dumpFields (state : StateMap) : ((dumpFields state).map Prod.fst).Nodup := by
  rw [dumpFields, List.map_map]
  refine List.pairwise_map.mpr
    ((List.pairwise_map.mp (ascending_toList state.accounts).nodup).imp ?_)
  exact fun different same =>
    different (wordBytes_injective (by decide) (hex0x_injective same))

/-- The reader returns the entries of the map, in order. -/
theorem parseState_written {library : TextLibrary} (reads : library.ReadsDecimal)
    {state : StateMap}
    (inverse : library.fromStr (library.toText (postStateDump state)) =
      .ok (postStateDump state)) :
    parseState library (postStateToDumpJson library state) =
      .ok (state.accounts.toList.map wireOf) := by
  obtain ⟨accounts, read, perm⟩ : ∃ accounts,
      (Json.ofFields (dumpFields state)).mapM (parseAccount library) = .ok accounts ∧
        accounts.Perm (state.accounts.toList.map wireOf) :=
    mapM_of_perm (Json.ofFields_perm (nodup_dumpFields state))
      fun entry _ => parseAccount_written reads entry
  have ascending : Ascending AccountWire.address (state.accounts.toList.map wireOf) :=
    List.pairwise_map.mpr (ascending_toList state.accounts)
  rw [parseState, postStateToDumpJson, inverse]
  show ((Json.ofFields (dumpFields state)).mapM (parseAccount library) >>= fun accounts =>
    pure (sortByKey AccountWire.address accounts)) = _
  rw [read]
  show Except.ok (sortByKey AccountWire.address accounts) = _
  rw [sortByKey_of_perm ascending perm]

/-- No slot holds a zero. -/
def AccountRecord.Live (account : AccountRecord) : Prop :=
  ∀ slot : U256, account.storage[slot]? ≠ some 0

/-- No account has a slot that holds a zero. -/
def StateMap.Live (state : StateMap) : Prop :=
  ∀ (address : Address) (account : AccountRecord), state.accounts[address]? = some account →
    account.Live

/-- An account without stored zeros is what its wire form says. -/
theorem record_wireOf {account : AccountRecord} (live : account.Live) :
    AccountState.record ⟨account.nonce, account.balance, account.code, account.liveStorage⟩ =
      account := by
  have kept : account.liveStorage = account.storage.toList := by
    refine List.filter_eq_self.mpr fun entry member => ?_
    have found := Std.ExtTreeMap.mem_toList_iff_getElem?_eq_some.mp member
    exact bne_iff_ne.mpr fun zero => live entry.1 (zero ▸ found)
  have storage : Std.ExtTreeMap.ofList (account.liveStorage.filter fun entry => entry.2 != 0)
      compare = account.storage := by
    have again : account.liveStorage.filter (fun entry => entry.2 != 0) =
        account.storage.toList := by
      rw [← kept, AccountRecord.liveStorage, List.filter_filter]
      simp only [Bool.and_self]
    rw [again]
    exact Maps.ofList_eq_of_mem_iff Maps.nodup_map_fst_toList fun _ => Iff.rfl
  rw [AccountState.record, storage]

/-- Rebuilding the state from its entries. -/
theorem fromInput_wireOf {state : StateMap} {wire : StfInputWire}
    (entries : wire.state = state.accounts.toList.map wireOf)
    (live : state.Live) :
    (StateMap.fromInput wire.toState).accounts = state.accounts := by
  have rebuilt : (wire.toState.map fun item => (item.1, item.2.record)) =
      state.accounts.toList := by
    rw [StfInputWire.toState, entries, List.map_map, List.map_map]
    refine (List.map_congr_left fun entry member => ?_).trans (List.map_id _)
    have found := Std.ExtTreeMap.mem_toList_iff_getElem?_eq_some.mp member
    exact Prod.ext rfl (record_wireOf (live entry.1 entry.2 found))
  rw [StateMap.fromInput, rebuilt]
  exact Maps.ofList_eq_of_mem_iff Maps.nodup_map_fst_toList fun _ => Iff.rfl

theorem getEntry_insert {witness : Json.Entries} {key other : String} {value : Json.Value}
    (different : other ≠ key) :
    getEntry (Json.insert key value witness) other = getEntry witness other := by
  rw [getEntry, getEntry, Json.get?_insert, if_neg different]

/-- What the reader of a witness takes from its entries. -/
structure WitnessRead (library : TextLibrary) (witness : Json.Entries) (dumpJson : String)
    (input : StfInputWire) : Prop where
  roomId : getU64 witness "roomId" "roomId" = .ok input.roomId
  blockNumber : getU64 witness "blockNumber" "blockNumber" = .ok input.blockNumber
  prevStateRoot : getB32 witness "prevStateRoot" "prevStateRoot" = .ok input.prevStateRoot
  placed : getText witness "stateDumpJson" "stateDumpJson" = .ok dumpJson
  state : parseState library dumpJson = .ok input.state
  rawTxs : parseRawTxs witness = .ok input.rawTxs
  env : parseEnv witness = .ok input.env
  blockHashes : parseBlockHashes witness = .ok input.blockHashes

theorem parseWitness_eq_ok {library : TextLibrary} {witness : Json.Entries}
    {input : StfInputWire} :
    parseWitness library witness = .ok input ↔
      ∃ dumpJson, WitnessRead library witness dumpJson input := by
  constructor
  · intro valid
    obtain ⟨roomId, room, valid⟩ := bind_eq_ok.mp valid
    obtain ⟨blockNumber, number, valid⟩ := bind_eq_ok.mp valid
    obtain ⟨prevStateRoot, root, valid⟩ := bind_eq_ok.mp valid
    obtain ⟨dumpJson, placed, valid⟩ := bind_eq_ok.mp valid
    obtain ⟨state, parsed, valid⟩ := bind_eq_ok.mp valid
    obtain ⟨rawTxs, transactions, valid⟩ := bind_eq_ok.mp valid
    obtain ⟨env, environment, valid⟩ := bind_eq_ok.mp valid
    obtain ⟨blockHashes, hashes, valid⟩ := bind_eq_ok.mp valid
    obtain rfl := pure_eq_ok.mp valid
    exact ⟨dumpJson, room, number, root, placed, parsed, transactions, environment, hashes⟩
  · rintro ⟨dumpJson, read⟩
    refine bind_eq_ok.mpr ⟨_, read.roomId, bind_eq_ok.mpr ⟨_, read.blockNumber, ?_⟩⟩
    refine bind_eq_ok.mpr ⟨_, read.prevStateRoot, bind_eq_ok.mpr ⟨_, read.placed, ?_⟩⟩
    refine bind_eq_ok.mpr ⟨_, read.state, bind_eq_ok.mpr ⟨_, read.rawTxs, ?_⟩⟩
    exact bind_eq_ok.mpr ⟨_, read.env, bind_eq_ok.mpr ⟨_, read.blockHashes, rfl⟩⟩

/-- A witness with another state. -/
theorem parseWitness_insert {library : TextLibrary} {witness : Json.Entries}
    {input : StfInputWire} {dumpJson : String} {state : List AccountWire}
    (valid : parseWitness library witness = .ok input)
    (parsed : parseState library dumpJson = .ok state) :
    parseWitness library (Json.insert "stateDumpJson" (.string dumpJson) witness) =
      .ok { input with state } := by
  obtain ⟨_, read⟩ := parseWitness_eq_ok.mp valid
  refine parseWitness_eq_ok.mpr ⟨dumpJson, ?_⟩
  exact {
    roomId := by
      rw [getU64, getEntry_insert (by decide), ← getU64, read.roomId]
    blockNumber := by
      rw [getU64, getEntry_insert (by decide), ← getU64, read.blockNumber]
    prevStateRoot := by
      rw [getB32, getText, getEntry_insert (by decide), ← getText, ← getB32, read.prevStateRoot]
    placed := by
      rw [getText, getEntry, Json.get?_insert, if_pos rfl]
      rfl
    state := parsed
    rawTxs := by
      rw [parseRawTxs, getEntry_insert (by decide), ← parseRawTxs, read.rawTxs]
    env := by
      rw [parseEnv, getEntry_insert (by decide), ← parseEnv, read.env]
    blockHashes := by
      rw [parseBlockHashes, Json.get?_insert, if_neg (by decide), ← parseBlockHashes,
        read.blockHashes] }

/-- The dump of a state without stored zeros, in place of the state of a valid witness, is
read back as that state, and nothing else of the witness changes. -/
theorem state_dump_round_trip (library : TextLibrary) (reads : library.ReadsDecimal)
    (state : StateMap) (live : state.Live)
    (inverse : library.fromStr (library.toText (postStateDump state)) =
      .ok (postStateDump state))
    (witness : Json.Entries) (input : StfInputWire)
    (valid : parseWitness library witness = .ok input) (text : String)
    (placed : library.fromStr text = .ok (.object (Json.insert "stateDumpJson"
      (.string (postStateToDumpJson library state)) witness))) :
    ∃ result, parseWitnessJson library text = .ok result ∧
      (StateMap.fromInput result.toState).accounts = state.accounts ∧
      result = { input with state := result.state } := by
  have parsed := parseWitness_insert valid (parseState_written reads inverse)
  refine ⟨{ input with state := state.accounts.toList.map wireOf }, ?_,
    fromInput_wireOf rfl live, rfl⟩
  rw [parseWitnessJson, placed]
  exact parsed

end State

/-- A witness of an empty room. -/
def sampleWitness : Json.Entries :=
  Json.ofFields [("roomId", .number (some 101)), ("blockNumber", .number (some 3)),
    ("prevStateRoot", .string "0x11"), ("stateDumpJson", .string "\x7b\x7d"),
    ("rawTxs", .array [.string "0xdead"]),
    ("env", .object (Json.ofFields [("timestamp", .number (some 1234)),
      ("gasLimit", .number (some 30000000))]))]

theorem sampleWitness_valid : ∃ input, parseWitness sampleTexts sampleWitness = .ok input :=
  exists_eq_ok_of_isSome (by decide +kernel)

/-- The text of the witness with a dump in it. -/
def sampleText (dump : Json.Value) : String :=
  sampleTexts.toText (.object
    (Json.insert "stateDumpJson" (.string (sampleTexts.toText dump)) sampleWitness))

/-- A state with a contract and an account without code. -/
def sampleDumped : StateMap where
  accounts := Std.ExtTreeMap.ofList
    [(0xaa, ⟨1, 1000, [0x60, 0x00], Std.ExtTreeMap.ofList [(1, 2), (0x0203, 0x0100)] compare⟩),
      (0xab, ⟨0, 5, [], ∅⟩)] compare
  blockHashes := ∅
  accessAccounts := none
  accessStorage := none
  accessViolation := none
  preparedCode := ∅
  preparedCodeAddresses := ∅
  accessMetrics := default

theorem sampleDumped_live : sampleDumped.Live := by
  have accounts : (sampleDumped.accounts.toList.all fun entry =>
      entry.2.storage.toList.all fun slot => slot.2 != 0) = true := by decide +kernel
  intro address account found slot zero
  have listed := Std.ExtTreeMap.mem_toList_iff_getElem?_eq_some.mpr found
  have stored := Std.ExtTreeMap.mem_toList_iff_getElem?_eq_some.mpr zero
  have slots := List.all_eq_true.mp accounts _ listed
  exact absurd rfl (bne_iff_ne.mp (List.all_eq_true.mp slots _ stored))

/-- The same state comes out of the next witness. -/
theorem state_dump_round_trip_sample :
    ∃ result, parseWitnessJson sampleTexts (sampleText (postStateDump sampleDumped)) =
        .ok result ∧
      (StateMap.fromInput result.toState).accounts = sampleDumped.accounts := by
  obtain ⟨input, valid⟩ := sampleWitness_valid
  obtain ⟨result, parsed, accounts, _⟩ := state_dump_round_trip sampleTexts
    sampleTexts_readsDecimal sampleDumped sampleDumped_live (sampleTexts_reads _) sampleWitness
    input valid (sampleText (postStateDump sampleDumped)) (sampleTexts_reads _)
  exact ⟨result, parsed, accounts⟩

/-! ### What a dump says -/

/-- The dump of a witness, after both texts were read. -/
def witnessDump? (library : TextLibrary) (witnessJson : String) : Option Json.Entries := do
  let root ← (library.fromStr witnessJson).toOption
  let witness ← root.asObject?
  let value ← Json.get? witness "stateDumpJson"
  let dumpJson ← value.asString?
  let dump ← (library.fromStr dumpJson).toOption
  dump.asObject?

/-- The address an entry of a dump is spelled for. -/
def addressOf? (entry : String × Json.Value) : Option Bytes :=
  (parseHexBytes entry.1 "account address").toOption

/-- The entries of the storage of an account. -/
def storageOf (account : Json.Value) : Json.Entries :=
  ((account.asObject?.bind fun fields => Json.get? fields "storage").bind
    Json.Value.asObject?).getD []

/-- The slot an entry of a storage is spelled for. -/
def slotOf? (entry : String × Json.Value) : Option B256 :=
  (parseB32 entry.1 "storage slot").toOption

def valueOf? (entry : String × Json.Value) : Option B256 :=
  entry.2.asString?.bind fun text => (parseB32 text "storage value").toOption

/-- No address is spelled twice, and in no account a slot that is not zero. -/
def KeysApart (dump : Json.Entries) : Prop :=
  (dump.map addressOf?).Nodup ∧ ∀ entry ∈ dump,
    (((storageOf entry.2).filter fun slot => valueOf? slot ≠ some 0).map slotOf?).Nodup

/-- Addresses and slots in strictly ascending order, and no zero. -/
def CanonicalAccounts (state : List AccountWire) : Prop :=
  Ascending AccountWire.address state ∧ ∀ account ∈ state,
    Ascending Prod.fst account.storage ∧ ∀ slot ∈ account.storage, slot.2 ≠ 0

/-- An account as a value, whatever its slots are called and in which order they come. -/
structure LogicalAccount where
  nonce : U64
  balance : U256
  code : Bytes
  storage : Set (B256 × B256)

/-- An account is described by an entry of the dump. -/
def Describes (library : TextLibrary) (dump : Json.Entries) (address : Address)
    (account : LogicalAccount) : Prop :=
  ∃ entry ∈ dump, ∃ fields nonce balance, entry.2.asObject? = some fields ∧
    addressOf? entry = some (wordBytes 20 address) ∧
    Json.get? fields "nonce" = some nonce ∧
    parseU64Flex nonce "nonce" = .ok account.nonce ∧
    Json.get? fields "balance" = some balance ∧
    parseU256Flex library balance "balance" = .ok account.balance ∧
    parseCode entry.1 fields = .ok account.code ∧
    account.storage = { slot | ∃ item ∈ storageOf entry.2,
      slotOf? item = some slot.1 ∧ valueOf? item = some slot.2 ∧ slot.2 ≠ 0 }

section Canonical

variable {library : TextLibrary}

theorem parseStorageEntry_eq_ok {entry : String × Json.Value} {slot : B256 × B256} :
    parseStorageEntry entry = .ok slot ↔
      slotOf? entry = some slot.1 ∧ valueOf? entry = some slot.2 := by
  rw [slotOf?, valueOf?, toOption_eq_some, Option.bind_eq_some_iff]
  constructor
  · intro parsed
    obtain ⟨key, slotRead, parsed⟩ := bind_eq_ok.mp parsed
    obtain ⟨text, textRead, parsed⟩ := bind_eq_ok.mp parsed
    obtain ⟨value, valueRead, parsed⟩ := bind_eq_ok.mp parsed
    obtain rfl := pure_eq_ok.mp parsed
    exact ⟨slotRead, text, orRefuse_eq_ok.mp textRead, toOption_eq_some.mpr valueRead⟩
  · rintro ⟨slotRead, text, textRead, valueRead⟩
    exact bind_eq_ok.mpr ⟨_, slotRead, bind_eq_ok.mpr ⟨_, orRefuse_eq_ok.mpr textRead,
      bind_eq_ok.mpr ⟨_, toOption_eq_some.mp valueRead, rfl⟩⟩⟩

/-- The slots that are kept are those whose entries hold a value. -/
theorem map_slotOf?_filter {entries : Json.Entries} {slots : List (B256 × B256)}
    (parsed : List.Forall₂ (fun entry slot => parseStorageEntry entry = .ok slot) entries slots) :
    (entries.filter fun entry => valueOf? entry ≠ some 0).map slotOf? =
      ((slots.filter fun slot => slot.2 ≠ 0).map Prod.fst).map some := by
  induction parsed with
  | nil => rfl
  | @cons entry slot rest others read _ inductionHypothesis =>
    obtain ⟨own, value⟩ := parseStorageEntry_eq_ok.mp read
    by_cases zero : slot.2 = 0
    · rw [List.filter_cons_of_neg (by simp [value, zero]), List.filter_cons_of_neg (by simp [zero]),
        inductionHypothesis]
    · have holds : valueOf? entry ≠ some 0 := by
        rw [value]
        exact fun same => zero (Option.some.inj same)
      have entryKept : decide (valueOf? entry ≠ some 0) = true := decide_eq_true holds
      have slotKept : decide (slot.2 ≠ 0) = true := decide_eq_true zero
      rw [List.filter_cons, List.filter_cons, entryKept, slotKept, if_pos rfl, if_pos rfl,
        List.map_cons, List.map_cons, List.map_cons, inductionHypothesis, own]

/-- What a success of the storage reader says. -/
theorem parseStorage_spec {key : String} {account : Json.Value} {fields : Json.Entries}
    {storage : List (B256 × B256)} (object : account.asObject? = some fields)
    (parsed : parseStorage key fields = .ok storage) :
    (Ascending Prod.fst storage ↔
        (((storageOf account).filter fun slot => valueOf? slot ≠ some 0).map slotOf?).Nodup) ∧
      ∀ slot, slot ∈ storage ↔ ∃ item ∈ storageOf account,
        slotOf? item = some slot.1 ∧ valueOf? item = some slot.2 ∧ slot.2 ≠ 0 := by
  rw [parseStorage] at parsed
  cases found : Json.get? fields "storage" with
  | none =>
    rw [found] at parsed
    obtain rfl := Except.ok.inj parsed
    have nothing : storageOf account = [] := by
      rw [storageOf, object, Option.bind_some, found]
      rfl
    rw [nothing]
    exact ⟨iff_of_true .nil .nil, fun slot => iff_of_false List.not_mem_nil
      fun ⟨_, member, _⟩ => nomatch member⟩
  | some value =>
    rw [found] at parsed
    obtain ⟨entries, entriesRead, parsed⟩ := bind_eq_ok.mp parsed
    obtain ⟨slots, slotsRead, parsed⟩ := bind_eq_ok.mp parsed
    obtain rfl := pure_eq_ok.mp parsed
    have listed : storageOf account = entries := by
      rw [storageOf, object, Option.bind_some, found, Option.bind_some,
        orRefuse_eq_ok.mp entriesRead, Option.getD_some]
    rw [listed, map_slotOf?_filter (mapM_eq_ok.mp slotsRead), ascending_sortByKey_iff,
      List.nodup_map_iff (Option.some_injective _)]
    refine ⟨Iff.rfl, fun slot => ?_⟩
    rw [(sortByKey_perm Prod.fst _).mem_iff, List.mem_filter]
    constructor
    · rintro ⟨member, nonzero⟩
      obtain ⟨item, inside, read⟩ := mem_of_mapM_eq_ok slotsRead member
      obtain ⟨own, holds⟩ := parseStorageEntry_eq_ok.mp read
      exact ⟨item, inside, own, holds, by simpa using nonzero⟩
    · rintro ⟨item, inside, own, holds, nonzero⟩
      obtain ⟨other, member, read⟩ := exists_mem_of_mapM_eq_ok slotsRead inside
      have same : other = slot := by
        have written := parseStorageEntry_eq_ok.mpr ⟨own, holds⟩
        rw [read] at written
        exact Except.ok.inj written
      exact ⟨same ▸ member, by simpa using nonzero⟩

/-- What a success of the account reader says. -/
structure AccountRead (library : TextLibrary) (entry : String × Json.Value) (wire : AccountWire)
    (fields : Json.Entries) (nonce balance : Json.Value) : Prop where
  object : entry.2.asObject? = some fields
  address : addressOf? entry = some (wordBytes 20 wire.address)
  nonceEntry : Json.get? fields "nonce" = some nonce
  nonceRead : parseU64Flex nonce "nonce" = .ok wire.nonce
  balanceEntry : Json.get? fields "balance" = some balance
  balanceRead : parseU256Flex library balance "balance" = .ok wire.balance
  code : parseCode entry.1 fields = .ok wire.code
  storage : parseStorage entry.1 fields = .ok wire.storage

theorem parseAccount_spec {entry : String × Json.Value} {wire : AccountWire}
    (parsed : parseAccount library entry = .ok wire) :
    ∃ fields nonce balance, AccountRead library entry wire fields nonce balance := by
  obtain ⟨fields, object, parsed⟩ := bind_eq_ok.mp parsed
  obtain ⟨bytes, read, parsed⟩ := bind_eq_ok.mp parsed
  obtain ⟨sized, parsed⟩ := refuse_bind_eq_ok.mp parsed
  obtain ⟨nonce, nonceFound, parsed⟩ := bind_eq_ok.mp parsed
  obtain ⟨nonceValue, nonceEntry, nonceRead⟩ := bind_eq_ok.mp nonceFound
  obtain ⟨balanceValue, balanceEntry, parsed⟩ := bind_eq_ok.mp parsed
  obtain ⟨balance, balanceRead, parsed⟩ := bind_eq_ok.mp parsed
  obtain ⟨code, codeRead, parsed⟩ := bind_eq_ok.mp parsed
  obtain ⟨storage, storageRead, parsed⟩ := bind_eq_ok.mp parsed
  obtain rfl := pure_eq_ok.mp parsed
  have bytesBack : wordBytes 20 (BitVec.ofNat 160 (ofBigEndian bytes)) = bytes := by
    have fits := ofBigEndian_lt bytes
    rw [not_not.mp sized] at fits
    have number : (BitVec.ofNat 160 (ofBigEndian bytes)).toNat = ofBigEndian bytes := by
      rw [BitVec.toNat_ofNat]
      exact Nat.mod_eq_of_lt fits
    rw [wordBytes, number, bigEndian_ofBigEndian (not_not.mp sized).le, not_not.mp sized,
      Nat.sub_self, List.replicate_zero, List.nil_append]
  exact ⟨fields, nonceValue, balanceValue, orRefuse_eq_ok.mp object,
    (toOption_eq_some.mpr read).trans (congrArg some bytesBack.symm),
    orRefuse_eq_ok.mp nonceEntry, nonceRead, orRefuse_eq_ok.mp balanceEntry, balanceRead,
    codeRead, storageRead⟩

/-- What a success of the witness reader says about the dump. -/
theorem parseWitnessJson_spec {text : String} {result : StfInputWire}
    (accepted : parseWitnessJson library text = .ok result) :
    ∃ dump accounts, witnessDump? library text = some dump ∧
      dump.mapM (parseAccount library) = .ok accounts ∧
      result.state = sortByKey AccountWire.address accounts := by
  obtain ⟨root, rootRead, accepted⟩ := bind_eq_ok.mp accepted
  obtain ⟨witness, object, accepted⟩ := bind_eq_ok.mp accepted
  obtain ⟨dumpJson, read⟩ := parseWitness_eq_ok.mp accepted
  have stateRead := read.state
  obtain ⟨value, valueEntry, placed⟩ := bind_eq_ok.mp read.placed
  obtain ⟨dump, dumpRead, stateRead⟩ := bind_eq_ok.mp stateRead
  obtain ⟨entries, entriesRead, stateRead⟩ := bind_eq_ok.mp stateRead
  obtain ⟨accounts, accountsRead, stateRead⟩ := bind_eq_ok.mp stateRead
  refine ⟨entries, accounts, ?_, accountsRead, (pure_eq_ok.mp stateRead).symm⟩
  simp only [witnessDump?, toOption_eq_some.mpr (mapError_eq_ok.mp rootRead),
    Option.bind_eq_bind, Option.bind_some, orRefuse_eq_ok.mp object, orRefuse_eq_ok.mp valueEntry,
    orRefuse_eq_ok.mp placed, toOption_eq_some.mpr (mapError_eq_ok.mp dumpRead),
    orRefuse_eq_ok.mp entriesRead]

/-- The account on the wire as a value. -/
def AccountWire.logical (wire : AccountWire) : LogicalAccount :=
  ⟨wire.nonce, wire.balance, wire.code, { slot | slot ∈ wire.storage }⟩

section Accounts

variable {dump : Json.Entries} {accounts : List AccountWire}
  (parsed : dump.mapM (parseAccount library) = .ok accounts)

include parsed

/-- Addresses are apart on the wire when they are in the dump. -/
theorem nodup_addresses :
    (accounts.map AccountWire.address).Nodup ↔ (dump.map addressOf?).Nodup := by
  have spelled : dump.map addressOf? =
      (accounts.map AccountWire.address).map fun address => some (wordBytes 20 address) := by
    have pairwise := mapM_eq_ok.mp parsed
    clear parsed
    induction pairwise with
    | nil => rfl
    | cons read _ inductionHypothesis =>
      obtain ⟨_, _, _, spec⟩ := parseAccount_spec read
      rw [List.map_cons, List.map_cons, List.map_cons, spec.address, inductionHypothesis]
  rw [spelled, List.nodup_map_iff fun first second same =>
    wordBytes_injective (by decide) (Option.some.inj same)]

theorem describes_of_mem {wire : AccountWire} (member : wire ∈ accounts) :
    Describes library dump wire.address wire.logical := by
  obtain ⟨entry, inside, read⟩ := mem_of_mapM_eq_ok parsed member
  obtain ⟨fields, nonce, balance, spec⟩ := parseAccount_spec read
  refine ⟨entry, inside, fields, nonce, balance, spec.object, spec.address, spec.nonceEntry,
    spec.nonceRead, spec.balanceEntry, spec.balanceRead, spec.code, ?_⟩
  exact Set.ext (parseStorage_spec spec.object spec.storage).2

theorem exists_of_describes {address : Address} {account : LogicalAccount}
    (describes : Describes library dump address account) :
    ∃ wire ∈ accounts, wire.address = address ∧ wire.logical = account := by
  obtain ⟨entry, inside, fields, nonce, balance, object, own, nonceEntry, nonceRead,
    balanceEntry, balanceRead, code, storage⟩ := describes
  obtain ⟨wire, member, read⟩ := exists_mem_of_mapM_eq_ok parsed inside
  obtain ⟨otherFields, otherNonce, otherBalance, spec⟩ := parseAccount_spec read
  obtain rfl : fields = otherFields := Option.some.inj (object.symm.trans spec.object)
  obtain rfl : nonce = otherNonce := Option.some.inj (nonceEntry.symm.trans spec.nonceEntry)
  obtain rfl : balance = otherBalance :=
    Option.some.inj (balanceEntry.symm.trans spec.balanceEntry)
  have sameAddress : wordBytes 20 wire.address = wordBytes 20 address :=
    Option.some.inj (spec.address.symm.trans own)
  refine ⟨wire, member, wordBytes_injective (by decide) sameAddress, ?_⟩
  have slots : { slot | slot ∈ wire.storage } = account.storage :=
    (Set.ext (parseStorage_spec spec.object spec.storage).2).trans storage.symm
  obtain ⟨accountNonce, accountBalance, accountCode, accountStorage⟩ := account
  obtain rfl : accountNonce = wire.nonce := Except.ok.inj (nonceRead.symm.trans spec.nonceRead)
  obtain rfl : accountBalance = wire.balance :=
    Except.ok.inj (balanceRead.symm.trans spec.balanceRead)
  obtain rfl : accountCode = wire.code := Except.ok.inj (code.symm.trans spec.code)
  exact congrArg (LogicalAccount.mk _ _ _) slots

/-- The sorted accounts are canonical when the keys of the dump are apart. -/
theorem canonicalAccounts_iff :
    CanonicalAccounts (sortByKey AccountWire.address accounts) ↔ KeysApart dump := by
  rw [CanonicalAccounts, KeysApart, ascending_sortByKey_iff, nodup_addresses parsed]
  refine and_congr_right fun _ => ⟨fun canonical entry inside => ?_, fun apart wire sorted => ?_⟩
  · obtain ⟨wire, member, read⟩ := exists_mem_of_mapM_eq_ok parsed inside
    obtain ⟨fields, nonce, balance, spec⟩ := parseAccount_spec read
    have ascending := (canonical wire ((sortByKey_perm _ accounts).mem_iff.mpr member)).1
    exact (parseStorage_spec spec.object spec.storage).1.mp ascending
  · obtain ⟨entry, inside, read⟩ :=
      mem_of_mapM_eq_ok parsed ((sortByKey_perm _ accounts).mem_iff.mp sorted)
    obtain ⟨fields, nonce, balance, spec⟩ := parseAccount_spec read
    obtain ⟨order, slots⟩ := parseStorage_spec spec.object spec.storage
    refine ⟨order.mpr (apart entry inside), fun slot member => ?_⟩
    obtain ⟨_, _, _, _, nonzero⟩ := (slots slot).mp member
    exact nonzero

end Accounts

/-- Accounts on the wire with the same address and value, both in canonical order. -/
theorem AccountWire.eq_of_logical_eq {first second : AccountWire}
    (address : first.address = second.address) (logical : first.logical = second.logical)
    (firstAscending : Ascending Prod.fst first.storage)
    (secondAscending : Ascending Prod.fst second.storage) : first = second := by
  obtain ⟨_, nonce, balance, code, storage⟩ := first
  obtain ⟨_, otherNonce, otherBalance, otherCode, otherStorage⟩ := second
  obtain rfl := address
  obtain ⟨rfl, rfl, rfl, slots⟩ := LogicalAccount.mk.inj logical
  exact congrArg (AccountWire.mk _ _ _ _)
    (firstAscending.eq_of_mem_iff secondAscending fun slot => Set.ext_iff.mp slots slot)

/-- The accounts of an accepted witness are canonical exactly when its dump spells no address
twice and in no account a slot that is not zero; and then they are determined by the accounts
the dump describes. -/
theorem witness_canonical_iff (library : TextLibrary) (text : String) (result : StfInputWire)
    (accepted : parseWitnessJson library text = .ok result) :
    ∃ dump, witnessDump? library text = some dump ∧
      (CanonicalAccounts result.state ↔ KeysApart dump) ∧
      ∀ other otherResult otherDump, parseWitnessJson library other = .ok otherResult →
        witnessDump? library other = some otherDump → KeysApart dump → KeysApart otherDump →
        (∀ address account, Describes library dump address account ↔
          Describes library otherDump address account) →
        result.state = otherResult.state := by
  obtain ⟨dump, accounts, found, parsed, sorted⟩ := parseWitnessJson_spec accepted
  refine ⟨dump, found, sorted ▸ canonicalAccounts_iff parsed, ?_⟩
  intro other otherResult otherDump otherAccepted otherFound apart otherApart same
  obtain ⟨listed, otherAccounts, otherListed, otherParsed, otherSorted⟩ :=
    parseWitnessJson_spec otherAccepted
  obtain rfl : otherDump = listed := Option.some.inj (otherFound.symm.trans otherListed)
  have canonical := (canonicalAccounts_iff parsed).mpr apart
  have otherCanonical := (canonicalAccounts_iff otherParsed).mpr otherApart
  rw [sorted, otherSorted]
  refine canonical.1.eq_of_mem_iff otherCanonical.1 fun wire => ⟨fun member => ?_, fun member => ?_⟩
  · have described := describes_of_mem parsed ((sortByKey_perm _ accounts).mem_iff.mp member)
    obtain ⟨twin, twinMember, address, logical⟩ :=
      exists_of_describes otherParsed ((same _ _).mp described)
    have twinSorted := (sortByKey_perm AccountWire.address otherAccounts).mem_iff.mpr twinMember
    rw [← AccountWire.eq_of_logical_eq address logical (otherCanonical.2 twin twinSorted).1
      (canonical.2 wire member).1]
    exact twinSorted
  · have described :=
      describes_of_mem otherParsed ((sortByKey_perm _ otherAccounts).mem_iff.mp member)
    obtain ⟨twin, twinMember, address, logical⟩ :=
      exists_of_describes parsed ((same _ _).mpr described)
    have twinSorted := (sortByKey_perm AccountWire.address accounts).mem_iff.mpr twinMember
    rw [← AccountWire.eq_of_logical_eq address logical (canonical.2 twin twinSorted).1
      (otherCanonical.2 wire member).1]
    exact twinSorted

end Canonical

theorem parseWitnessJson_sampleText {dump : Json.Value} {state : List AccountWire}
    (parsed : parseState sampleTexts (sampleTexts.toText dump) = .ok state) :
    ∃ result, parseWitnessJson sampleTexts (sampleText dump) = .ok result ∧
      result.state = state := by
  obtain ⟨input, valid⟩ := sampleWitness_valid
  refine ⟨{ input with state }, ?_, rfl⟩
  rw [parseWitnessJson, sampleText, sampleTexts_reads]
  exact parseWitness_insert valid parsed

theorem witnessDump?_sampleText (entries : Json.Entries) :
    witnessDump? sampleTexts (sampleText (.object entries)) = some entries := by
  rw [witnessDump?, sampleText, sampleTexts_reads]
  show (Json.get? (Json.insert "stateDumpJson" _ sampleWitness) "stateDumpJson").bind _ = _
  rw [Json.get?_insert, if_pos rfl]
  show (sampleTexts.fromStr (sampleTexts.toText _)).toOption.bind _ = _
  rw [sampleTexts_reads]
  rfl

/-- The accounts of a written dump come out in canonical order. -/
theorem witness_canonical_iff_sample :
    ∃ result, parseWitnessJson sampleTexts (sampleText (postStateDump sampleDumped)) =
        .ok result ∧ CanonicalAccounts result.state := by
  obtain ⟨result, accepted, -⟩ := parseWitnessJson_sampleText
    (parseState_written sampleTexts_readsDecimal (sampleTexts_reads (postStateDump sampleDumped)))
  obtain ⟨dump, found, canonical, _⟩ := witness_canonical_iff _ _ result accepted
  obtain rfl := Option.some.inj ((witnessDump?_sampleText _).symm.trans found)
  refine ⟨result, accepted, canonical.mpr ?_⟩
  unfold KeysApart
  decide +kernel

/-- A dump with one address in two spellings. -/
def respelledDump : Json.Value :=
  .object (Json.ofFields
    [("0x00000000000000000000000000000000000000aa",
        .object (Json.ofFields [("nonce", .number (some 1)), ("balance", .number (some 7))])),
      ("0x00000000000000000000000000000000000000AA",
        .object (Json.ofFields [("nonce", .number (some 2)), ("balance", .number (some 9))]))])

/-- Both spellings are on the wire. -/
theorem witness_canonical_respelled :
    ∃ result, parseWitnessJson sampleTexts (sampleText respelledDump) = .ok result ∧
      ¬ CanonicalAccounts result.state ∧
      result.state = [⟨0xaa, 2, 9, [], []⟩, ⟨0xaa, 1, 7, [], []⟩] := by
  have seen : parseState sampleTexts (sampleTexts.toText respelledDump) =
      .ok [⟨0xaa, 2, 9, [], []⟩, ⟨0xaa, 1, 7, [], []⟩] := by
    rw [parseState, sampleTexts_reads]
    decide +kernel
  obtain ⟨result, parsed, state⟩ := parseWitnessJson_sampleText seen
  refine ⟨result, parsed, fun canonical => ?_, state⟩
  have distinct := canonical.1.nodup
  rw [state] at distinct
  exact absurd distinct (by decide)

end Zkdeal

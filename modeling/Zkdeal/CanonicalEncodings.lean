/-
This file proves that the two hand-written byte strings the protocol commits to
leave nothing out and confuse nothing: the policy string behind the policy hash
and the public batch data.

Both are concatenations without a decoder. Every field is cancelled from the
front of the string, which needs each part to end by itself: words have a fixed
length, lists stand behind their length, the registry behind a tag. The exit
tail of the policy has no tag for its absence. It is the last part, so a string
that ends where the tail would begin is a policy without one.
-/

import Zkdeal.Library.Delimited
import Zkdeal.Room.Batch

namespace Zkdeal

open Words

/-! ### The parts of the policy string -/

/-- The list is no longer than a vector can be, so that its length fits the word in front. -/
def FitsLength {Item : Type} (items : List Item) : Prop := items.length < 2 ^ 64

theorem delimited_octet : Delimited (fun _ => True) fun octet : Byte => [octet] :=
  Delimited.of_length (fun _ => rfl) fun _ _ equal => List.head_eq_of_cons_eq equal

theorem delimited_flagByte : Delimited (fun _ => True) flagByte := by
  refine Delimited.of_length (fun _ => rfl) fun first second equal => ?_
  cases first <;> cases second <;> first | rfl | exact absurd equal (by decide)

theorem delimited_counted {Item : Type} {domain : Item → Prop} {encode : Item → Bytes}
    (delimited : Delimited domain encode) :
    Delimited (fun items => FitsLength items ∧ ∀ item ∈ items, domain item)
      fun items => counted items encode := by
  have numbers : Delimited (fun length => length < 2 ^ 64)
      fun length => wordBytes 8 (BitVec.ofNat 64 length) := by
    intro first second rest otherRest firstFits secondFits equal
    obtain ⟨lengths, rests⟩ := Delimited.wordBytes (by decide) trivial trivial equal
    have values := congrArg BitVec.toNat lengths
    rw [BitVec.toNat_ofNat, BitVec.toNat_ofNat, Nat.mod_eq_of_lt firstFits,
      Nat.mod_eq_of_lt secondFits] at values
    exact ⟨values, rests⟩
  exact numbers.counted delimited

/-- A list of words behind its length. -/
theorem delimited_countedWords {width count : Nat} (fits : 2 ^ width ≤ 256 ^ count) :
    Delimited FitsLength fun items : List (BitVec width) => counted items (wordBytes count) :=
  (delimited_counted (Delimited.wordBytes fits)).mono fun _ short => ⟨short, fun _ _ => trivial⟩

theorem delimited_codeCommitment : Delimited (fun _ => True) fun code : CodeCommitmentV5 =>
    wordBytes 20 code.address ++ wordBytes 32 code.runtimeCodeHash := by
  rintro ⟨_, _⟩ ⟨_, _⟩ rest otherRest - - equal
  simp only [List.append_assoc] at equal
  obtain ⟨address, equal⟩ := Delimited.wordBytes (by decide) trivial trivial equal
  obtain ⟨runtimeCodeHash, equal⟩ := Delimited.wordBytes (by decide) trivial trivial equal
  exact ⟨by rw [address, runtimeCodeHash], equal⟩

theorem delimited_encodeCallRule :
    Delimited (fun call => FitsLength call.selectors ∧ FitsLength call.kinds) encodeCallRule := by
  rintro ⟨_, _, _, _⟩ ⟨_, _, _, _⟩ rest otherRest firstFits secondFits equal
  simp only [encodeCallRule, List.append_assoc] at equal firstFits secondFits
  obtain ⟨caller, equal⟩ := Delimited.wordBytes (by decide) trivial trivial equal
  obtain ⟨target, equal⟩ := Delimited.wordBytes (by decide) trivial trivial equal
  obtain ⟨selectors, equal⟩ :=
    delimited_countedWords (by decide) firstFits.1 secondFits.1 equal
  obtain ⟨kinds, equal⟩ := delimited_counted delimited_octet
    ⟨firstFits.2, fun _ _ => trivial⟩ ⟨secondFits.2, fun _ _ => trivial⟩ equal
  exact ⟨by rw [caller, target, selectors, kinds], equal⟩

theorem delimited_encodeNamespace : Delimited (fun _ => True) encodeNamespace := by
  rintro ⟨_, _, _, _⟩ ⟨_, _, _, _⟩ rest otherRest - - equal
  simp only [encodeNamespace, List.append_assoc] at equal
  obtain ⟨contract, equal⟩ := Delimited.wordBytes (by decide) trivial trivial equal
  obtain ⟨slotPrefix, equal⟩ := Delimited.wordBytes (by decide) trivial trivial equal
  obtain ⟨prefixBits, equal⟩ := Delimited.wordBytes (by decide) trivial trivial equal
  obtain ⟨writable, equal⟩ := delimited_flagByte trivial trivial equal
  exact ⟨by rw [contract, slotPrefix, prefixBits, writable], equal⟩

theorem delimited_encodeImportBinding : Delimited (fun _ => True) encodeImportBinding := by
  rintro ⟨_, _, _, _, _, _⟩
    ⟨_, _, _, _, _, _⟩ rest otherRest - - equal
  simp only [encodeImportBinding, List.append_assoc] at equal
  obtain ⟨adapterId, equal⟩ := Delimited.wordBytes (by decide) trivial trivial equal
  obtain ⟨adapterVersion, equal⟩ := Delimited.wordBytes (by decide) trivial trivial equal
  obtain ⟨source, equal⟩ := Delimited.wordBytes (by decide) trivial trivial equal
  obtain ⟨sourceKey, equal⟩ := Delimited.wordBytes (by decide) trivial trivial equal
  obtain ⟨roomContract, equal⟩ := Delimited.wordBytes (by decide) trivial trivial equal
  obtain ⟨roomSlot, equal⟩ := Delimited.wordBytes (by decide) trivial trivial equal
  exact ⟨by rw [adapterId, adapterVersion, source, sourceKey, roomContract, roomSlot], equal⟩

/-- The registry stands behind its tag, so both its presence and its absence end by themselves. -/
theorem delimited_encodeParticipantRegistry :
    Delimited (fun _ => True) encodeParticipantRegistry := by
  rintro (_ | ⟨_, _, _, _, _⟩)
    (_ | ⟨_, _, _, _, _⟩) rest otherRest - - equal
  · exact ⟨rfl, (List.cons.inj equal).2⟩
  · exact absurd (List.cons.inj equal).1 (by decide)
  · exact absurd (List.cons.inj equal).1 (by decide)
  · simp only [encodeParticipantRegistry, List.append_assoc] at equal
    obtain ⟨-, equal⟩ := delimited_octet trivial trivial equal
    obtain ⟨contract, equal⟩ := Delimited.wordBytes (by decide) trivial trivial equal
    obtain ⟨rootSlot, equal⟩ := Delimited.wordBytes (by decide) trivial trivial equal
    obtain ⟨epochSlot, equal⟩ := Delimited.wordBytes (by decide) trivial trivial equal
    obtain ⟨countSlot, equal⟩ := Delimited.wordBytes (by decide) trivial trivial equal
    obtain ⟨capacitySlot, equal⟩ := Delimited.wordBytes (by decide) trivial trivial equal
    exact ⟨by rw [contract, rootSlot, epochSlot, countSlot, capacitySlot], equal⟩

theorem delimited_encodeExitAsset : Delimited (fun _ => True) encodeExitAsset := by
  rintro ⟨_, _, _, _⟩ ⟨_, _, _, _⟩ rest otherRest - - equal
  simp only [encodeExitAsset, List.append_assoc] at equal
  obtain ⟨asset, equal⟩ := Delimited.wordBytes (by decide) trivial trivial equal
  obtain ⟨kind, equal⟩ := delimited_octet trivial trivial equal
  obtain ⟨token, equal⟩ := Delimited.wordBytes (by decide) trivial trivial equal
  obtain ⟨balanceSlot, equal⟩ := Delimited.wordBytes (by decide) trivial trivial equal
  exact ⟨by rw [asset, kind, token, balanceSlot], equal⟩

/-- The exit tail is the end of the string: an absent one is the empty string, which no
present one is. -/
theorem encodeExitBinding_inj {first second : Option ExitBindingV5}
    (firstFits : ∀ exit ∈ first, FitsLength exit.assets)
    (secondFits : ∀ exit ∈ second, FitsLength exit.assets)
    (equal : encodeExitBinding first = encodeExitBinding second) : first = second := by
  match first, second with
  | none, none => rfl
  | none, some exit => exact absurd equal (List.cons_ne_nil _ _).symm
  | some exit, none => exact absurd equal (List.cons_ne_nil _ _)
  | some ⟨_, _, _, assets, _⟩,
      some ⟨_, _, _, otherAssets, _⟩ =>
    have assetsFit : FitsLength assets := firstFits _ rfl
    have otherAssetsFit : FitsLength otherAssets := secondFits _ rfl
    simp only [encodeExitBinding, List.append_assoc] at equal
    obtain ⟨-, equal⟩ := delimited_octet trivial trivial equal
    obtain ⟨queueContract, equal⟩ := Delimited.wordBytes (by decide) trivial trivial equal
    obtain ⟨countSlot, equal⟩ := Delimited.wordBytes (by decide) trivial trivial equal
    obtain ⟨recordsBaseSlot, equal⟩ := Delimited.wordBytes (by decide) trivial trivial equal
    obtain ⟨sameAssets, equal⟩ := delimited_counted delimited_encodeExitAsset
      ⟨assetsFit, fun _ _ => trivial⟩ ⟨otherAssetsFit, fun _ _ => trivial⟩ equal
    rw [queueContract, countSlot, recordsBaseSlot, sameAssets,
      wordBytes_injective (by decide) equal]

/-! ### The policy string -/

/-- Every list of the policy, nested ones included, has a length a vector can have. -/
structure ExecutionPolicyV5.FitsLengths (policy : ExecutionPolicyV5) : Prop where
  code : FitsLength policy.code
  calls : FitsLength policy.calls
  selectors : ∀ call ∈ policy.calls, FitsLength call.selectors
  kinds : ∀ call ∈ policy.calls, FitsLength call.kinds
  storage : FitsLength policy.storage
  imports : FitsLength policy.imports
  assets : ∀ exit ∈ policy.exit, FitsLength exit.assets

/-- The string that the policy hash digests determines the policy. -/
theorem executionPolicyHash_preimage_injective (first second : ExecutionPolicyV5)
    (firstFits : first.FitsLengths) (secondFits : second.FitsLengths)
    (equal : encodeExecutionPolicy first = encodeExecutionPolicy second) : first = second := by
  simp only [encodeExecutionPolicy, List.append_assoc] at equal
  have equal := List.append_cancel_left equal
  obtain ⟨stateCommitment, equal⟩ := delimited_octet trivial trivial equal
  obtain ⟨maxBlocks, equal⟩ := Delimited.wordBytes (by decide) trivial trivial equal
  obtain ⟨maxTransactions, equal⟩ := Delimited.wordBytes (by decide) trivial trivial equal
  obtain ⟨maxGas, equal⟩ := Delimited.wordBytes (by decide) trivial trivial equal
  obtain ⟨maxMemory, equal⟩ := Delimited.wordBytes (by decide) trivial trivial equal
  obtain ⟨creation, equal⟩ := delimited_flagByte trivial trivial equal
  obtain ⟨selfDestruct, equal⟩ := delimited_flagByte trivial trivial equal
  obtain ⟨code, equal⟩ := delimited_counted delimited_codeCommitment
    ⟨firstFits.code, fun _ _ => trivial⟩ ⟨secondFits.code, fun _ _ => trivial⟩ equal
  obtain ⟨calls, equal⟩ := delimited_counted delimited_encodeCallRule
    ⟨firstFits.calls, fun call member => ⟨firstFits.selectors call member,
      firstFits.kinds call member⟩⟩
    ⟨secondFits.calls, fun call member => ⟨secondFits.selectors call member,
      secondFits.kinds call member⟩⟩ equal
  obtain ⟨storage, equal⟩ := delimited_counted delimited_encodeNamespace
    ⟨firstFits.storage, fun _ _ => trivial⟩ ⟨secondFits.storage, fun _ _ => trivial⟩ equal
  obtain ⟨imports, equal⟩ := delimited_counted delimited_encodeImportBinding
    ⟨firstFits.imports, fun _ _ => trivial⟩ ⟨secondFits.imports, fun _ _ => trivial⟩ equal
  obtain ⟨registry, equal⟩ := delimited_encodeParticipantRegistry trivial trivial equal
  have exit := encodeExitBinding_inj firstFits.assets secondFits.assets equal
  cases first
  cases second
  simp_all only

theorem executionPolicyHash_preimage_injective_sample :
    samplePolicy.FitsLengths ∧ samplePolicy = samplePolicy := by
  have fits : samplePolicy.FitsLengths := by
    constructor <;> simp [FitsLength, samplePolicy, sampleQueueBinding]
  exact ⟨fits, executionPolicyHash_preimage_injective samplePolicy samplePolicy fits fits rfl⟩

/-! ### The parts of the batch data -/

/-- The item is written with a length that a list header can carry. -/
def Short {Item : Type} (encode : Item → Bytes) (item : Item) : Prop :=
  (encode item).length < Rlp.maxLength

theorem delimited_encodeBlockEnv : Delimited (Short encodeBlockEnv) encodeBlockEnv := by
  intro first second rest otherRest firstShort secondShort equal
  obtain ⟨equal, rests⟩ := Rlp.encodeList_append_inj firstShort secondShort equal
  simp only [List.flatten_cons, List.flatten_nil] at equal
  obtain ⟨number, equal⟩ := Rlp.delimited_encodeWord (by decide) trivial trivial equal
  obtain ⟨timestamp, equal⟩ := Rlp.delimited_encodeWord (by decide) trivial trivial equal
  obtain ⟨gasLimit, equal⟩ := Rlp.delimited_encodeWord (by decide) trivial trivial equal
  obtain ⟨coinbase, equal⟩ :=
    Rlp.delimited_encodeBytes_wordBytes (by decide) (by decide) trivial trivial equal
  obtain ⟨baseFee, equal⟩ := Rlp.delimited_encodeWord (by decide) trivial trivial equal
  obtain ⟨prevRandao, equal⟩ :=
    Rlp.delimited_encodeBytes_wordBytes (by decide) (by decide) trivial trivial equal
  obtain ⟨difficulty, equal⟩ := Rlp.delimited_encodeWord (by decide) trivial trivial equal
  obtain ⟨excessBlobGas, equal⟩ := Rlp.delimited_encodeWord (by decide) trivial trivial equal
  obtain ⟨chainId, equal⟩ := Rlp.delimited_encodeWord (by decide) trivial trivial equal
  refine ⟨?_, rests⟩
  cases first
  cases second
  simp_all only

/-- One pair of the block-hash history. -/
def encodeHistoricalBlockHash (item : HistoricalBlockHash) : Bytes :=
  Rlp.encodeList [Rlp.encodeWord item.number, Rlp.encodeBytes (wordBytes 32 item.hash)]

theorem delimited_encodeHistoricalBlockHash :
    Delimited (Short encodeHistoricalBlockHash) encodeHistoricalBlockHash := by
  intro first second rest otherRest firstShort secondShort equal
  obtain ⟨equal, rests⟩ := Rlp.encodeList_append_inj firstShort secondShort equal
  simp only [List.flatten_cons, List.flatten_nil] at equal
  obtain ⟨number, equal⟩ := Rlp.delimited_encodeWord (by decide) trivial trivial equal
  obtain ⟨hash, equal⟩ :=
    Rlp.delimited_encodeBytes_wordBytes (by decide) (by decide) trivial trivial equal
  refine ⟨?_, rests⟩
  cases first
  cases second
  simp_all only

/-- Everything inside a short list is short. -/
theorem short_of_mem {items : List Bytes} {item : Bytes} (member : item ∈ items)
    (short : (Rlp.encodeList items).length < Rlp.maxLength) : item.length < Rlp.maxLength :=
  lt_of_le_of_lt (Rlp.length_le_encodeList member) short

theorem delimited_encodeList {Item : Type} {encode : Item → Bytes}
    (delimited : Delimited (Short encode) encode) (visible : ∀ item, encode item ≠ []) :
    Delimited (Short fun items : List Item => Rlp.encodeList (items.map encode))
      fun items : List Item => Rlp.encodeList (items.map encode) :=
  (Rlp.delimited_encodeList_map delimited visible).mono fun _ short =>
    ⟨short, fun _ member => short_of_mem (List.mem_map_of_mem member) short⟩

theorem delimited_rawTx : Delimited (Short Rlp.encodeBytes) Rlp.encodeBytes :=
  Rlp.delimited_encodeBytes.mono fun payload short =>
    lt_of_le_of_lt (Rlp.length_le_encodeBytes payload) short

/-- One block behind the root it is built on. -/
theorem delimited_encodeBatchBlock :
    Delimited (Short fun entry : B256 × BatchBlockV5 => encodeBatchBlock entry.1 entry.2)
      fun entry => encodeBatchBlock entry.1 entry.2 := by
  intro first second rest otherRest firstShort secondShort equal
  obtain ⟨equal, rests⟩ := Rlp.encodeList_append_inj firstShort secondShort equal
  simp only [List.flatten_cons, List.flatten_nil] at equal
  obtain ⟨blockNumber, equal⟩ := Rlp.delimited_encodeWord (by decide) trivial trivial equal
  obtain ⟨env, equal⟩ := delimited_encodeBlockEnv (short_of_mem (by simp) firstShort)
    (short_of_mem (by simp) secondShort) equal
  obtain ⟨parent, equal⟩ :=
    Rlp.delimited_encodeBytes_wordBytes (by decide) (by decide) trivial trivial equal
  obtain ⟨expectedPostStateRoot, equal⟩ :=
    Rlp.delimited_encodeBytes_wordBytes (by decide) (by decide) trivial trivial equal
  obtain ⟨blockHashes, equal⟩ :=
    delimited_encodeList delimited_encodeHistoricalBlockHash (fun _ => Rlp.encodeList_ne_nil _)
      (short_of_mem (List.mem_of_getElem? (i := 4) rfl) firstShort)
      (short_of_mem (List.mem_of_getElem? (i := 4) rfl) secondShort) equal
  obtain ⟨rawTxs, equal⟩ := delimited_encodeList delimited_rawTx Rlp.encodeBytes_ne_nil
    (short_of_mem (by simp) firstShort) (short_of_mem (by simp) secondShort) equal
  refine ⟨?_, rests⟩
  obtain ⟨_, ⟨⟩⟩ := first
  obtain ⟨_, ⟨⟩⟩ := second
  simp_all only

/-! ### The batch data -/

/-- Every block with the root it is built on. -/
def withParents : B256 → List BatchBlockV5 → List (B256 × BatchBlockV5)
  | _, [] => []
  | parent, block :: rest => (parent, block) :: withParents block.expectedPostStateRoot rest

theorem encodeBatchBlocks_eq_map (parent : B256) (blocks : List BatchBlockV5) :
    encodeBatchBlocks parent blocks =
      (withParents parent blocks).map fun entry => encodeBatchBlock entry.1 entry.2 := by
  induction blocks generalizing parent with
  | nil => rfl
  | cons block rest inductionHypothesis =>
    rw [encodeBatchBlocks, withParents, List.map_cons, inductionHypothesis]

theorem map_snd_withParents (parent : B256) (blocks : List BatchBlockV5) :
    (withParents parent blocks).map Prod.snd = blocks := by
  induction blocks generalizing parent with
  | nil => rfl
  | cons block rest inductionHypothesis => rw [withParents, List.map_cons, inductionHypothesis]

theorem head?_withParents {parent : B256} {blocks : List BatchBlockV5} (nonempty : blocks ≠ []) :
    ((withParents parent blocks).head?.map Prod.fst) = some parent := by
  cases blocks with
  | nil => exact absurd rfl nonempty
  | cons block rest => rfl

/-- The public batch data determines the root the batch starts at and every field of every
block. -/
theorem canonicalBatchData_injective (blocks otherBlocks : List BatchBlockV5)
    (preStateRoot otherPreStateRoot : B256) (nonempty : blocks ≠ [])
    (otherNonempty : otherBlocks ≠ [])
    (short : (canonicalBatchDataV5 blocks preStateRoot).length < 2 ^ 64)
    (equal : canonicalBatchDataV5 blocks preStateRoot =
      canonicalBatchDataV5 otherBlocks otherPreStateRoot) :
    preStateRoot = otherPreStateRoot ∧ blocks = otherBlocks := by
  have otherShort : (canonicalBatchDataV5 otherBlocks otherPreStateRoot).length < Rlp.maxLength :=
    equal ▸ short
  obtain ⟨contents, -⟩ := Rlp.encodeList_append_inj short otherShort
    (congrArg (fun data => data ++ []) equal)
  simp only [List.flatten_cons, List.flatten_nil] at contents
  obtain ⟨-, contents⟩ := Rlp.delimited_encodeWord (by decide) trivial trivial contents
  have inner := short_of_mem (List.mem_of_getElem? (i := 1) rfl) short
  have otherInner := short_of_mem (List.mem_of_getElem? (i := 1) rfl) otherShort
  rw [encodeBatchBlocks_eq_map] at contents inner
  rw [encodeBatchBlocks_eq_map] at contents otherInner
  obtain ⟨entries, -⟩ := delimited_encodeList delimited_encodeBatchBlock
    (fun _ => Rlp.encodeList_ne_nil _) inner otherInner contents
  constructor
  · have parents := congrArg (fun list => list.head?.map Prod.fst) entries
    rw [head?_withParents nonempty, head?_withParents otherNonempty] at parents
    exact Option.some.inj parents
  · rw [← map_snd_withParents preStateRoot blocks, entries, map_snd_withParents]

theorem canonicalBatchData_injective_sample :
    (canonicalBatchDataV5 [sampleBlock 1 [[], [1, 2]], sampleBlock 2 []] 7).length < 2 ^ 64 ∧
      (7 : B256) = 7 ∧
        [sampleBlock 1 [[], [1, 2]], sampleBlock 2 []] =
          [sampleBlock 1 [[], [1, 2]], sampleBlock 2 []] := by
  have short :
      (canonicalBatchDataV5 [sampleBlock 1 [[], [1, 2]], sampleBlock 2 []] 7).length < 2 ^ 64 := by
    decide +kernel
  exact ⟨short, canonicalBatchData_injective _ _ 7 7 (List.cons_ne_nil _ _)
    (List.cons_ne_nil _ _) short rfl⟩

end Zkdeal

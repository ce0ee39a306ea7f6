/-
This file is about the calldata of a batch of a seven-member room. Of the environment
of a block the encoding writes the timestamp only. The rest is no choice of the batch:
the loop over the blocks compares it with the profile of the room, and the gas limit
with the cap that the parser reads off the preset document. An accepted batch
therefore has no other block list with its calldata.
-/

import Zkdeal.CanonicalEncodings
import Zkdeal.RetiredExits

namespace Zkdeal

open Words Guard

/-! ### The profile of a room -/

/-- The environment of a block of a room, up to its height and its time. -/
def profileEnv (gasLimit chainId number timestamp : U64) : BlockEnvV1 where
  number := number
  timestamp := timestamp
  gasLimit := gasLimit
  coinbase := 0
  baseFee := 0
  prevRandao := 0
  difficulty := 0
  excessBlobGas := 0
  chainId := chainId

/-- The block has the environment of the room. -/
def BatchBlockV4.InProfile (gasLimit chainId : U64) (block : BatchBlockV4) : Prop :=
  block.env = profileEnv gasLimit chainId block.blockNumber block.env.timestamp

/-- A preset document caps the gas of a block. -/
def CapsGas (json : JsonLibrary) (document : Bytes) (gas : U64) : Prop :=
  ∃ value preset, json.readCanonical document "preset" = .ok value ∧
    json.preset value = .ok preset ∧ json.u64 preset.resources.maxGasPerBlock = some gas

theorem CapsGas.unique {json : JsonLibrary} {document : Bytes} {first second : U64}
    (firstCaps : CapsGas json document first) (secondCaps : CapsGas json document second) :
    first = second := by
  obtain ⟨value, preset, read, parsed, gas⟩ := firstCaps
  obtain ⟨otherValue, otherPreset, otherRead, otherParsed, otherGas⟩ := secondCaps
  obtain rfl : value = otherValue := Except.ok.inj (read.symm.trans otherRead)
  obtain rfl : preset = otherPreset := Except.ok.inj (parsed.symm.trans otherParsed)
  exact Option.some.inj (gas.symm.trans otherGas)

section Accepted

variable {externals : Externals} {json : JsonLibrary} {input : BatchInputV4}

/-- The cap on gas is read off the preset document. -/
theorem fromInput_capsGas {primitives : Primitives} {state : StateMap} {policy : PresetPolicyV4}
    (parsed : PresetPolicyV4.fromInput primitives json input state = .ok policy) :
    CapsGas json input.canonicalPresetJson policy.maxGasPerBlock := by
  obtain ⟨value, read, parsed⟩ := bind_eq_ok.mp parsed
  obtain ⟨-, parsed⟩ := refuse_bind_eq_ok.mp parsed
  obtain ⟨preset, schema, parsed⟩ := bind_eq_ok.mp parsed
  obtain ⟨-, parsed⟩ := refuse_bind_eq_ok.mp parsed
  obtain ⟨certified, -, parsed⟩ := bind_eq_ok.mp parsed
  obtain ⟨exitProgramId, -, parsed⟩ := bind_eq_ok.mp parsed
  obtain ⟨-, -, parsed⟩ := bind_eq_ok.mp parsed
  obtain ⟨caps, resources, parsed⟩ := bind_eq_ok.mp parsed
  obtain ⟨activeMembers, -, parsed⟩ := bind_eq_ok.mp parsed
  obtain ⟨codeHashes, -, parsed⟩ := bind_eq_ok.mp parsed
  obtain ⟨-, -, parsed⟩ := bind_eq_ok.mp parsed
  obtain ⟨-, -, parsed⟩ := bind_eq_ok.mp parsed
  obtain ⟨callRules, -, parsed⟩ := bind_eq_ok.mp parsed
  obtain ⟨argumentRules, -, parsed⟩ := bind_eq_ok.mp parsed
  obtain ⟨stateGuards, -, parsed⟩ := bind_eq_ok.mp parsed
  obtain ⟨regions, -, parsed⟩ := bind_eq_ok.mp parsed
  obtain ⟨-, -, parsed⟩ := bind_eq_ok.mp parsed
  obtain ⟨-, -, parsed⟩ := bind_eq_ok.mp parsed
  cases pure_eq_ok.mp parsed
  obtain ⟨-, resources⟩ := refuse_bind_eq_ok.mp resources
  obtain ⟨gas, read64, resources⟩ := bind_eq_ok.mp resources
  obtain ⟨-, resources⟩ := refuse_bind_eq_ok.mp resources
  obtain ⟨-, resources⟩ := refuse_bind_eq_ok.mp resources
  obtain ⟨memory, -, resources⟩ := bind_eq_ok.mp resources
  obtain ⟨-, resources⟩ := refuse_bind_eq_ok.mp resources
  obtain ⟨-, resources⟩ := refuse_bind_eq_ok.mp resources
  obtain ⟨-, -, resources⟩ := bind_eq_ok.mp resources
  cases pure_eq_ok.mp resources
  exact ⟨value, preset, read, mapError_eq_ok.mp schema, orRefuse_eq_ok.mp read64⟩

theorem checkBlockEnvironmentV4_profile {policy : PresetPolicyV4} {previousTimestamp : U64}
    {block : BatchBlockV4} {offset : Nat}
    (checked : checkBlockEnvironmentV4 externals input policy previousTimestamp block offset =
      .ok ()) :
    block.InProfile policy.maxGasPerBlock
      (roomChainIdV4 externals.keccak256 input.deploymentId input.roomId) := by
  obtain ⟨expectedNumber, -, checked⟩ := bind_eq_ok.mp checked
  obtain ⟨heights, checked⟩ := refuse_bind_eq_ok.mp checked
  obtain ⟨-, checked⟩ := refuse_bind_eq_ok.mp checked
  obtain ⟨chain, checked⟩ := refuse_bind_eq_ok.mp checked
  have profile := refuse_eq_ok.mp checked
  simp only [not_or, not_not] at heights chain profile
  obtain ⟨gasLimit, coinbase, baseFee, prevRandao, difficulty, excessBlobGas⟩ := profile
  rw [BatchBlockV4.InProfile, profileEnv, ← gasLimit, ← chain, heights.1, ← heights.2]
  cases env : block.env
  simp_all only

theorem openBatchV4_capsGas {usePreparedRuntimeCache : Bool}
    {checkColdLink : StateMap → Except StfError Unit} {opened : OpenedBatchV4}
    (opens : openBatchV4 externals json input usePreparedRuntimeCache checkColdLink =
      .ok opened) : CapsGas json input.canonicalPresetJson opened.policy.maxGasPerBlock := by
  obtain ⟨⟨⟩, -, opens⟩ := bind_eq_ok.mp opens
  obtain ⟨hash, -, opens⟩ := bind_eq_ok.mp opens
  obtain ⟨state, -, opens⟩ := bind_eq_ok.mp opens
  obtain ⟨⟨⟩, -, opens⟩ := bind_eq_ok.mp opens
  obtain ⟨policy, parsed, opens⟩ := bind_eq_ok.mp opens
  obtain ⟨program, -, opens⟩ := bind_eq_ok.mp opens
  obtain ⟨⟨⟩, -, opens⟩ := bind_eq_ok.mp opens
  obtain ⟨applied, -, opens⟩ := bind_eq_ok.mp opens
  obtain ⟨prepared, -, done⟩ := bind_eq_ok.mp opens
  cases pure_eq_ok.mp done
  exact fromInput_capsGas (mapError_eq_ok.mp parsed)

/-- Every block of an accepted batch has the profile of the room. -/
theorem executeBatchV4_profile {journal : BatchJournalV4}
    (accepted : executeBatchV4 externals json input = .ok journal) :
    ∃ gas, CapsGas json input.canonicalPresetJson gas ∧ ∀ block ∈ input.blocks,
      block.InProfile gas
        (roomChainIdV4 externals.keccak256 input.deploymentId input.roomId) := by
  obtain ⟨outcome, ran, -⟩ := map_eq_ok.mp accepted
  obtain ⟨opened, opens, ran⟩ := bind_eq_ok.mp ran
  obtain ⟨closed, executed, -⟩ := bind_eq_ok.mp ran
  have all : ∀ item ∈ input.blocks.zipIdx, item.1.InProfile opened.policy.maxGasPerBlock
      (roomChainIdV4 externals.keccak256 input.deploymentId input.roomId) := by
    refine foldlM_forall executed fun item before after stepped => ?_
    obtain ⟨⟨⟩, checked, -⟩ := bind_eq_ok.mp stepped
    exact checkBlockEnvironmentV4_profile checked
  refine ⟨opened.policy.maxGasPerBlock, openBatchV4_capsGas opens, fun block member => ?_⟩
  obtain ⟨index, listed⟩ := exists_mem_zipIdx member
  exact all (block, index) listed

end Accepted

/-! ### The calldata -/

/-- One block of a room behind the root it is built on. -/
theorem delimited_encodeBatchBlockV4 (gasLimit chainId : U64) :
    Delimited (fun entry : B256 × BatchBlockV4 => entry.2.InProfile gasLimit chainId ∧
        (encodeBatchBlockV4 entry.1 entry.2).length < Rlp.maxLength)
      fun entry => encodeBatchBlockV4 entry.1 entry.2 := by
  rintro ⟨firstParent, first⟩ ⟨secondParent, second⟩ rest otherRest ⟨firstProfile, firstShort⟩
    ⟨secondProfile, secondShort⟩ equal
  obtain ⟨equal, rests⟩ := Rlp.encodeList_append_inj firstShort secondShort equal
  simp only [List.flatten_cons, List.flatten_nil] at equal
  obtain ⟨blockNumber, equal⟩ := Rlp.delimited_encodeWord (by decide) trivial trivial equal
  obtain ⟨timestamp, equal⟩ := Rlp.delimited_encodeWord (by decide) trivial trivial equal
  obtain ⟨parent, equal⟩ :=
    Rlp.delimited_encodeBytes_wordBytes (by decide) (by decide) trivial trivial equal
  obtain ⟨expectedPostStateRoot, equal⟩ :=
    Rlp.delimited_encodeBytes_wordBytes (by decide) (by decide) trivial trivial equal
  obtain ⟨rawTxs, equal⟩ := delimited_encodeList delimited_rawTx Rlp.encodeBytes_ne_nil
    (short_of_mem (by simp) firstShort) (short_of_mem (by simp) secondShort) equal
  have env : first.env = second.env := by
    rw [firstProfile, secondProfile, blockNumber, timestamp]
  refine ⟨?_, rests⟩
  cases first
  cases second
  simp_all only

/-- The blocks of a list that fills the whole string, one after the other. Every block starts at
the root the one before it ends at. -/
theorem encodeBatchBlocksV4_inj {gasLimit chainId : U64} {first second : List BatchBlockV4}
    {parent otherParent : B256} (firstProfile : ∀ block ∈ first, block.InProfile gasLimit chainId)
    (secondProfile : ∀ block ∈ second, block.InProfile gasLimit chainId)
    (firstShort : ∀ encoded ∈ encodeBatchBlocksV4 parent first,
      encoded.length < Rlp.maxLength)
    (secondShort : ∀ encoded ∈ encodeBatchBlocksV4 otherParent second,
      encoded.length < Rlp.maxLength)
    (equal : (encodeBatchBlocksV4 parent first).flatten =
      (encodeBatchBlocksV4 otherParent second).flatten) : first = second := by
  have visible (parent : B256) (block : BatchBlockV4) : encodeBatchBlockV4 parent block ≠ [] :=
    Rlp.encodeList_ne_nil _
  induction first generalizing second parent otherParent with
  | nil =>
    cases second with
    | nil => rfl
    | cons block rest =>
      rw [encodeBatchBlocksV4, encodeBatchBlocksV4, List.flatten_cons, List.flatten_nil] at equal
      exact absurd (List.append_eq_nil_iff.mp equal.symm).1 (visible _ _)
  | cons block rest inductionHypothesis =>
    cases second with
    | nil =>
      rw [encodeBatchBlocksV4, encodeBatchBlocksV4, List.flatten_cons, List.flatten_nil] at equal
      exact absurd (List.append_eq_nil_iff.mp equal).1 (visible _ _)
    | cons other others =>
      rw [encodeBatchBlocksV4, List.forall_mem_cons] at firstShort secondShort
      rw [encodeBatchBlocksV4, encodeBatchBlocksV4, List.flatten_cons, List.flatten_cons] at equal
      rw [List.forall_mem_cons] at firstProfile secondProfile
      obtain ⟨heads, tails⟩ := @delimited_encodeBatchBlockV4 gasLimit chainId (parent, block)
        (otherParent, other) _ _ ⟨firstProfile.1, firstShort.1⟩
        ⟨secondProfile.1, secondShort.1⟩ equal
      rw [(Prod.mk.inj heads).2, inductionHypothesis firstProfile.2 secondProfile.2 firstShort.2
        secondShort.2 tails]

/-- The calldata determines the blocks. Two accepted batches of one room under one preset with
the same calldata have the same blocks in every field. -/
theorem canonicalBatchBytes_determine_blocks (externals : Externals) (json : JsonLibrary)
    (first second : BatchInputV4) (firstJournal secondJournal : BatchJournalV4)
    (firstAccepted : executeBatchV4 externals json first = .ok firstJournal)
    (secondAccepted : executeBatchV4 externals json second = .ok secondJournal)
    (deployment : first.deploymentId = second.deploymentId)
    (room : first.roomId = second.roomId)
    (preset : first.canonicalPresetJson = second.canonicalPresetJson)
    (short : (canonicalBatchBytesV4 first.blocks first.prevStateRoot).length < 2 ^ 64)
    (same : canonicalBatchBytesV4 first.blocks first.prevStateRoot =
      canonicalBatchBytesV4 second.blocks second.prevStateRoot) :
    first.blocks = second.blocks := by
  obtain ⟨gas, firstCaps, firstProfile⟩ := executeBatchV4_profile firstAccepted
  obtain ⟨otherGas, secondCaps, secondProfile⟩ := executeBatchV4_profile secondAccepted
  rw [← preset] at secondCaps
  rw [← firstCaps.unique secondCaps, ← deployment, ← room] at secondProfile
  have otherShort : (canonicalBatchBytesV4 second.blocks second.prevStateRoot).length <
      Rlp.maxLength := same ▸ short
  obtain ⟨contents, -⟩ := Rlp.encodeList_append_inj short otherShort
    (congrArg (fun data => data ++ []) same)
  simp only [List.flatten_cons, List.flatten_nil] at contents
  obtain ⟨-, contents⟩ := Rlp.delimited_encodeWord (by decide) trivial trivial contents
  have inner := short_of_mem (List.mem_of_getElem? (i := 1) rfl) short
  have otherInner := short_of_mem (List.mem_of_getElem? (i := 1) rfl) otherShort
  obtain ⟨blocks, -⟩ := Rlp.encodeList_append_inj inner otherInner contents
  exact encodeBatchBlocksV4_inj firstProfile secondProfile
    (fun _ member => short_of_mem member inner) (fun _ member => short_of_mem member otherInner)
    blocks

/-- Two accepted batches of the sample room with different rosters. -/
theorem canonicalBatchBytes_determine_blocks_sample :
    sampleRetirement ≠ sampleAfterRetirement ∧
      sampleRetirement.blocks = sampleAfterRetirement.blocks := by
  obtain ⟨retirement, accepted, -⟩ := sampleRetirement_accepted
  obtain ⟨after, follows⟩ := sampleAfterRetirement_accepted
  refine ⟨fun equal => ?_, canonicalBatchBytes_determine_blocks sampleExternals
    sampleNativeLibrary _ _ retirement after accepted follows rfl rfl rfl (by decide +kernel) rfl⟩
  have previous := congrArg BatchInputV4.previousExitAllocations equal
  exact absurd previous (by decide)

end Zkdeal

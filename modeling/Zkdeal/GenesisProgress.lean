/-
This file asks whether a room that opens can take its first step: whether the roster
of an accepted opening is accepted in front of a batch that changes no membership.

The opening and the batches check rosters with two functions. They agree on the shape
of every slot, on the masks and on the root, and differ in one rule: the opening lets
a retired slot repeat the account of another slot, the batches do not.
-/

import Zkdeal.Settlement.Genesis
import Zkdeal.Membership

namespace Zkdeal

open Words Guard

/-- The policy of a batch or of an opening has authenticated its roster. -/
theorem fromInput_roster {primitives : Primitives} {json : JsonLibrary} {input : BatchInputV4}
    {state : StateMap} {policy : PresetPolicyV4}
    (built : PresetPolicyV4.fromInput primitives json input state = .ok policy) :
    Seated input.preRosterSlots input.activeMask input.preUsedMask ∧
      memberRosterRootV4 primitives.keccak256 input.preRosterSlots =
        some input.preRosterRoot := by
  obtain ⟨value, -, built⟩ := bind_eq_ok.mp built
  obtain ⟨-, built⟩ := refuse_bind_eq_ok.mp built
  obtain ⟨preset, -, built⟩ := bind_eq_ok.mp built
  obtain ⟨-, built⟩ := refuse_bind_eq_ok.mp built
  obtain ⟨certified, -, built⟩ := bind_eq_ok.mp built
  obtain ⟨exitProgramId, -, built⟩ := bind_eq_ok.mp built
  obtain ⟨lastAsset, -, built⟩ := bind_eq_ok.mp built
  obtain ⟨caps, -, built⟩ := bind_eq_ok.mp built
  obtain ⟨activeMembers, verified, -⟩ := bind_eq_ok.mp built
  obtain ⟨seated, -, root⟩ := verifyRoster_eq_ok verified
  exact ⟨seated, root⟩

theorem executeGenesisV4_roster {primitives : Primitives} {json : JsonLibrary} {rlp : RlpLibrary}
    {input : GenesisInputV4} {journal : GenesisJournalV4}
    (opened : executeGenesisV4 primitives json rlp input = .ok journal) :
    Seated input.rosterSlots input.activeMask input.usedMask ∧
      memberRosterRootV4 primitives.keccak256 input.rosterSlots =
        some input.genesisRosterRoot := by
  obtain ⟨-, opened⟩ := refuse_bind_eq_ok.mp opened
  obtain ⟨-, opened⟩ := refuse_bind_eq_ok.mp opened
  obtain ⟨-, opened⟩ := refuse_bind_eq_ok.mp opened
  obtain ⟨⟨⟩, -, opened⟩ := bind_eq_ok.mp opened
  obtain ⟨-, opened⟩ := refuse_bind_eq_ok.mp opened
  obtain ⟨-, opened⟩ := refuse_bind_eq_ok.mp opened
  obtain ⟨state, -, opened⟩ := bind_eq_ok.mp opened
  obtain ⟨-, opened⟩ := refuse_bind_eq_ok.mp opened
  obtain ⟨policy, built, -⟩ := bind_eq_ok.mp opened
  exact fromInput_roster (mapError_eq_ok.mp built)

/-- A transition that changes nothing is accepted exactly for a well-shaped roster. -/
theorem validateMembershipTransitionV4_same {keccak256 : Bytes → B256}
    {slots : List MemberSlotWitnessV4} {root : B256} {activeMask usedMask : U8}
    {batchIndex : U64} (positive : batchIndex ≠ 0) :
    (∃ hash, validateMembershipTransitionV4 keccak256 batchIndex slots slots [] root root
        activeMask usedMask activeMask usedMask = .ok hash) ↔
      Seated slots activeMask usedMask ∧ DistinctAccounts MemberSlotWitnessV4.isUsed slots ∧
        memberRosterRootV4 keccak256 slots = some root := by
  constructor
  · rintro ⟨hash, accepted⟩
    obtain ⟨-, accepted⟩ := refuse_bind_eq_ok.mp accepted
    obtain ⟨⟨⟩, shape, -⟩ := bind_eq_ok.mp accepted
    exact validateRosterShape_eq_ok.mp shape
  · intro shape
    refine ⟨_, refuse_bind_eq_ok.mpr ⟨positive, bind_eq_ok.mpr
      ⟨(), validateRosterShape_eq_ok.mpr shape, bind_eq_ok.mpr
        ⟨(), validateRosterShape_eq_ok.mpr shape, refuse_bind_eq_ok.mpr
          ⟨by simp, bind_eq_ok.mpr ⟨_, foldlM_nil_eq_ok.mpr rfl, bind_eq_ok.mpr
            ⟨(), forEach_eq_ok.mpr fun slot _ => ?_, rfl⟩⟩⟩⟩⟩⟩⟩
    rw [Std.ExtTreeMap.getElem?_empty]
    exact refuse_eq_ok.mpr (not_not.mpr rfl)

/-- The roster of an opening is accepted in front of the first batch exactly when no two of its
active or retired slots have one account. -/
theorem genesis_progress_iff {primitives : Primitives} {json : JsonLibrary} {rlp : RlpLibrary}
    {input : GenesisInputV4} {journal : GenesisJournalV4}
    (opened : executeGenesisV4 primitives json rlp input = .ok journal) :
    (∃ hash, validateMembershipTransitionV4 primitives.keccak256 1 input.rosterSlots
        input.rosterSlots [] input.genesisRosterRoot input.genesisRosterRoot input.activeMask
        input.usedMask input.activeMask input.usedMask = .ok hash) ↔
      DistinctAccounts MemberSlotWitnessV4.isUsed input.rosterSlots := by
  obtain ⟨seated, root⟩ := executeGenesisV4_roster opened
  rw [validateMembershipTransitionV4_same (by decide)]
  exact ⟨fun shape => shape.2.1, fun distinct => ⟨seated, distinct, root⟩⟩

/-- The hash of the native exit program, as the preset writes it. -/
def sampleNativeId : String := hexText (sampleDigest sampleNativeDocument)

/-- The library that knows the native exit program and a preset bound to it. -/
def sampleNativeLibrary : JsonLibrary :=
  sampleJson [(sampleNativeDocument, sampleNativeJson)]
    [(samplePresetDocument sampleNativeId, samplePresetJson sampleNativeId)]

/-- The opening of an empty room with two slots in use. -/
def sampleGenesis (first second : MemberSlotWitnessV4) : GenesisInputV4 where
  encodedWitnessBytes := 1000
  deploymentId := 1
  roomId := 2
  configHash := 3
  presetHash := sampleDigest (samplePresetDocument sampleNativeId)
  manifestHash := 4
  proofProgramId := 5
  l1BlockNumber := 6
  l1BlockHash := sampleDigest (sampleHeader 7 6)
  l1StateRoot := 7
  l1HeaderRlp := sampleHeader 7 6
  genesisStateRoot := samplePrimitives.stateRootUnhashed []
  genesisRosterRoot := (memberRosterRootV4 sampleDigest (sampleMembers first second)).getD 0
  genesisExitRoot := claimMerkleRootV4 sampleDigest 1 2 []
  activeMask := slotMask MemberSlotWitnessV4.isActive (sampleMembers first second)
  usedMask := slotMask MemberSlotWitnessV4.isUsed (sampleMembers first second)
  inboxCursor := 0
  assetTotalsHash := hashAssetTotalsV4 sampleDigest [⟨0, 0, 0, 0⟩]
  exitTotalsHash := hashExitTotalsV4 sampleDigest [⟨0, 0, 0, 0⟩]
  feeTotalsHash := hashFeeTotalsV4 sampleDigest [⟨0, 0, 0, 0⟩]
  l1InclusionDeadline := 100
  canonicalPresetJson := samplePresetDocument sampleNativeId
  canonicalExitProgramJson := sampleNativeDocument
  rosterSlots := sampleMembers first second
  assetTotals := [⟨0, 0⟩]
  residualAllocations := []
  compactState := ⟨0, []⟩

/-- Two active members. -/
def sampleTwoActive : GenesisInputV4 :=
  sampleGenesis sampleFirstMember ⟨1, memberActive, 12, 0, none⟩

theorem genesis_progress_iff_sample :
    ∃ journal, executeGenesisV4 samplePrimitives sampleNativeLibrary sampleRlp sampleTwoActive =
        .ok journal ∧
      ∃ hash, validateMembershipTransitionV4 samplePrimitives.keccak256 1
        sampleTwoActive.rosterSlots sampleTwoActive.rosterSlots [] sampleTwoActive.genesisRosterRoot
        sampleTwoActive.genesisRosterRoot sampleTwoActive.activeMask sampleTwoActive.usedMask
        sampleTwoActive.activeMask sampleTwoActive.usedMask = .ok hash := by
  obtain ⟨journal, opened⟩ : ∃ journal, executeGenesisV4 samplePrimitives sampleNativeLibrary
      sampleRlp sampleTwoActive = .ok journal := exists_eq_ok_of_isSome (by decide +kernel)
  refine ⟨journal, opened, (genesis_progress_iff opened).mpr ?_⟩
  unfold DistinctAccounts
  decide

/-- An active and a retired slot of one account. -/
def sampleRepeated : GenesisInputV4 :=
  sampleGenesis sampleFirstMember ⟨1, memberRetired, 11, 0, some 0⟩

/-- An opening with an active and a retired slot of one account is accepted, and its roster is
refused in front of the first batch. -/
theorem genesis_without_progress :
    (∃ journal, executeGenesisV4 samplePrimitives sampleNativeLibrary sampleRlp sampleRepeated =
      .ok journal) ∧
    validateMembershipTransitionV4 samplePrimitives.keccak256 1 sampleRepeated.rosterSlots
        sampleRepeated.rosterSlots [] sampleRepeated.genesisRosterRoot
        sampleRepeated.genesisRosterRoot sampleRepeated.activeMask sampleRepeated.usedMask
        sampleRepeated.activeMask sampleRepeated.usedMask =
      .error [.text "pre-roster", .text " has a duplicate lifetime occupant"] := by
  refine ⟨exists_eq_ok_of_isSome (by decide +kernel), ?_⟩
  decide +kernel

end Zkdeal

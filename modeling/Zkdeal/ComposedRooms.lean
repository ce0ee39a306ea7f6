/-
This file connects the two runs of a composed room: a template is prepared once, and a batch is
executed over the journal of the preparation. Nothing but the journal goes from one run to the
other. Each holds a state and two lists against it, and `Fits` is what either has checked; so the
state the batch opens at is the prepared one, up to what the rules of the template refresh.
-/

import Zkdeal.ColdCommitment

namespace Zkdeal

open Words Binding Guard Maps

/-- A state and the lists of a template, held against the journal of the template. -/
structure Fits (primitives : Primitives) (journal : ColdRoomJournalV4)
    (stateAccess : List ColdStateAccessV4) (stateRefresh : List ColdStateRefreshV4)
    (state : StateMap) : Prop where
  coded : ∀ (address : Address) (account : AccountRecord),
    state.accounts[address]? = some account → account.code ≠ [] →
      ∃ access ∈ stateAccess, access.address = address
  committed : coldStaticStateCommitmentV4 primitives state stateAccess stateRefresh =
    .ok journal.staticStateCommitment
  accessRoot : hashColdStateAccessV4 primitives.keccak256 stateAccess = journal.stateAccessRoot
  refreshRoot : hashColdStateRefreshV4 primitives.keccak256 stateRefresh =
    journal.stateRefreshRoot

/-- The setup blocks of a template, from its initial state on. -/
def setup (externals : Externals) (cold : ColdRoomInputV4) : Except StfError ColdProgress :=
  cold.setupBlocks.zipIdx.foldlM (executeSetupBlock externals)
    ⟨StateMap.fromInput cold.initialState, cold.initialStateRoot, 0, false⟩

/-- The code at an address; an account that is absent has none. -/
def StateMap.codeAt (state : StateMap) (address : Address) : Bytes :=
  state.accounts[address]?.elim [] AccountRecord.code

/-- Two states with the same code everywhere, and with accounts of the template that differ at
most in what the rules refresh. -/
structure SameTemplate (cold : ColdRoomInputV4) (initialized opened : StateMap) : Prop where
  code : ∀ address, initialized.codeAt address = opened.codeAt address
  accounts : ∀ access ∈ cold.stateAccess, ∃ account other,
    initialized.accounts[access.address]? = some account ∧
    opened.accounts[access.address]? = some other ∧
    StaticallyEqual cold.stateRefresh access account other

section Fits

variable {externals : Externals} {primitives : Primitives} {journal : ColdRoomJournalV4}
  {cold : ColdRoomInputV4} {initialized opened : StateMap}

/-- Verified code is found at accounts of the template only. -/
theorem coded_of_verified {runtimeCode : List ColdRuntimeCodeV4}
    {stateAccess : List ColdStateAccessV4} {stateRefresh : List ColdStateRefreshV4}
    {state : StateMap}
    (shapes : validateColdShapesV4 primitives runtimeCode stateAccess stateRefresh = .ok ())
    (verified : verifyColdRuntimeCodeV4 primitives state runtimeCode = .ok ())
    (address : Address) (account : AccountRecord)
    (found : state.accounts[address]? = some account) (code : account.code ≠ []) :
    ∃ access ∈ stateAccess, access.address = address := by
  obtain ⟨-, shapes⟩ := refuse_bind_eq_ok.mp shapes
  obtain ⟨-, shapes⟩ := refuse_bind_eq_ok.mp shapes
  obtain ⟨-, shapes⟩ := refuse_bind_eq_ok.mp shapes
  obtain ⟨entered, ran, shapes⟩ := bind_eq_ok.mp shapes
  obtain ⟨-, shapes⟩ := refuse_bind_eq_ok.mp shapes
  obtain ⟨-, shapes⟩ := refuse_bind_eq_ok.mp shapes
  obtain ⟨declared, -⟩ := refuse_bind_eq_ok.mp shapes
  obtain ⟨⟨⟩, -, pinned⟩ := bind_eq_ok.mp verified
  have committed := refuse_eq_ok.mp (forEach_eq_ok.mp pinned (address, account)
    (Std.ExtTreeMap.mem_toList_iff_getElem?_eq_some.mpr found))
  obtain ⟨entry, listed, rfl⟩ := not_not.mp fun missing => committed ⟨code, missing⟩
  have contained := Bool.of_not_eq_false fun absent => declared ⟨entry, listed, absent⟩
  refine foldlM_invariant (fun consumed entered => ∀ address, entered.1.contains address = true →
    ∃ access ∈ consumed, access.address = address) ran (by simp) ?_ entry.address contained
  intro consumed access before after holds stepped address contained
  obtain ⟨-, stepped⟩ := refuse_bind_eq_ok.mp stepped
  obtain ⟨-, stepped⟩ := refuse_bind_eq_ok.mp stepped
  obtain ⟨count, -, done⟩ := bind_eq_ok.mp stepped
  rw [← pure_eq_ok.mp done, Std.ExtTreeMap.contains_insert, Bool.or_eq_true] at contained
  obtain own | earlier := contained
  · exact ⟨access, by simp, by simpa using own⟩
  · obtain ⟨other, member, same⟩ := holds address earlier
    exact ⟨other, List.mem_append_left _ member, same⟩

/-- The state a template is left in by its setup blocks fits its journal. -/
theorem executeColdRoomV4_fits (prepared : executeColdRoomV4 externals cold = .ok journal) :
    ∃ closed, setup externals cold = .ok closed ∧
      Fits externals.toPrimitives journal cold.stateAccess cold.stateRefresh closed.state := by
  obtain ⟨⟨⟩, -, prepared⟩ := bind_eq_ok.mp prepared
  obtain ⟨⟨⟩, -, prepared⟩ := bind_eq_ok.mp prepared
  obtain ⟨⟨⟩, shapes, prepared⟩ := bind_eq_ok.mp prepared
  obtain ⟨root, prepared⟩ := refuse_bind_eq_ok.mp prepared
  obtain ⟨closed, ran, prepared⟩ := bind_eq_ok.mp prepared
  obtain ⟨-, prepared⟩ := refuse_bind_eq_ok.mp prepared
  obtain ⟨-, prepared⟩ := refuse_bind_eq_ok.mp prepared
  obtain ⟨⟨⟩, -, prepared⟩ := bind_eq_ok.mp prepared
  obtain ⟨⟨⟩, verified, prepared⟩ := bind_eq_ok.mp prepared
  obtain ⟨commitment, committed, done⟩ := bind_eq_ok.mp prepared
  rw [not_not.mp root] at ran
  rw [← pure_eq_ok.mp done]
  exact ⟨closed, ran, coded_of_verified shapes verified, committed, rfl, rfl⟩

/-- A state the link accepts fits the journal the batch is composed with. -/
theorem validateComposedColdLinkV4_fits {composed : ComposedBatchInputV4}
    (linked : validateComposedColdLinkV4 externals composed opened = .ok ()) :
    Fits externals.toPrimitives composed.coldJournal composed.stateAccess composed.stateRefresh
      opened := by
  obtain ⟨-, linked⟩ := refuse_bind_eq_ok.mp linked
  obtain ⟨-, linked⟩ := refuse_bind_eq_ok.mp linked
  obtain ⟨⟨⟩, shapes, linked⟩ := bind_eq_ok.mp linked
  obtain ⟨roots, linked⟩ := refuse_bind_eq_ok.mp linked
  obtain ⟨⟨⟩, verified, linked⟩ := bind_eq_ok.mp linked
  obtain ⟨commitment, committed, same⟩ := bind_eq_ok.mp linked
  rw [not_not.mp (refuse_eq_ok.mp same)] at committed
  simp only [not_or, not_not] at roots
  exact ⟨coded_of_verified shapes verified, committed, roots.2.1, roots.2.2⟩

/-- States that fit one journal under the same lists are the same up to the refresh rules. -/
theorem Fits.sameTemplate
    (before : Fits primitives journal cold.stateAccess cold.stateRefresh initialized)
    (after : Fits primitives journal cold.stateAccess cold.stateRefresh opened)
    (clean : ¬ Collides primitives.keccak256
      (coldStaticMessages primitives initialized cold.stateAccess cold.stateRefresh ++
        coldStaticMessages primitives opened cold.stateAccess cold.stateRefresh)) :
    SameTemplate cold initialized opened := by
  obtain ⟨hashes, ran, top, digest⟩ := coldStaticStateCommitmentV4_spec before.committed
  obtain ⟨otherHashes, otherRan, otherTop, otherDigest⟩ :=
    coldStaticStateCommitmentV4_spec after.committed
  have words := encodeWords_injective (eq_of_hash_eq clean (List.mem_append_left _ top)
    (List.mem_append_right _ otherTop) (digest.trans otherDigest.symm))
  simp only [staticStateWords, List.cons.injEq, true_and] at words
  rw [← words.2] at otherRan
  have accounts : ∀ access ∈ cold.stateAccess, ∃ account other,
      initialized.accounts[access.address]? = some account ∧
      opened.accounts[access.address]? = some other ∧
      StaticallyEqual cold.stateRefresh access account other := by
    intro access listed
    obtain ⟨hash, hashed, otherHashed⟩ := exists_eq_ok_of_mapM_eq ran otherRan listed
    obtain ⟨account, found, inside, message⟩ := staticAccountHash_spec hashed
    obtain ⟨other, otherFound, otherInside, otherMessage⟩ := staticAccountHash_spec otherHashed
    refine ⟨account, other, found, otherFound, staticallyEqual_of_hash_eq clean ?_ ?_ inside
      otherInside (message.trans otherMessage.symm)⟩
    · exact List.subset_append_of_subset_left _ (staticAccountMessages_subset listed found)
    · exact List.subset_append_of_subset_right _ (staticAccountMessages_subset listed otherFound)
  refine ⟨fun address => ?_, accounts⟩
  by_cases template : ∃ access ∈ cold.stateAccess, access.address = address
  · obtain ⟨access, listed, rfl⟩ := template
    obtain ⟨account, other, found, otherFound, same⟩ := accounts access listed
    simp only [StateMap.codeAt, found, otherFound, Option.elim_some, same.code]
  · have bare : ∀ {state : StateMap},
        Fits primitives journal cold.stateAccess cold.stateRefresh state →
        state.codeAt address = [] := by
      intro state fits
      unfold StateMap.codeAt
      cases found : state.accounts[address]? with
      | none => rfl
      | some account => exact not_not.mp fun code => template (fits.coded _ _ found code)
    rw [bare before, bare after]

end Fits

/-- A batch that was executed over a journal has linked the state it opened at. -/
theorem executeComposedBatchV4_linked {externals : Externals} {json : JsonLibrary}
    {composed : ComposedBatchInputV4} {journal : BatchJournalV4}
    (executed : executeComposedBatchV4 externals json composed = .ok journal) :
    ∃ opened, openCompactStateV4 externals composed.batch = .ok opened ∧
      validateComposedColdLinkV4 externals composed opened = .ok () := by
  obtain ⟨outcome, executed, -⟩ := map_eq_ok.mp executed
  obtain ⟨_, opens, -⟩ := bind_eq_ok.mp executed
  obtain ⟨⟨⟩, -, opens⟩ := bind_eq_ok.mp opens
  obtain ⟨_, -, opens⟩ := bind_eq_ok.mp opens
  obtain ⟨opened, authenticated, opens⟩ := bind_eq_ok.mp opens
  obtain ⟨⟨⟩, linked, -⟩ := bind_eq_ok.mp opens
  exact ⟨opened, authenticated, linked⟩

/-- The state is the one the setup blocks of a template left, or the batch comes with another
list of the same digest, or messages hashed for the commitments of the two states collide. -/
def OpensAt (externals : Externals) (cold : ColdRoomInputV4) (composed : ComposedBatchInputV4)
    (opened : StateMap) : Prop :=
  ∃ closed, setup externals cold = .ok closed ∧
    (SameTemplate cold closed.state opened ∨
      Collides (hashColdStateAccessV4 externals.keccak256)
        [composed.stateAccess, cold.stateAccess] ∨
      Collides (hashColdStateRefreshV4 externals.keccak256)
        [composed.stateRefresh, cold.stateRefresh] ∨
      Collides externals.keccak256
        (coldStaticMessages externals.toPrimitives closed.state cold.stateAccess
            cold.stateRefresh ++
          coldStaticMessages externals.toPrimitives opened cold.stateAccess cold.stateRefresh))

/-- A state that the link accepts against the journal of a prepared template is the state the
setup blocks left: the code is the same at every address, and the accounts of the template
differ at most in what its rules refresh. Every batch that is executed over the journal opens at
such a state. -/
theorem composed_room_opens_at_template (externals : Externals) {cold : ColdRoomInputV4}
    {composed : ComposedBatchInputV4}
    (prepared : executeColdRoomV4 externals cold = .ok composed.coldJournal) :
    (∀ opened, validateComposedColdLinkV4 externals composed opened = .ok () →
      OpensAt externals cold composed opened) ∧
    ∀ json journal, executeComposedBatchV4 externals json composed = .ok journal →
      ∃ opened, openCompactStateV4 externals composed.batch = .ok opened ∧
        OpensAt externals cold composed opened := by
  have linksAt : ∀ opened, validateComposedColdLinkV4 externals composed opened = .ok () →
      OpensAt externals cold composed opened := by
    intro opened linked
    obtain ⟨closed, ran, before⟩ := executeColdRoomV4_fits prepared
    have after := validateComposedColdLinkV4_fits linked
    refine ⟨closed, ran, ?_⟩
    by_contra apart
    simp only [not_or] at apart
    obtain ⟨different, accessClean, refreshClean, clean⟩ := apart
    have accesses := eq_of_hash_eq accessClean List.mem_cons_self (by simp)
      (after.accessRoot.trans before.accessRoot.symm)
    have refreshes := eq_of_hash_eq refreshClean List.mem_cons_self (by simp)
      (after.refreshRoot.trans before.refreshRoot.symm)
    rw [accesses, refreshes] at after
    exact different (before.sameTemplate after clean)
  refine ⟨linksAt, fun json journal executed => ?_⟩
  obtain ⟨opened, authenticated, linked⟩ := executeComposedBatchV4_linked executed
  exact ⟨opened, authenticated, linksAt opened linked⟩

/-- The sample template, prepared in a world in which nothing but creations happen and nothing
comes of them. -/
def sampleColdExternals : Externals :=
  { sampleExternals with
    decode2718 := fun raw => (sampleDecode raw).map fun decoded =>
      ({ decoded.1 with chainId := some coldTemplateChainIdV4, kind := .create }, decoded.2)
    inspectTx := fun _ state proofWork _ => .ok ⟨true, 21, .ofList [], none, state.accessMetrics,
      proofWork⟩ }

def sampleColdRoom : ColdRoomInputV4 :=
  let root := (sampleColdState 5 8).stateRoot samplePrimitives
  { (default : ColdRoomInputV4) with
    encodedWitnessBytes := 5
    compiledBundleHash := 1
    presetHash := 1
    manifestHash := 1
    proofProgramId := 1
    initialStateRoot := root
    initializedStateRoot := root
    initialState := [(17, ⟨1, 5, [0xfe], [(0, 7), (1, 8)]⟩)]
    setupBlocks := [⟨0, [[2, 0, 3, 12]], { (default : BlockEnvV1) with
      gasLimit := 100, chainId := coldTemplateChainIdV4 }, root⟩]
    runtimeCode := [⟨17, sampleDigest [0xfe]⟩]
    stateAccess := sampleColdAccess
    stateRefresh := sampleColdRefresh }

def sampleComposedRoom (journal : ColdRoomJournalV4) : ComposedBatchInputV4 :=
  ⟨journal, sampleColdRoom.runtimeCode, sampleColdAccess, sampleColdRefresh,
    { (default : BatchInputV4) with presetHash := 1, manifestHash := 1, proofProgramId := 1 }⟩

/-- The sample template is prepared, and linked with a refreshed balance and slot. -/
theorem composed_room_opens_at_template_sample :
    ∃ journal, executeColdRoomV4 sampleColdExternals sampleColdRoom = .ok journal ∧
      validateComposedColdLinkV4 sampleColdExternals (sampleComposedRoom journal)
        (sampleColdState 9 3) = .ok () ∧
      OpensAt sampleColdExternals sampleColdRoom (sampleComposedRoom journal)
        (sampleColdState 9 3) := by
  have links : ((executeColdRoomV4 sampleColdExternals sampleColdRoom).toOption.map fun journal =>
      validateComposedColdLinkV4 sampleColdExternals (sampleComposedRoom journal)
        (sampleColdState 9 3)) = some (.ok ()) := by decide +kernel
  obtain ⟨journal, prepared, linked⟩ := toOption_map_eq_some links
  exact ⟨journal, prepared, linked, (@composed_room_opens_at_template sampleColdExternals _
    (sampleComposedRoom journal) prepared).1 _ linked⟩

end Zkdeal

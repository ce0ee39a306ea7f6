/-
This file compares the public mirror of the rejection derivation with the guest. The
mirror rebuilds the policy against the terminal state of a batch, the guest built it
against the opening one, and the constructor looks at the state in three places: the
pinned code, the code outside it, and the stored slots. The comparison at the end of
a batch carries the first and the third over from one state to the other.
-/

import Zkdeal.WriteEnvelope

namespace Zkdeal

open Words Guard

section Mirror

variable {primitives : Primitives}

/-! ### Pinned code -/

/-- A committed account has the committed code. -/
def HasCode (primitives : Primitives) (accounts : BTreeMap Address AccountRecord)
    (code : CodeCommitmentV5) : Prop :=
  ∃ account, accounts[code.address]? = some account ∧
    account.codeHash primitives = code.runtimeCodeHash

/-- Pinning asks of the accounts only that they have the committed code. -/
theorem pinCode_eq_ok {accounts : BTreeMap Address AccountRecord}
    {before after : Option Address × BTreeMap Address B256} {code : CodeCommitmentV5} :
    pinCode primitives accounts before code = .ok after ↔
      ¬ (code.address = 0 ∨ code.runtimeCodeHash = 0 ∨
        (before.1.any fun previous => code.address ≤ previous) ∨
          before.2.contains code.address) ∧
      HasCode primitives accounts code ∧
      (some code.address, before.2.insert code.address code.runtimeCodeHash) = after := by
  unfold pinCode HasCode
  rw [refuse_bind_eq_ok, bind_eq_ok]
  simp only [orRefuse_eq_ok, refuse_bind_eq_ok, pure_eq_ok, ne_eq, not_not]
  refine and_congr_right fun _ => ⟨?_, ?_⟩
  · rintro ⟨account, present, hash, result⟩
    exact ⟨⟨account, present, hash⟩, result⟩
  · rintro ⟨⟨account, present, hash⟩, result⟩
    exact ⟨account, present, hash, result⟩

/-- Accounts with the committed code are pinned like the ones they were pinned against. -/
theorem pinCodes_transfer {opening terminal : BTreeMap Address AccountRecord}
    {codes : List CodeCommitmentV5} {start pinned : Option Address × BTreeMap Address B256}
    (ran : codes.foldlM (pinCode primitives opening) start = .ok pinned)
    (kept : ∀ code ∈ codes, HasCode primitives terminal code) :
    codes.foldlM (pinCode primitives terminal) start = .ok pinned := by
  induction codes generalizing start with
  | nil => exact ran
  | cons code rest inductionHypothesis =>
    obtain ⟨here, others⟩ := List.forall_mem_cons.mp kept
    obtain ⟨next, stepped, remaining⟩ := foldlM_cons_eq_ok.mp ran
    obtain ⟨wellFormed, -, result⟩ := pinCode_eq_ok.mp stepped
    exact foldlM_cons_eq_ok.mpr
      ⟨next, pinCode_eq_ok.mpr ⟨wellFormed, here, result⟩, inductionHypothesis remaining others⟩

/-- The pinned hashes are those of the commitments. -/
theorem pinCodes_spec {accounts : BTreeMap Address AccountRecord}
    {codes : List CodeCommitmentV5} {pinned : Option Address × BTreeMap Address B256}
    (ran : codes.foldlM (pinCode primitives accounts) (none, ∅) = .ok pinned) :
    (∀ code ∈ codes, pinned.2[code.address]? = some code.runtimeCodeHash) ∧
      ∀ address, pinned.2.contains address = true ↔ ∃ code ∈ codes, code.address = address := by
  refine foldlM_invariant (fun consumed (pinned : Option Address × BTreeMap Address B256) =>
    (∀ code ∈ consumed, pinned.2[code.address]? = some code.runtimeCodeHash) ∧
      ∀ address, pinned.2.contains address = true ↔ ∃ code ∈ consumed, code.address = address)
    ran ⟨fun code member => absurd member List.not_mem_nil, fun address => by simp⟩ ?_
  intro consumed code before after holds stepped
  obtain ⟨fresh, -, rfl⟩ := pinCode_eq_ok.mp stepped
  simp only [not_or] at fresh
  refine ⟨fun other member => ?_, fun address => ?_⟩
  · rw [Std.ExtTreeMap.getElem?_insert]
    rcases List.mem_append.mp member with earlier | last
    · have different : code.address ≠ other.address := by
        intro same
        exact fresh.2.2.2 ((holds.2 code.address).mpr ⟨other, earlier, same.symm⟩)
      rw [if_neg (mt Std.compare_eq_iff_eq.mp different)]
      exact holds.1 other earlier
    · rw [List.mem_singleton.mp last, if_pos (Std.compare_eq_iff_eq.mpr rfl)]
  · rw [Std.ExtTreeMap.contains_insert, Bool.or_eq_true, beq_iff_eq, Std.compare_eq_iff_eq,
      holds.2 address]
    simp only [List.mem_append, List.mem_singleton]
    constructor
    · rintro (same | ⟨other, member, same⟩)
      · exact ⟨code, .inr rfl, same⟩
      · exact ⟨other, .inl member, same⟩
    · rintro ⟨other, member | rfl, same⟩
      · exact .inr ⟨other, member, same⟩
      · exact .inl same

/-! ### Stored slots -/

/-- Every stored slot is in some region. -/
theorem checkStoredSlots_eq_ok {accounts : BTreeMap Address AccountRecord}
    {regions : List StorageNamespace} {done : Unit} :
    checkStoredSlots accounts regions = .ok done ↔
      ∀ address account, accounts[address]? = some account → ∀ slot ∈ account.storage,
        coveredBy regions address slot = true := by
  unfold checkStoredSlots
  simp only [forEach_eq_ok, refuse_eq_ok, Bool.not_eq_false, Prod.forall,
    Std.ExtTreeMap.mem_toList_iff_getElem?_eq_some, Std.ExtTreeMap.mem_keys]

theorem coveredBy_of_writableBy {regions : List StorageNamespace} {contract : Address}
    {slot : U256} (writable : writableBy regions contract slot = true) :
    coveredBy regions contract slot = true := by
  obtain ⟨region, member, covers⟩ := List.any_eq_true.mp writable
  exact List.any_eq_true.mpr ⟨region, member, (Bool.and_eq_true_iff.mp covers).1⟩

/-- The state stores no zero values. -/
def NoZeroSlots (state : StateMap) : Prop :=
  ∀ (address : Address) account, state.accounts[address]? = some account →
    ∀ slot : U256, account.storage[slot]? ≠ some 0

/-- A state that changed in writable slots only stores inside the regions, like the one it
changed from. -/
theorem storedSlots_transfer {regions : List StorageNamespace} {opening terminal : StateMap}
    {done : Unit} (covered : checkStoredSlots opening.accounts regions = .ok done)
    (writes : WritesWithin (fun contract slot => writableBy regions contract slot = true)
      opening terminal) (noZero : NoZeroSlots terminal) :
    checkStoredSlots terminal.accounts regions = .ok () := by
  rw [checkStoredSlots_eq_ok] at covered ⊢
  intro address account present slot stored
  obtain ⟨value, found⟩ :=
    Option.isSome_iff_exists.mp (Std.ExtTreeMap.mem_iff_isSome_getElem?.mp stored)
  have nonzero : value ≠ 0 := fun zero => noZero address account present slot (zero ▸ found)
  have terminalValue : terminal.storageAt address slot = value := by
    rw [← account_slot, present, Option.bind_some, found, Option.getD_some]
  by_cases changed : terminal.storageAt address slot = opening.storageAt address slot
  · rw [terminalValue, ← account_slot] at changed
    cases before : opening.accounts[address]? with
    | none =>
      rw [before] at changed
      exact absurd changed nonzero
    | some earlier =>
      rw [before, Option.bind_some] at changed
      refine covered address earlier before slot ?_
      by_contra absent
      rw [Std.ExtTreeMap.getElem?_eq_none absent] at changed
      exact nonzero changed
  · exact coveredBy_of_writableBy (writes address slot changed)

/-! ### The rebuilt policy -/

/-- The state has code in committed accounts only. -/
def CodeCommitted (codes : List CodeCommitmentV5) (state : StateMap) : Prop :=
  ∀ (address : Address) account, state.accounts[address]? = some account →
    account.code ≠ [] → ∃ code ∈ codes, code.address = address

/-- The comparison at the end of a batch finds the pinned code in the terminal state. -/
theorem validatePostState_hasCode {resolved : ExecutionPolicyV4}
    {before : BTreeMap Address (BTreeMap U256 U256)} {terminal : StateMap} {done : Unit}
    (certified : resolved.certified = true)
    (checked : resolved.validatePostState primitives before terminal = .ok done)
    {code : CodeCommitmentV5}
    (pinned : resolved.codeHashes[code.address]? = some code.runtimeCodeHash) :
    HasCode primitives terminal.accounts code := by
  unfold ExecutionPolicyV4.validatePostState at checked
  rw [if_neg (by rw [certified]; decide)] at checked
  obtain ⟨⟨⟩, pins, -⟩ := bind_eq_ok.mp checked
  have here := forEach_eq_ok.mp pins (code.address, code.runtimeCodeHash)
    (Std.ExtTreeMap.mem_toList_iff_getElem?_eq_some.mpr pinned)
  obtain ⟨account, present, unchanged⟩ := bind_eq_ok.mp here
  exact ⟨account, orRefuse_eq_ok.mp present, not_not.mp (refuse_eq_ok.mp unchanged)⟩

/-- The policy is built against the terminal state as it was against the opening one. -/
theorem fromV5_transfer {policy : ExecutionPolicyV5} {policyHash : B256}
    {activeMembers : BTreeSet Address} {opening terminal : StateMap}
    {membershipChanged : Bool} {resolved : ExecutionPolicyV4}
    (built : ExecutionPolicyV4.fromV5 primitives policy policyHash activeMembers opening
      membershipChanged = .ok resolved)
    (checked : resolved.validatePostState primitives opening.storageSnapshot terminal = .ok ())
    (noZero : NoZeroSlots terminal) (committed : CodeCommitted policy.code terminal)
    (changed : Bool) :
    ExecutionPolicyV4.fromV5 primitives policy policyHash activeMembers terminal changed =
      .ok { resolved with membershipChanged := changed } := by
  obtain ⟨pinned, callRules, regions, participant, builds, rfl⟩ := fromV5_eq_ok.mp built
  obtain ⟨pinnedHashes, pinnedAddresses⟩ := pinCodes_spec builds.pins
  have kept : ∀ code ∈ policy.code, HasCode primitives terminal.accounts code :=
    fun code member => validatePostState_hasCode rfl checked (pinnedHashes code member)
  have codePinned : ∀ entry ∈ terminal.accounts.toList,
      ¬ (entry.2.code ≠ [] ∧ pinned.2.contains entry.1 = false) := by
    rintro ⟨address, account⟩ member ⟨executable, outside⟩
    have present := Std.ExtTreeMap.mem_toList_iff_getElem?_eq_some.mp member
    rw [(pinnedAddresses address).mpr (committed address account present executable)] at outside
    exact absurd outside (by decide)
  refine fromV5_eq_ok.mpr ⟨pinned, callRules, regions, participant, ?_, rfl⟩
  exact { builds with
    pins := pinCodes_transfer builds.pins kept
    codePinned := codePinned
    stored := storedSlots_transfer builds.stored (validatePostState_writes rfl checked) noZero }

end Mirror

/-- The public mirror answers what the guest answers. -/
theorem rejection_mirror_agrees (externals : Externals) (policy : ExecutionPolicyV5)
    (policyHash : B256) (activeMembers : BTreeSet Address) (opening terminal : StateMap)
    (membershipChanged : Bool) (resolved : ExecutionPolicyV4)
    (built : ExecutionPolicyV4.fromV5 externals.toPrimitives policy policyHash activeMembers
      opening membershipChanged = .ok resolved)
    (accepted : resolved.validatePostState externals.toPrimitives opening.storageSnapshot
      terminal = .ok ())
    (noZero : NoZeroSlots terminal) (committed : CodeCommitted policy.code terminal)
    (deploymentDomain : B256) (roomId : U64) (raw : Bytes) :
    deriveForcedRejectionReasonV5 externals raw deploymentDomain roomId policy policyHash
        activeMembers terminal =
      .ok (forcedRejectionReasonV5 externals raw
        (roomChainIdV5 externals.keccak256 deploymentDomain roomId) resolved terminal) := by
  unfold deriveForcedRejectionReasonV5
  rw [fromV5_transfer built accepted noZero committed false]
  rfl

/-- The sample room before and after its first exit, with the policy of the one checked
against the other. -/
def sampleReached : Except StfError (StateMap × StateMap × ExecutionPolicyV4) := do
  let opening ← verifyCompactStateV4 samplePrimitives (sampleCompactState 0 sampleEmptyQueue)
  let terminal ← verifyCompactStateV4 samplePrimitives
    (sampleCompactState 1 [(0, 1), (1, 3), (2, 7), (3, 1)])
  let resolved ← (ExecutionPolicyV4.fromV5 samplePrimitives samplePolicy
    (executionPolicyHashV5 sampleDigest samplePolicy) syntheticRoster opening true).mapError
    .certifiedPolicy
  (resolved.validatePostState samplePrimitives opening.storageSnapshot terminal).mapError
    .certifiedPolicy
  pure (opening, terminal, resolved)

theorem rejection_mirror_agrees_sample :
    ∃ opening terminal resolved, sampleReached = .ok (opening, terminal, resolved) ∧
      terminal.storageAt 12 0 ≠ opening.storageAt 12 0 ∧
      ∀ raw, deriveForcedRejectionReasonV5 sampleExternals raw 1 1 samplePolicy
          (executionPolicyHashV5 sampleDigest samplePolicy) syntheticRoster terminal =
        .ok (forcedRejectionReasonV5 sampleExternals raw sampleChainId resolved terminal) := by
  have evaluated : sampleReached.toOption.map (fun states =>
      decide (states.2.1.storageAt 12 0 ≠ states.1.storageAt 12 0) &&
        states.2.1.accounts.toList.all fun entry => decide (entry.2.code ≠ [] →
          ∃ code ∈ samplePolicy.code, code.address = entry.1)) = some true := by
    decide +kernel
  obtain ⟨⟨opening, terminal, resolved⟩, reached, both⟩ := toOption_map_eq_some evaluated
  rw [Bool.and_eq_true, decide_eq_true_eq, List.all_eq_true] at both
  refine ⟨opening, terminal, resolved, reached, both.1, fun raw => ?_⟩
  unfold sampleReached at reached
  obtain ⟨opening, -, reached⟩ := bind_eq_ok.mp reached
  obtain ⟨terminal, verified, reached⟩ := bind_eq_ok.mp reached
  obtain ⟨resolved, built, reached⟩ := bind_eq_ok.mp reached
  obtain ⟨⟨⟩, checked, reached⟩ := bind_eq_ok.mp reached
  cases pure_eq_ok.mp reached
  have compact := verifyCompactStateV4_isCompact verified
  refine rejection_mirror_agrees sampleExternals samplePolicy _ _ opening terminal true resolved
    (mapError_eq_ok.mp built) (mapError_eq_ok.mp checked) ?_ ?_ 1 1 raw
  · exact fun address account present => (compact.records address account present).slotsLive
  · intro address account present
    exact of_decide_eq_true (both.2 (address, account)
      (Std.ExtTreeMap.mem_toList_iff_getElem?_eq_some.mpr present))

end Zkdeal

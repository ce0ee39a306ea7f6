/-
This file is about the writers of room storage. Three of them act on a batch:
the mirror of an import, the deposit credit and the blocks. The comparison at the
end of a batch covers the blocks, and the policy constructor covers the mirror; the credit
raises a balance slot that neither of them looks at, so it is the one writer that
can leave the writable regions.
-/

import Zkdeal.Deposits
import Zkdeal.ImportMirror

namespace Zkdeal

open Words Guard

/-! ### Writes -/

/-- Storage changes only where it is allowed to. -/
def WritesWithin (allowed : Address → U256 → Prop) (before after : StateMap) : Prop :=
  ∀ contract slot, after.storageAt contract slot ≠ before.storageAt contract slot →
    allowed contract slot

section Writes

variable {allowed : Address → U256 → Prop}

theorem WritesWithin.refl (state : StateMap) : WritesWithin allowed state state :=
  fun _ _ changed => absurd rfl changed

theorem WritesWithin.trans {first second third : StateMap}
    (earlier : WritesWithin allowed first second) (later : WritesWithin allowed second third) :
    WritesWithin allowed first third := by
  intro contract slot changed
  by_cases early : second.storageAt contract slot = first.storageAt contract slot
  · exact later contract slot fun same => changed (same.trans early)
  · exact earlier contract slot early

/-- A slot that may not be written keeps its value. -/
theorem WritesWithin.kept {before after : StateMap} (writes : WritesWithin allowed before after)
    {contract : Address} {slot : U256} (forbidden : ¬ allowed contract slot) :
    after.storageAt contract slot = before.storageAt contract slot :=
  not_not.mp fun changed => forbidden (writes contract slot changed)

end Writes

/-! ### The import mirror -/

section Mirror

variable {primitives : Primitives} {input : BatchInputV5}

/-- The slots a policy mirrors L1 values into. -/
def Mirrored (policy : ExecutionPolicyV5) (contract : Address) (slot : U256) : Prop :=
  ∃ binding ∈ policy.imports, binding.roomContract = contract ∧ binding.roomSlot = slot

/-- An import writes mirrored slots only, and leaves the envelope as it is. -/
theorem verifyAndApplyImportV5_spec {before after : StateMap}
    (imported : verifyAndApplyImportV5 primitives input before = .ok after) :
    after.accessStorage = before.accessStorage ∧
      WritesWithin (Mirrored input.policy) before after := by
  unfold verifyAndApplyImportV5 at imported
  split at imported
  · obtain ⟨-, -, imported⟩ := bind_eq_ok.mp imported
    rw [← pure_eq_ok.mp imported]
    exact ⟨rfl, WritesWithin.refl before⟩
  · have applied := applyImport_spec imported
    have envelope : after.accessStorage = before.accessStorage := by
      rw [← applied.wrote.rest]
    refine ⟨envelope, fun contract slot changed => ?_⟩
    by_contra outside
    refine changed ((congrFun applied.wrote.memory (contract, slot)).trans
      (Writes.apply_of_notMem fun write listed same => outside ?_))
    obtain ⟨binding, certified, rfl⟩ := List.mem_map.mp listed
    obtain ⟨sameContract, sameSlot⟩ := Prod.mk.inj same
    exact ⟨binding, (List.mem_filter.mp certified).1, sameContract, sameSlot⟩

end Mirror

/-! ### The blocks -/

/-- A slot of the snapshot is the slot of the state it was taken of. -/
theorem storageSnapshot_slot (state : StateMap) (address : Address) (slot : U256) :
    (state.storageSnapshot[address]?.bind fun storage => storage[slot]?).getD 0 =
      state.storageAt address slot := by
  unfold StateMap.storageSnapshot StateMap.storageAt
  rw [Std.ExtTreeMap.getElem?_map]
  cases state.accounts[address]? with
  | none => rfl
  | some account => exact Std.ExtTreeMap.getD_eq_getD_getElem?.symm

/-- A slot of an account in the terminal state, as the comparison reads it. -/
theorem account_slot (state : StateMap) (address : Address) (slot : U256) :
    (state.accounts[address]?.bind fun account => account.storage[slot]?).getD 0 =
      state.storageAt address slot := by
  unfold StateMap.storageAt
  cases state.accounts[address]? with
  | none => rfl
  | some account => exact Std.ExtTreeMap.getD_eq_getD_getElem?.symm

theorem mem_toList_ofList {Key : Type} [Ord Key] [BEq Key] [LawfulBEq Key]
    [Std.TransCmp (compare : Key → Key → Ordering)]
    [Std.LawfulEqCmp (compare : Key → Key → Ordering)]
    [Std.LawfulBEqCmp (compare : Key → Key → Ordering)] {keys : List Key} {key : Key} :
    key ∈ (Std.ExtTreeSet.ofList keys compare).toList ↔ key ∈ keys := by
  rw [Std.ExtTreeSet.mem_toList, Std.ExtTreeSet.mem_ofList, List.contains_iff_mem]

/-- The comparison at the end of a batch: every changed slot is in a writable region. -/
theorem validatePostState_writes {primitives : Primitives} {policy : ExecutionPolicyV4}
    {before after : StateMap} {done : Unit} (certified : policy.certified = true)
    (checked : policy.validatePostState primitives before.storageSnapshot after = .ok done) :
    WritesWithin (fun contract slot => writableBy policy.storageNamespaces contract slot = true)
      before after := by
  unfold ExecutionPolicyV4.validatePostState at checked
  rw [if_neg (by simp [certified])] at checked
  obtain ⟨-, -, checked⟩ := bind_eq_ok.mp checked
  obtain ⟨⟨⟩, changes, -⟩ := bind_eq_ok.mp checked
  rw [forEach_eq_ok] at changes
  intro contract slot changed
  rw [← storageSnapshot_slot before, ← account_slot after] at changed
  have listed : contract ∈ before.storageSnapshot.keys ++ after.accounts.keys := by
    by_contra absent
    simp only [List.mem_append, Std.ExtTreeMap.mem_keys, not_or] at absent
    rw [Std.ExtTreeMap.getElem?_eq_none absent.1, Std.ExtTreeMap.getElem?_eq_none absent.2]
      at changed
    exact changed rfl
  have account := changes contract (mem_toList_ofList.mpr listed)
  unfold ExecutionPolicyV4.checkAccountChange at account
  rw [forEach_eq_ok] at account
  have stored : slot ∈ (before.storageSnapshot[contract]?.map fun storage =>
      storage.keys).getD [] ++
      (after.accounts[contract]?.map fun account => account.storage.keys).getD [] := by
    by_contra absent
    rw [List.mem_append, not_or] at absent
    refine changed ?_
    have gone : (after.accounts[contract]?.bind fun account => account.storage[slot]?) = none := by
      cases present : after.accounts[contract]? with
      | none => rfl
      | some account =>
        rw [present, Option.map_some, Option.getD_some, Std.ExtTreeMap.mem_keys] at absent
        exact Std.ExtTreeMap.getElem?_eq_none absent.2
    have never : (before.storageSnapshot[contract]?.bind fun storage => storage[slot]?) =
        none := by
      cases present : before.storageSnapshot[contract]? with
      | none => rfl
      | some storage =>
        rw [present, Option.map_some, Option.getD_some, Std.ExtTreeMap.mem_keys] at absent
        exact Std.ExtTreeMap.getElem?_eq_none absent.1
    rw [gone, never]
  have kept := refuse_eq_ok.mp (account slot (mem_toList_ofList.mpr stored))
  rw [not_and, Bool.not_eq_false] at kept
  exact kept (Ne.symm changed)

/-! ### The envelope of a batch -/

/-- The slot is in a region of the policy that is marked writable. -/
def Writable (policy : ExecutionPolicyV5) (contract : Address) (slot : U256) : Prop :=
  writableBy (policy.storage.map StorageNamespaceV5.resolved) contract slot = true

instance (policy : ExecutionPolicyV5) (contract : Address) (slot : U256) :
    Decidable (Writable policy contract slot) :=
  inferInstanceAs (Decidable (_ = true))

/-- A batch changes storage only inside the writable regions of its policy, exactly when every
balance slot its deposits are credited to is inside them. -/
theorem write_envelope_iff {externals : Externals} (batch : AcceptedBatch externals) :
    WritesWithin (Writable batch.input.policy) batch.opened.opening batch.terminal ↔
      ∀ deposit ∈ batch.input.deposits, ∀ contract slot,
        CreditsSlot externals.keccak256 batch.input deposit contract slot →
        Writable batch.input.policy contract slot := by
  have opens := openBatch_spec batch.opens
  have mirror : WritesWithin (Writable batch.input.policy) batch.opened.opening
      batch.opened.imported := by
    intro contract slot changed
    obtain ⟨binding, member, rfl, rfl⟩ :=
      (verifyAndApplyImportV5_spec opens.imported).2 contract slot changed
    have writable := opens.policy.importsWritable binding member
    rwa [opens.policy.storageNamespaces] at writable
  have blocks : WritesWithin (Writable batch.input.policy) batch.opened.credited
      batch.terminal := by
    have writes := validatePostState_writes opens.policy.certified
      (settleBatch_spec batch.settles).postState
    rw [opens.policy.storageNamespaces] at writes
    intro contract slot changed
    refine writes contract slot ?_
    rwa [StateMap.storageAt_eq_getD batch.opened.prepared, opens.prepared,
      ← StateMap.storageAt_eq_getD]
  constructor
  · intro within deposit member contract slot credits
    by_contra forbidden
    have raised := (applyDepositCreditsV5_storageAt opens.credited contract slot).1
      ⟨deposit, member, credits⟩
    rw [mirror.kept forbidden, ← blocks.kept forbidden, within.kept forbidden] at raised
    exact absurd raised (lt_irrefl _)
  · intro credits
    refine mirror.trans (WritesWithin.trans (fun contract slot changed => ?_) blocks)
    by_cases credited : ∃ deposit ∈ batch.input.deposits,
        CreditsSlot externals.keccak256 batch.input deposit contract slot
    · obtain ⟨deposit, member, here⟩ := credited
      exact credits deposit member contract slot here
    · exact absurd ((applyDepositCreditsV5_storageAt opens.credited contract slot).2 credited)
        changed

/-- A deposit of the declared asset raises a balance slot of the token, whose region the
policy marks read-only. -/
theorem write_envelope_left :
    ∃ batch : AcceptedBatch sampleExternals, batch.input = sampleComposed sampleDepositBatch ∧
      ∃ contract slot, batch.terminal.storageAt contract slot ≠
          batch.opened.opening.storageAt contract slot ∧
        ¬ Writable batch.input.policy contract slot := by
  obtain ⟨batch, same, composed, changed⟩ := exists_sampleBatch sampleDepositBatch
    (fun opened closed => closed.state.storageAt 13 (mappingSlotV5 sampleDigest 3 0) ≠
      opened.opening.storageAt 13 (mappingSlotV5 sampleDigest 3 0)) (by decide +kernel)
  refine ⟨batch, same, 13, mappingSlotV5 sampleDigest 3 0, of_decide_eq_true changed, ?_⟩
  rw [composed.policy]
  decide

end Zkdeal

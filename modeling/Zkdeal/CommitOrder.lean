/-
This file is about the order in which a commit visits its changes. The interpreter
hands the changed accounts back in hash maps, so the order of the accounts and of
the slots of each of them is not determined. No order can be told from another: the
commit of an account reads and writes the state at its own address only, what it adds
to the counters does not depend on the state, and of the latched violation only the
presence is compared.
-/

import Zkdeal.Library.Reordering
import Zkdeal.Continuation

namespace Zkdeal

open Words Guard Maps

/-! ### States and changes up to order -/

/-- Two states that differ at most in which violation is latched. -/
structure StateMap.Alike (first second : StateMap) : Prop where
  accounts : first.accounts = second.accounts
  preparedCodeAddresses : first.preparedCodeAddresses = second.preparedCodeAddresses
  accessMetrics : first.accessMetrics = second.accessMetrics
  accessViolation : first.accessViolation.isSome = second.accessViolation.isSome
  blockHashes : first.blockHashes = second.blockHashes
  accessAccounts : first.accessAccounts = second.accessAccounts
  accessStorage : first.accessStorage = second.accessStorage
  preparedCode : first.preparedCode = second.preparedCode

theorem StateMap.alike_equivalence : Equivalence StateMap.Alike where
  refl _ := ⟨rfl, rfl, rfl, rfl, rfl, rfl, rfl, rfl⟩
  symm alike :=
    ⟨alike.accounts.symm, alike.preparedCodeAddresses.symm, alike.accessMetrics.symm,
      alike.accessViolation.symm, alike.blockHashes.symm, alike.accessAccounts.symm,
      alike.accessStorage.symm, alike.preparedCode.symm⟩
  trans first second :=
    ⟨first.accounts.trans second.accounts,
      first.preparedCodeAddresses.trans second.preparedCodeAddresses,
      first.accessMetrics.trans second.accessMetrics,
      first.accessViolation.trans second.accessViolation,
      first.blockHashes.trans second.blockHashes,
      first.accessAccounts.trans second.accessAccounts,
      first.accessStorage.trans second.accessStorage,
      first.preparedCode.trans second.preparedCode⟩

/-- The same changes of one account, its slots in another order. -/
structure EvmAccount.SameSlots (first second : EvmAccount) : Prop where
  fields : second = { first with storage := second.storage }
  slots : first.storage.entries.Perm second.storage.entries

/-- The same changes, the slots of every account in another order, and then the accounts. -/
def AccountChanges.Reordered (first second : AccountChanges) : Prop :=
  ∃ visited : List (Address × EvmAccount),
    List.Forall₂ (fun change other => change.1 = other.1 ∧ change.2.SameSlots other.2)
      first.entries visited ∧
      visited.Perm second.entries

/-! ### What one commit does -/

section Commit

variable (primitives : Primitives)

/-- The record a commit leaves where it found one. -/
def committedRecord (account : EvmAccount) (found : Option AccountRecord) :
    Option AccountRecord :=
  if account.isTouched then
    let record := mergeRecord primitives (found.getD default) account
    if account.isSelfdestructed || record.isEmpty then none else some record
  else found

/-- The prepared code hash a commit leaves where it found one. -/
def committedCode (account : EvmAccount) (found : Option AccountRecord) (prepared : Option B256) :
    Option B256 :=
  if account.isTouched then
    match committedRecord primitives account found with
    | some record => prepared.filter fun expected => !(record.codeHash primitives != expected)
    | none => none
  else prepared

/-- The counters after the commit of one account. -/
def countedWrites (account : EvmAccount) (metrics : DbAccessMetrics) : DbAccessMetrics :=
  if account.isTouched then
    { metrics with
      accountWrites := saturatingAdd metrics.accountWrites 1
      storageWrites := saturatingAdd metrics.storageWrites (lengthWord account.storage.entries) }
  else metrics

/-- Whether a commit writes outside the envelope of a state. -/
def StateMap.violatedBy (state : StateMap) (change : Address × EvmAccount) : Bool :=
  change.2.isTouched && (!state.declaresAccount change.1 ||
    change.2.storage.entries.any fun entry => !state.declaresStorage change.1 entry.1)

/-- What the commit of one account does to a state. -/
structure CommitsAccount (before : StateMap) (change : Address × EvmAccount) (after : StateMap) :
    Prop where
  accounts : ∀ address : Address, after.accounts[address]? =
    if change.1 = address then committedRecord primitives change.2 before.accounts[address]?
    else before.accounts[address]?
  preparedCodeAddresses : ∀ address : Address, after.preparedCodeAddresses[address]? =
    if change.1 = address then
      committedCode primitives change.2 before.accounts[address]?
        before.preparedCodeAddresses[address]?
    else before.preparedCodeAddresses[address]?
  accessMetrics : after.accessMetrics = countedWrites change.2 before.accessMetrics
  accessViolation : after.accessViolation.isSome =
    (before.accessViolation.isSome || before.violatedBy change)
  blockHashes : after.blockHashes = before.blockHashes
  accessAccounts : after.accessAccounts = before.accessAccounts
  accessStorage : after.accessStorage = before.accessStorage
  preparedCode : after.preparedCode = before.preparedCode

variable {primitives}

theorem latchViolation_isSome {state : StateMap} {change : Address × EvmAccount}
    (touched : change.2.isTouched = true) :
    (state.latchViolation change.1 change.2).isSome =
      (state.accessViolation.isSome || state.violatedBy change) := by
  rw [Bool.eq_iff_iff, ← not_iff_not, Bool.not_eq_true, Option.isSome_eq_false_iff,
    Option.isNone_iff_eq_none, StateMap.latchViolation_eq_none, StateMap.violatedBy, touched]
  simp

theorem filter_not_eq {Value : Type} (found : Option Value) (drops : Value → Bool) :
    (found.filter fun value => !drops value) = if found.any drops then none else found := by
  cases found with
  | none => rfl
  | some value => cases dropped : drops value <;> simp [dropped]

variable (primitives) in
theorem commitAccount_commits (state : StateMap) (change : Address × EvmAccount) :
    CommitsAccount primitives state change (state.commitAccount primitives change) := by
  unfold StateMap.commitAccount
  cases touched : change.2.isTouched with
  | false =>
    rw [if_neg Bool.false_ne_true]
    constructor
    · intro address
      rw [committedRecord, touched, if_neg Bool.false_ne_true, ite_self]
    · intro address
      rw [committedCode, touched, if_neg Bool.false_ne_true, ite_self]
    · rw [countedWrites, touched, if_neg Bool.false_ne_true]
    · rw [StateMap.violatedBy, touched, Bool.false_and, Bool.or_false]
    all_goals rfl
  | true =>
    rw [if_pos rfl]
    have found : state.accounts.getD change.1 default = state.accounts[change.1]?.getD default :=
      Std.ExtTreeMap.getD_eq_getD_getElem?
    dsimp only
    rw [found]
    generalize recordIs : mergeRecord primitives (state.accounts[change.1]?.getD default)
      change.2 = record
    cases gone : change.2.isSelfdestructed || record.isEmpty with
    | true =>
      have leaves : committedRecord primitives change.2 state.accounts[change.1]? = none := by
        rw [committedRecord, touched, if_pos rfl, recordIs]
        exact if_pos gone
      rw [if_pos rfl]
      refine ⟨fun address => ?_, fun address => ?_, ?_, latchViolation_isSome touched, rfl, rfl,
        rfl, rfl⟩
      · rw [getElem?_erase_eq]
        refine ite_congr rfl (fun same => ?_) fun _ => rfl
        rw [← same, leaves]
      · rw [getElem?_erase_eq]
        refine ite_congr rfl (fun same => ?_) fun _ => rfl
        rw [← same, committedCode, touched, if_pos rfl, leaves]
      · rw [countedWrites, touched, if_pos rfl]
    | false =>
      have leaves : committedRecord primitives change.2 state.accounts[change.1]? =
          some record := by
        rw [committedRecord, touched, if_pos rfl, recordIs]
        exact if_neg (by rw [gone]; decide)
      rw [if_neg Bool.false_ne_true]
      refine ⟨fun address => ?_, fun address => ?_, ?_, latchViolation_isSome touched, rfl, rfl,
        rfl, rfl⟩
      · rw [getElem?_insert_eq]
        refine ite_congr rfl (fun same => ?_) fun _ => rfl
        rw [← same, leaves]
      · have keeps : committedCode primitives change.2 state.accounts[change.1]?
            state.preparedCodeAddresses[change.1]? =
            if state.preparedCodeAddresses[change.1]?.any
              (fun expected => record.codeHash primitives != expected) then none
            else state.preparedCodeAddresses[change.1]? := by
          rw [committedCode, touched, if_pos rfl, leaves]
          exact filter_not_eq _ _
        dsimp only
        split
        case isTrue changed =>
          rw [getElem?_erase_eq]
          refine ite_congr rfl (fun same => ?_) fun _ => rfl
          rw [← same, keeps, if_pos changed]
        case isFalse unchanged =>
          split
          case isTrue same => rw [← same, keeps, if_neg unchanged]
          case isFalse => rfl
      · rw [countedWrites, touched, if_pos rfl]

/-! ### Two commits -/

theorem getElem?_writeSlot (storage : BTreeMap U256 U256) (entry : U256 × U256) (slot : U256) :
    (writeSlot storage entry)[slot]? =
      if entry.1 = slot then (if entry.2 = 0 then none else some entry.2) else storage[slot]? := by
  unfold writeSlot
  split
  case isTrue => exact getElem?_erase_eq storage entry.1 slot
  case isFalse => exact getElem?_insert_eq storage entry.1 slot entry.2

/-- The merged record does not depend on the order of the slots: they are distinct. -/
theorem mergeRecord_eq {first second : EvmAccount} (same : first.SameSlots second)
    (record : AccountRecord) :
    mergeRecord primitives record first = mergeRecord primitives record second := by
  have commutes : ∀ left ∈ first.storage.entries, ∀ right ∈ first.storage.entries,
      ∀ storage, writeSlot (writeSlot storage left) right =
        writeSlot (writeSlot storage right) left := by
    intro left leftMember right rightMember storage
    by_cases equal : left.1 = right.1
    · rw [List.inj_on_of_nodup_map first.storage.distinct leftMember rightMember equal]
    · refine Std.ExtTreeMap.ext_getElem? fun slot => ?_
      simp only [getElem?_writeSlot]
      by_cases atLeft : left.1 = slot
      · have elsewhere : ¬ right.1 = slot := fun atRight => equal (atLeft.trans atRight.symm)
        rw [if_neg elsewhere, if_pos atLeft, if_pos atLeft]
      · rw [if_neg atLeft, if_neg atLeft]
  rw [same.fields]
  unfold mergeRecord
  dsimp only
  rw [same.slots.foldl_eq' commutes]

theorem committedRecord_eq {first second : EvmAccount} (same : first.SameSlots second) :
    committedRecord primitives first = committedRecord primitives second := by
  funext found
  unfold committedRecord
  rw [mergeRecord_eq same, same.fields]

theorem committedCode_eq {first second : EvmAccount} (same : first.SameSlots second) :
    committedCode primitives first = committedCode primitives second := by
  funext found prepared
  unfold committedCode
  rw [committedRecord_eq same, same.fields]

theorem countedWrites_eq {first second : EvmAccount} (same : first.SameSlots second) :
    countedWrites first = countedWrites second := by
  funext metrics
  unfold countedWrites lengthWord
  rw [same.slots.length_eq, same.fields]

/-- Only the envelope of a state decides about a violation. -/
theorem violatedBy_eq {state other : StateMap}
    (accounts : state.accessAccounts = other.accessAccounts)
    (storage : state.accessStorage = other.accessStorage) (address : Address)
    {first second : EvmAccount} (same : first.SameSlots second) :
    state.violatedBy (address, first) = other.violatedBy (address, second) := by
  unfold StateMap.violatedBy StateMap.declaresAccount StateMap.declaresStorage
  rw [accounts, storage, same.fields]
  dsimp only
  rw [same.slots.any_eq]

/-- Alike states stay alike over the commit of one account. -/
theorem commitAccount_alike {state other : StateMap} (alike : state.Alike other)
    {change twin : Address × EvmAccount} (address : change.1 = twin.1)
    (same : change.2.SameSlots twin.2) :
    (state.commitAccount primitives change).Alike (other.commitAccount primitives twin) := by
  obtain ⟨account, changed⟩ := change
  obtain ⟨account, changedTwin⟩ := twin
  obtain rfl : _ = account := address
  have left := commitAccount_commits primitives state (account, changed)
  have right := commitAccount_commits primitives other (account, changedTwin)
  constructor
  · refine Std.ExtTreeMap.ext_getElem? fun key => ?_
    rw [left.accounts, right.accounts, alike.accounts, committedRecord_eq same]
  · refine Std.ExtTreeMap.ext_getElem? fun key => ?_
    rw [left.preparedCodeAddresses, right.preparedCodeAddresses, alike.accounts,
      alike.preparedCodeAddresses, committedCode_eq same]
  · rw [left.accessMetrics, right.accessMetrics, alike.accessMetrics, countedWrites_eq same]
  · rw [left.accessViolation, right.accessViolation, alike.accessViolation,
      violatedBy_eq alike.accessAccounts alike.accessStorage account same]
  · rw [left.blockHashes, right.blockHashes, alike.blockHashes]
  · rw [left.accessAccounts, right.accessAccounts, alike.accessAccounts]
  · rw [left.accessStorage, right.accessStorage, alike.accessStorage]
  · rw [left.preparedCode, right.preparedCode, alike.preparedCode]

theorem countedWrites_comm (first second : EvmAccount) (metrics : DbAccessMetrics) :
    countedWrites second (countedWrites first metrics) =
      countedWrites first (countedWrites second metrics) := by
  unfold countedWrites
  cases first.isTouched with
  | false => rfl
  | true =>
    cases second.isTouched with
    | false => rfl
    | true =>
      simp only [↓reduceIte]
      rw [saturatingAdd_right_comm metrics.storageWrites]

/-- The commits of two accounts commute. -/
theorem commitAccount_commutes (state : StateMap) {change other : Address × EvmAccount}
    (apart : change.1 ≠ other.1) :
    ((state.commitAccount primitives change).commitAccount primitives other).Alike
      ((state.commitAccount primitives other).commitAccount primitives change) := by
  have first := commitAccount_commits primitives state change
  have second := commitAccount_commits primitives state other
  have firstThen := commitAccount_commits primitives
    (state.commitAccount primitives change) other
  have secondThen := commitAccount_commits primitives
    (state.commitAccount primitives other) change
  have sameSelf (account : EvmAccount) : account.SameSlots account := ⟨rfl, .refl _⟩
  constructor
  · refine Std.ExtTreeMap.ext_getElem? fun key => ?_
    rw [firstThen.accounts, secondThen.accounts, first.accounts, second.accounts]
    by_cases here : change.1 = key
    · have elsewhere : ¬ other.1 = key := fun there => apart (here.trans there.symm)
      rw [if_pos here, if_neg elsewhere, if_neg elsewhere, if_pos here]
    · rw [if_neg here, if_neg here]
  · refine Std.ExtTreeMap.ext_getElem? fun key => ?_
    rw [firstThen.preparedCodeAddresses, secondThen.preparedCodeAddresses,
      first.preparedCodeAddresses, second.preparedCodeAddresses, first.accounts, second.accounts]
    by_cases here : change.1 = key
    · have elsewhere : ¬ other.1 = key := fun there => apart (here.trans there.symm)
      simp only [if_pos here, if_neg elsewhere]
    · simp only [if_neg here]
  · rw [firstThen.accessMetrics, secondThen.accessMetrics, first.accessMetrics,
      second.accessMetrics, countedWrites_comm]
  · have firstEnvelope := violatedBy_eq first.accessAccounts first.accessStorage other.1
      (sameSelf other.2)
    have secondEnvelope := violatedBy_eq second.accessAccounts second.accessStorage change.1
      (sameSelf change.2)
    rw [firstThen.accessViolation, secondThen.accessViolation, first.accessViolation,
      second.accessViolation, firstEnvelope, secondEnvelope, Bool.or_right_comm]
  · rw [firstThen.blockHashes, secondThen.blockHashes, first.blockHashes, second.blockHashes]
  · rw [firstThen.accessAccounts, secondThen.accessAccounts, first.accessAccounts,
      second.accessAccounts]
  · rw [firstThen.accessStorage, secondThen.accessStorage, first.accessStorage,
      second.accessStorage]
  · rw [firstThen.preparedCode, secondThen.preparedCode, first.preparedCode,
      second.preparedCode]

end Commit

/-- No order of the accounts and the slots of a change map can be told from another. -/
theorem commit_order_independent (primitives : Primitives) (state : StateMap)
    (first second : AccountChanges) (reordered : first.Reordered second) :
    (state.commit primitives first).Alike (state.commit primitives second) := by
  obtain ⟨visited, slots, accounts⟩ := reordered
  have distinct : visited.Pairwise fun change other => change.1 ≠ other.1 := by
    have keys : (visited.map Prod.fst).Nodup :=
      (accounts.map Prod.fst).nodup_iff.mpr second.distinct
    exact List.pairwise_map.mp keys
  have renamed : (state.commit primitives first).Alike
      (visited.foldl (StateMap.commitAccount primitives) state) := by
    refine Reordering.foldl_alike_of_forall₂ ?_ slots (StateMap.alike_equivalence.refl state)
    exact fun _ _ _ _ alike same => commitAccount_alike alike same.1 same.2
  refine StateMap.alike_equivalence.trans renamed ?_
  refine Reordering.foldl_alike_of_perm StateMap.alike_equivalence Ne.symm ?_ ?_ accounts distinct
    state
  · exact fun _ _ _ alike => commitAccount_alike alike rfl ⟨rfl, .refl _⟩
  · exact fun state _ _ apart => commitAccount_commutes state apart

/-- Two changes of the sample room: one account with two slots, and one that goes away. -/
def sampleChangeMap : AccountChanges where
  entries := [(3, ⟨true, false, false, 1, 5, 0, none, ⟨[(1, 4), (2, 0)], by decide⟩⟩),
    (4, ⟨true, true, false, 0, 0, 0, none, ⟨[], List.nodup_nil⟩⟩)]
  distinct := by decide

/-- The same changes in the other order. -/
def sampleChangeMapReordered : AccountChanges where
  entries := [(4, ⟨true, true, false, 0, 0, 0, none, ⟨[], List.nodup_nil⟩⟩),
    (3, ⟨true, false, false, 1, 5, 0, none, ⟨[(2, 0), (1, 4)], by decide⟩⟩)]
  distinct := by decide

/-- A room whose envelope both changes leave. -/
def sampleCommitState : StateMap :=
  let accounts : List (Address × AccountRecord) := [(3, ⟨7, 1, [], ∅⟩), (4, ⟨1, 0, [4], ∅⟩)]
  let storage : List (Address × BTreeSet U256) := [(3, .ofList [(1 : U256)])]
  .fromCompact (.ofList accounts) (.ofList [(3 : Address)]) (.ofList storage)

theorem commit_order_independent_sample :
    sampleChangeMap ≠ sampleChangeMapReordered ∧
      (sampleCommitState.commit samplePrimitives sampleChangeMap).Alike
        (sampleCommitState.commit samplePrimitives sampleChangeMapReordered) := by
  refine ⟨by decide, commit_order_independent _ _ _ _ ?_⟩
  refine ⟨sampleChangeMapReordered.entries.reverse, ?_, List.reverse_perm _⟩
  exact .cons ⟨rfl, rfl, .swap _ _ _⟩ (.cons ⟨rfl, rfl, .refl _⟩ .nil)

end Zkdeal

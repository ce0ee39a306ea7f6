/-
This file proves that the static commitment of a template pins everything a binding
may not refresh: two states with one commitment agree, account by account, on the
code, on the values no rule refreshes, and on the absence of other storage.

The commitment is three hashes deep. Each level is peeled with the one fact that equal
digests of messages that were hashed are digests of one message, or a collision.
-/

import Zkdeal.Settlement.ColdRoom
import Zkdeal.SparseCommitment

namespace Zkdeal

open Words Binding Guard Maps

/-! ### Rules -/

/-- Some rule for the account permits a change. -/
def Refreshable (stateRefresh : List ColdStateRefreshV4) (address : Address)
    (permits : ColdStateRefreshV4 → Prop) : Prop :=
  ∃ rule ∈ stateRefresh, rule.address = address ∧ permits rule

theorem coldRules_spec {stateRefresh : List ColdStateRefreshV4} :
    ∀ (address : Address) (rule : ColdStateRefreshV4),
      (coldRules stateRefresh)[address]? = some rule →
      rule ∈ stateRefresh ∧ rule.address = address := by
  induction stateRefresh using List.reverseRecOn with
  | nil =>
    intro address rule lookup
    rw [coldRules, List.foldl_nil, Std.ExtTreeMap.getElem?_empty] at lookup
    cases lookup
  | append_singleton front last inductionHypothesis =>
    rw [coldRules, List.foldl_append, ← coldRules, List.foldl_cons, List.foldl_nil]
    refine forall_getElem?_insert (fun address rule lookup => ?_) ⟨by simp, rfl⟩
    obtain ⟨member, address⟩ := inductionHypothesis address rule lookup
    exact ⟨List.mem_append_left _ member, address⟩

/-- A flag no rule of the account sets is not set by the rule that is looked up. -/
theorem coldRules_any_eq_false {stateRefresh : List ColdStateRefreshV4} {address : Address}
    {permits : ColdStateRefreshV4 → Bool}
    (fixed : ¬ Refreshable stateRefresh address fun rule => permits rule = true) :
    (coldRules stateRefresh)[address]?.any permits = false := by
  cases lookup : (coldRules stateRefresh)[address]? with
  | none => rfl
  | some rule =>
    obtain ⟨member, own⟩ := coldRules_spec address rule lookup
    exact Bool.eq_false_iff.mpr fun permitted => fixed ⟨rule, member, own, permitted⟩

/-! ### Accounts -/

/-- Two accounts that differ at most in what the rules refresh. -/
structure StaticallyEqual (stateRefresh : List ColdStateRefreshV4) (access : ColdStateAccessV4)
    (account other : AccountRecord) : Prop where
  code : account.code = other.code
  nonce : ¬ Refreshable stateRefresh access.address (fun rule => rule.refreshNonce = true) →
    account.nonce = other.nonce
  balance : ¬ Refreshable stateRefresh access.address (fun rule => rule.refreshBalance = true) →
    account.balance = other.balance
  storage : ¬ Refreshable stateRefresh access.address
      (fun rule => rule.refreshAllStorage = true) →
    ∀ slot, ¬ Refreshable stateRefresh access.address (fun rule => slot ∈ rule.storageSlots) →
      account.slot slot = other.slot slot
  outside : ¬ Refreshable stateRefresh access.address
      (fun rule => rule.refreshAllStorage = true) →
    ∀ slot ∉ access.storageSlots, account.slot slot = 0 ∧ other.slot slot = 0

section Messages

variable (primitives : Primitives)

/-- Every message hashed for one account. -/
def staticAccountMessages (access : ColdStateAccessV4) (rule : Option ColdStateRefreshV4)
    (account : AccountRecord) : List Bytes :=
  encodeWords (staticAccountWords primitives access rule account) :: account.code ::
    encodeWords (staticStorageWords primitives.keccak256 account (staticSlots rule access)) ::
    (staticSlots rule access).map fun slot =>
      encodeWords (staticSlotWords primitives.keccak256 account slot)

/-- Every message hashed for the account of a state. -/
def coldAccountMessages (state : StateMap) (rules : BTreeMap Address ColdStateRefreshV4)
    (access : ColdStateAccessV4) : List Bytes :=
  state.accounts[access.address]?.toList.flatMap
    (staticAccountMessages primitives access rules[access.address]?)

/-- The messages hashed for the commitment of a state, those of the access and refresh lists
apart. -/
def coldStaticMessages (state : StateMap) (stateAccess : List ColdStateAccessV4)
    (stateRefresh : List ColdStateRefreshV4) : List Bytes :=
  encodeWords (staticStateWords primitives.keccak256 stateAccess stateRefresh
      (stateAccess.flatMap fun access =>
        (staticAccountHash primitives state (coldRules stateRefresh) access).toOption.toList)) ::
    stateAccess.flatMap (coldAccountMessages primitives state (coldRules stateRefresh))

end Messages

section Pinned

variable {primitives : Primitives}

/-- What the hash of an account is taken of. -/
theorem staticAccountHash_spec {state : StateMap} {rules : BTreeMap Address ColdStateRefreshV4}
    {access : ColdStateAccessV4} {hash : B256}
    (hashed : staticAccountHash primitives state rules access = .ok hash) :
    ∃ account, state.accounts[access.address]? = some account ∧
      (rules[access.address]?.any ColdStateRefreshV4.refreshAllStorage = false →
        ∀ slot ∉ access.storageSlots, account.slot slot = 0) ∧
      primitives.keccak256 (encodeWords
        (staticAccountWords primitives access rules[access.address]? account)) = hash := by
  obtain ⟨account, found, hashed⟩ := bind_eq_ok.mp hashed
  obtain ⟨inside, done⟩ := refuse_bind_eq_ok.mp hashed
  refine ⟨account, orRefuse_eq_ok.mp found, fun keeps slot outside => ?_, pure_eq_ok.mp done⟩
  refine Std.ExtTreeMap.getD_eq_fallback fun stored => inside ⟨keeps, List.any_eq_true.mpr
    ⟨slot, Std.ExtTreeMap.mem_keys.mpr stored, ?_⟩⟩
  simpa using outside

theorem mem_staticSlots {rule : Option ColdStateRefreshV4} {access : ColdStateAccessV4}
    {slot : U256} (keeps : rule.any ColdStateRefreshV4.refreshAllStorage = false)
    (declared : slot ∈ access.storageSlots)
    (unlisted : rule.any (fun entry => entry.storageSlots.contains slot) = false) :
    slot ∈ staticSlots rule access := by
  rw [staticSlots, keeps]
  refine List.mem_filter.mpr ⟨declared, ?_⟩
  rw [unlisted]
  rfl

/-- Two accounts with one committed storage have the same values in it. -/
theorem slot_eq_of_staticStorageWords {messages : List Bytes}
    (clean : ¬ Collides primitives.keccak256 messages) {access : ColdStateAccessV4}
    {rule : Option ColdStateRefreshV4} {account other : AccountRecord}
    (accountHashed : staticAccountMessages primitives access rule account ⊆ messages)
    (otherHashed : staticAccountMessages primitives access rule other ⊆ messages)
    (same : staticStorageWords primitives.keccak256 account (staticSlots rule access) =
      staticStorageWords primitives.keccak256 other (staticSlots rule access))
    {slot : U256} (committed : slot ∈ staticSlots rule access) :
    account.slot slot = other.slot slot := by
  simp only [staticStorageWords, List.cons.injEq, true_and] at same
  have digests := List.map_inj_left.mp same slot committed
  have hashed : ∀ {record : AccountRecord},
      staticAccountMessages primitives access rule record ⊆ messages →
      encodeWords (staticSlotWords primitives.keccak256 record slot) ∈ messages :=
    fun included => included (List.mem_cons_of_mem _ (List.mem_cons_of_mem _
      (List.mem_cons_of_mem _ (List.mem_map_of_mem committed))))
  have words := encodeWords_injective
    (eq_of_hash_eq clean (hashed accountHashed) (hashed otherHashed) digests)
  simp only [staticSlotWords, List.cons.injEq, and_true, true_and] at words
  exact words

/-- Accounts with one hash are the same up to what the rules refresh. -/
theorem staticallyEqual_of_hash_eq {messages : List Bytes}
    (clean : ¬ Collides primitives.keccak256 messages)
    {stateRefresh : List ColdStateRefreshV4} {access : ColdStateAccessV4}
    {account other : AccountRecord}
    (accountHashed : staticAccountMessages primitives access
      (coldRules stateRefresh)[access.address]? account ⊆ messages)
    (otherHashed : staticAccountMessages primitives access
      (coldRules stateRefresh)[access.address]? other ⊆ messages)
    (accountInside : (coldRules stateRefresh)[access.address]?.any
        ColdStateRefreshV4.refreshAllStorage = false →
      ∀ slot ∉ access.storageSlots, account.slot slot = 0)
    (otherInside : (coldRules stateRefresh)[access.address]?.any
        ColdStateRefreshV4.refreshAllStorage = false →
      ∀ slot ∉ access.storageSlots, other.slot slot = 0)
    (same : primitives.keccak256 (encodeWords (staticAccountWords primitives access
        (coldRules stateRefresh)[access.address]? account)) =
      primitives.keccak256 (encodeWords (staticAccountWords primitives access
        (coldRules stateRefresh)[access.address]? other))) :
    StaticallyEqual stateRefresh access account other := by
  have words := encodeWords_injective (eq_of_hash_eq clean (accountHashed List.mem_cons_self)
    (otherHashed List.mem_cons_self) same)
  simp only [staticAccountWords, List.cons.injEq, and_true, true_and] at words
  obtain ⟨nonces, balances, codes, storages⟩ := words
  rw [codeHash_eq, codeHash_eq] at codes
  have storageWords := encodeWords_injective (eq_of_hash_eq clean
    (accountHashed (List.mem_cons_of_mem _ (List.mem_cons_of_mem _ List.mem_cons_self)))
    (otherHashed (List.mem_cons_of_mem _ (List.mem_cons_of_mem _ List.mem_cons_self))) storages)
  refine ⟨?_, fun fixed => ?_, fun fixed => ?_, fun keeps slot unlisted => ?_,
    fun keeps slot outside => ?_⟩
  · exact eq_of_hash_eq clean (accountHashed (List.mem_cons_of_mem _ List.mem_cons_self))
      (otherHashed (List.mem_cons_of_mem _ List.mem_cons_self)) codes
  · rw [coldRules_any_eq_false fixed] at nonces
    exact u256Word_injective nonces
  · rw [coldRules_any_eq_false fixed] at balances
    exact balances
  · have kept := coldRules_any_eq_false keeps
    by_cases declared : slot ∈ access.storageSlots
    · refine slot_eq_of_staticStorageWords clean accountHashed otherHashed storageWords
        (mem_staticSlots kept declared (coldRules_any_eq_false ?_))
      rintro ⟨rule, member, own, listed⟩
      exact unlisted ⟨rule, member, own, List.contains_iff_mem.mp listed⟩
    · rw [accountInside kept slot declared, otherInside kept slot declared]
  · have kept := coldRules_any_eq_false keeps
    exact ⟨accountInside kept slot outside, otherInside kept slot outside⟩

/-! ### States -/

/-- What the commitment of a state is taken of. -/
theorem coldStaticStateCommitmentV4_spec {state : StateMap}
    {stateAccess : List ColdStateAccessV4} {stateRefresh : List ColdStateRefreshV4}
    {commitment : B256}
    (committed : coldStaticStateCommitmentV4 primitives state stateAccess stateRefresh =
      .ok commitment) :
    ∃ accountHashes,
      stateAccess.mapM (staticAccountHash primitives state (coldRules stateRefresh)) =
        .ok accountHashes ∧
      encodeWords (staticStateWords primitives.keccak256 stateAccess stateRefresh
        accountHashes) ∈ coldStaticMessages primitives state stateAccess stateRefresh ∧
      primitives.keccak256 (encodeWords (staticStateWords primitives.keccak256 stateAccess
        stateRefresh accountHashes)) = commitment := by
  obtain ⟨⟨⟩, -, committed⟩ := bind_eq_ok.mp committed
  obtain ⟨accountHashes, ran, done⟩ := bind_eq_ok.mp committed
  refine ⟨accountHashes, ran, ?_, pure_eq_ok.mp done⟩
  have collected := flatMap_eq_of_mapM_eq_ok ran (fun hash => [hash])
    (fun access => (staticAccountHash primitives state (coldRules stateRefresh)
      access).toOption.toList) fun access hash hashed => by rw [hashed]; rfl
  rw [List.flatMap_singleton'] at collected
  rw [coldStaticMessages, ← collected]
  exact List.mem_cons_self

theorem staticAccountMessages_subset {state : StateMap} {stateAccess : List ColdStateAccessV4}
    {stateRefresh : List ColdStateRefreshV4} {access : ColdStateAccessV4}
    (listed : access ∈ stateAccess) {account : AccountRecord}
    (lookup : state.accounts[access.address]? = some account) :
    staticAccountMessages primitives access (coldRules stateRefresh)[access.address]? account ⊆
      coldStaticMessages primitives state stateAccess stateRefresh := by
  intro message member
  refine List.mem_cons_of_mem _ (List.mem_flatMap.mpr ⟨access, listed, ?_⟩)
  rw [coldAccountMessages, lookup]
  exact List.mem_flatMap.mpr ⟨account, List.mem_cons_self, member⟩

/-- Two states with one static commitment agree, on every account of the template, on its code
and on every value its rule does not refresh, and have no storage outside the template unless
all storage is refreshed; or messages hashed for the two commitments collide. -/
theorem coldStaticState_pinned {first second : StateMap} {stateAccess : List ColdStateAccessV4}
    {stateRefresh : List ColdStateRefreshV4} {commitment : B256}
    (firstCommitted : coldStaticStateCommitmentV4 primitives first stateAccess stateRefresh =
      .ok commitment)
    (secondCommitted : coldStaticStateCommitmentV4 primitives second stateAccess stateRefresh =
      .ok commitment) :
    (∀ access ∈ stateAccess, ∃ account other,
      first.accounts[access.address]? = some account ∧
      second.accounts[access.address]? = some other ∧
      StaticallyEqual stateRefresh access account other) ∨
    Collides primitives.keccak256
      (coldStaticMessages primitives first stateAccess stateRefresh ++
        coldStaticMessages primitives second stateAccess stateRefresh) := by
  refine or_iff_not_imp_right.mpr fun clean access listed => ?_
  obtain ⟨firstHashes, firstRan, firstTop, firstDigest⟩ :=
    coldStaticStateCommitmentV4_spec firstCommitted
  obtain ⟨secondHashes, secondRan, secondTop, secondDigest⟩ :=
    coldStaticStateCommitmentV4_spec secondCommitted
  have words := encodeWords_injective (eq_of_hash_eq clean (List.mem_append_left _ firstTop)
    (List.mem_append_right _ secondTop) (firstDigest.trans secondDigest.symm))
  simp only [staticStateWords, List.cons.injEq, true_and] at words
  rw [← words.2] at secondRan
  obtain ⟨hash, firstHash, secondHash⟩ := exists_eq_ok_of_mapM_eq firstRan secondRan listed
  obtain ⟨account, atFirst, firstInside, firstMessage⟩ := staticAccountHash_spec firstHash
  obtain ⟨other, atSecond, secondInside, secondMessage⟩ := staticAccountHash_spec secondHash
  refine ⟨account, other, atFirst, atSecond, staticallyEqual_of_hash_eq clean ?_ ?_ firstInside
    secondInside (firstMessage.trans secondMessage.symm)⟩
  · exact fun message member =>
      List.mem_append_left _ (staticAccountMessages_subset listed atFirst member)
  · exact fun message member =>
      List.mem_append_right _ (staticAccountMessages_subset listed atSecond member)

end Pinned

/-- A template with one contract, of which a binding may refresh the balance and slot one. -/
def sampleColdAccess : List ColdStateAccessV4 := [⟨17, [0, 1]⟩]

def sampleColdRefresh : List ColdStateRefreshV4 := [⟨17, false, true, false, [1]⟩]

/-- The contract with a balance and a value in slot one. -/
def sampleColdState (balance value : U256) : StateMap :=
  StateMap.fromInput [(17, ⟨1, balance, [0xfe], [(0, 7), (1, value)]⟩)]

theorem coldStaticState_pinned_sample :
    ∃ commitment,
      coldStaticStateCommitmentV4 samplePrimitives (sampleColdState 5 8) sampleColdAccess
        sampleColdRefresh = .ok commitment ∧
      coldStaticStateCommitmentV4 samplePrimitives (sampleColdState 9 3) sampleColdAccess
        sampleColdRefresh = .ok commitment ∧
      ((∀ access ∈ sampleColdAccess, ∃ account other,
          (sampleColdState 5 8).accounts[access.address]? = some account ∧
          (sampleColdState 9 3).accounts[access.address]? = some other ∧
          StaticallyEqual sampleColdRefresh access account other) ∨
        Collides samplePrimitives.keccak256
          (coldStaticMessages samplePrimitives (sampleColdState 5 8) sampleColdAccess
              sampleColdRefresh ++
            coldStaticMessages samplePrimitives (sampleColdState 9 3) sampleColdAccess
              sampleColdRefresh)) := by
  obtain ⟨commitment, committed⟩ : ∃ commitment,
      coldStaticStateCommitmentV4 samplePrimitives (sampleColdState 5 8) sampleColdAccess
        sampleColdRefresh = .ok commitment := exists_eq_ok_of_isSome (by decide +kernel)
  have refreshed : coldStaticStateCommitmentV4 samplePrimitives (sampleColdState 9 3)
      sampleColdAccess sampleColdRefresh = coldStaticStateCommitmentV4 samplePrimitives
        (sampleColdState 5 8) sampleColdAccess sampleColdRefresh := by decide +kernel
  exact ⟨commitment, committed, refreshed.trans committed,
    coldStaticState_pinned committed (refreshed.trans committed)⟩

end Zkdeal

/-
This file proves that the sparse state commitment binds.

The root nests a counted, padded storage tree inside the account leaves of
another such tree, and skips empty accounts and zero slots. A compact state has
neither, so nothing is skipped: equal roots of two states an accepted witness
describes come from equal account maps, unless two of the messages hashed on the
way collide.
-/

import Zkdeal.Compact

namespace Zkdeal

open Words Binding

/-! ### One tree -/

section Tree

variable (keccak256 : Bytes → B256)

/-- The messages a sparse tree hashes above its leaves. -/
def treeMessages (tag : Bytes) (leaves : List B256) : List Bytes :=
  sparseTreePreimage keccak256 tag leaves ::
    collapseMessages keccak256 (sparseNode keccak256 tag) (padLeaves leaves).length
      (padLeaves leaves)

variable {keccak256}

theorem padLeaves_eq (leaves : List B256) :
    padLeaves leaves =
      leaves ++ List.replicate (nextPowerOfTwo leaves.length - leaves.length) 0 := by
  unfold padLeaves
  split
  · rename_i empty
    rw [List.isEmpty_iff.mp empty]
    rfl
  · rfl

theorem length_padLeaves (leaves : List B256) :
    (padLeaves leaves).length = nextPowerOfTwo leaves.length := by
  have enough := le_nextPowerOfTwo leaves.length
  rw [padLeaves_eq, List.length_append, List.length_replicate]
  omega

theorem sparseNode_injective (tag : Bytes) (left right otherLeft otherRight : B256)
    (same : sparseNode keccak256 tag left right = sparseNode keccak256 tag otherLeft otherRight) :
    left = otherLeft ∧ right = otherRight := by
  obtain ⟨front, rights⟩ := List.append_inj' same (by simp)
  obtain ⟨-, lefts⟩ := List.append_inj' front (by simp)
  exact ⟨wordBytes_injective (by decide) lefts, wordBytes_injective (by decide) rights⟩

theorem lengthWord_injective {Item : Type} {first second : List Item}
    (firstBound : first.length < 2 ^ 64) (secondBound : second.length < 2 ^ 64)
    (same : lengthWord first = lengthWord second) : first.length = second.length := by
  have values := congrArg BitVec.toNat same
  rwa [lengthWord, lengthWord, BitVec.toNat_ofNat, BitVec.toNat_ofNat,
    Nat.mod_eq_of_lt firstBound, Nat.mod_eq_of_lt secondBound] at values

/-- A sparse tree determines its leaves, their number included. -/
theorem treeRoot_injective {messages : List Bytes} (clean : ¬ Collides keccak256 messages)
    {tag : Bytes} {first second : List B256} (firstBound : first.length < 2 ^ 64)
    (secondBound : second.length < 2 ^ 64)
    (firstMessages : treeMessages keccak256 tag first ⊆ messages)
    (secondMessages : treeMessages keccak256 tag second ⊆ messages)
    (same : treeRoot keccak256 tag first = treeRoot keccak256 tag second) : first = second := by
  obtain ⟨firstTop, firstInner⟩ := List.cons_subset.mp firstMessages
  obtain ⟨secondTop, secondInner⟩ := List.cons_subset.mp secondMessages
  obtain ⟨front, tops⟩ :=
    List.append_inj' (eq_of_hash_eq clean firstTop secondTop same) (by simp)
  obtain ⟨-, counts⟩ := List.append_inj' front (by simp)
  have lengths := lengthWord_injective firstBound secondBound
    (wordBytes_injective (by decide) counts)
  obtain ⟨depth, perfect⟩ := exists_nextPowerOfTwo first.length
  have firstPerfect : (padLeaves first).length = 2 ^ depth := by
    rw [length_padLeaves, perfect]
  have secondPerfect : (padLeaves second).length = 2 ^ depth := by
    rw [length_padLeaves, ← lengths, perfect]
  have enough : depth ≤ 2 ^ depth := Nat.lt_two_pow_self.le
  rw [firstPerfect] at firstInner tops
  rw [secondPerfect] at secondInner tops
  obtain ⟨firstDigest, firstSingle⟩ := List.length_eq_one_iff.mp
    (length_collapse keccak256 (sparseNode keccak256 tag) depth _ _ firstPerfect enough)
  obtain ⟨secondDigest, secondSingle⟩ := List.length_eq_one_iff.mp
    (length_collapse keccak256 (sparseNode keccak256 tag) depth _ _ secondPerfect enough)
  rw [firstSingle, secondSingle] at tops
  have padded : padLeaves first = padLeaves second := by
    refine collapse_injective clean (sparseNode_injective tag) depth _ enough firstPerfect
      secondPerfect firstInner secondInner ?_
    rw [firstSingle, secondSingle]
    exact congrArg (fun digest => [digest]) (wordBytes_injective (by decide) tops)
  rw [padLeaves_eq, padLeaves_eq] at padded
  exact (List.append_inj padded lengths).1

end Tree

/-! ### One account -/

section Account

variable (primitives : Primitives)

/-- The leaves of the storage tree of an account. -/
def AccountRecord.storageLeaves (account : AccountRecord) : List B256 :=
  account.liveStorage.map fun entry =>
    primitives.keccak256 (storageLeafPreimage primitives.keccak256 entry)

/-- The messages hashed for the code and the storage of one account. -/
def AccountRecord.sparseMessages (account : AccountRecord) : List Bytes :=
  account.code ::
    (treeMessages primitives.keccak256 storageTreeTag (account.storageLeaves primitives) ++
      account.liveStorage.map (storageLeafPreimage primitives.keccak256))

variable {primitives}

theorem codeHash_eq (account : AccountRecord) :
    account.codeHash primitives = primitives.keccak256 account.code := by
  unfold AccountRecord.codeHash Primitives.keccakEmpty
  split
  · rename_i empty
    rw [List.isEmpty_iff.mp empty]
  · rfl

theorem storageLeafPreimage_injective {keccak256 : Bytes → B256} {first second : U256 × U256}
    (same : storageLeafPreimage keccak256 first = storageLeafPreimage keccak256 second) :
    first = second := by
  obtain ⟨front, values⟩ := List.append_inj' same (by simp)
  obtain ⟨-, slots⟩ := List.append_inj' front (by simp)
  exact Prod.ext (wordBytes_injective (by decide) slots) (wordBytes_injective (by decide) values)

/-- Without zero slots, every slot is live. -/
theorem liveStorage_eq {account : AccountRecord}
    (slotsLive : ∀ slot : U256, account.storage[slot]? ≠ some 0) :
    account.liveStorage = account.storage.toList := by
  refine List.filter_eq_self.mpr fun entry member => ?_
  have found := Std.ExtTreeMap.mem_toList_iff_getElem?_eq_some.mp member
  simp only [bne_iff_ne, ne_eq]
  intro zero
  exact slotsLive entry.1 (zero ▸ found)

/-- The storage root of a compact record determines its storage. -/
theorem sparseStorageRoot_injective {messages : List Bytes}
    (clean : ¬ Collides primitives.keccak256 messages) {first second : AccountRecord}
    (firstCompact : first.IsCompact) (secondCompact : second.IsCompact)
    (firstMessages : first.sparseMessages primitives ⊆ messages)
    (secondMessages : second.sparseMessages primitives ⊆ messages)
    (same : sparseStorageRoot primitives.keccak256 first =
      sparseStorageRoot primitives.keccak256 second) : first.storage = second.storage := by
  have bound : ∀ account : AccountRecord, account.IsCompact →
      (account.storageLeaves primitives).length < 2 ^ 64 := by
    intro account compact
    rw [AccountRecord.storageLeaves, List.length_map, liveStorage_eq compact.slotsLive,
      Std.ExtTreeMap.length_toList]
    exact lt_of_le_of_lt compact.slotCount (by decide)
  obtain ⟨-, firstHashed⟩ := List.cons_subset.mp firstMessages
  obtain ⟨-, secondHashed⟩ := List.cons_subset.mp secondMessages
  obtain ⟨firstTree, firstLeaves⟩ := List.append_subset.mp firstHashed
  obtain ⟨secondTree, secondLeaves⟩ := List.append_subset.mp secondHashed
  have leaves := treeRoot_injective clean (bound first firstCompact) (bound second secondCompact)
    firstTree secondTree same
  have entries : first.liveStorage = second.liveStorage := by
    refine eq_of_map_eq (fun left leftMember right rightMember equal => ?_) leaves
    exact storageLeafPreimage_injective (eq_of_hash_eq clean
      (firstLeaves (List.mem_map_of_mem leftMember))
      (secondLeaves (List.mem_map_of_mem rightMember)) equal)
  rw [liveStorage_eq firstCompact.slotsLive, liveStorage_eq secondCompact.slotsLive] at entries
  exact Std.ExtTreeMap.toList_inj.mp entries

/-- The leaf of a compact record determines its address and the whole record. -/
theorem accountLeafPreimage_injective {messages : List Bytes}
    (clean : ¬ Collides primitives.keccak256 messages) {first second : Address × AccountRecord}
    (firstCompact : first.2.IsCompact) (secondCompact : second.2.IsCompact)
    (firstMessages : first.2.sparseMessages primitives ⊆ messages)
    (secondMessages : second.2.sparseMessages primitives ⊆ messages)
    (same : accountLeafPreimage primitives first = accountLeafPreimage primitives second) :
    first = second := by
  obtain ⟨front, roots⟩ := List.append_inj' same (by simp)
  obtain ⟨front, codeHashes⟩ := List.append_inj' front (by simp)
  obtain ⟨front, balances⟩ := List.append_inj' front (by simp)
  obtain ⟨front, nonces⟩ := List.append_inj' front (by simp)
  obtain ⟨-, addresses⟩ := List.append_inj' front (by simp)
  have storages := sparseStorageRoot_injective clean firstCompact secondCompact firstMessages
    secondMessages (wordBytes_injective (by decide) roots)
  have codes : first.2.code = second.2.code := by
    refine eq_of_hash_eq clean (List.cons_subset.mp firstMessages).1
      (List.cons_subset.mp secondMessages).1 ?_
    rw [← codeHash_eq, ← codeHash_eq]
    exact wordBytes_injective (by decide) codeHashes
  have nonce := abiU64WordV5_injective (wordBytes_injective (by decide) nonces)
  have balance : first.2.balance = second.2.balance :=
    wordBytes_injective (by decide) balances
  have address := abiAddressWordV5_injective (wordBytes_injective (by decide) addresses)
  obtain ⟨firstAddress, firstNonce, firstBalance, firstCode, firstStorage⟩ := first
  obtain ⟨secondAddress, secondNonce, secondBalance, secondCode, secondStorage⟩ := second
  simp_all

end Account

/-! ### The whole state -/

section State

variable (primitives : Primitives)

/-- Every message the sparse state root hashes, tags and labels aside. -/
def StateMap.sparseMessages (state : StateMap) : List Bytes :=
  treeMessages primitives.keccak256 accountTreeTag (state.liveAccounts.map fun entry =>
      primitives.keccak256 (accountLeafPreimage primitives entry)) ++
    state.liveAccounts.flatMap fun entry =>
      accountLeafPreimage primitives entry :: entry.2.sparseMessages primitives

variable {primitives}

theorem StateMap.IsCompact.record {state : StateMap} (compact : state.IsCompact)
    {entry : Address × AccountRecord} (member : entry ∈ state.accounts.toList) :
    entry.2.IsCompact :=
  compact.records _ _ (Std.ExtTreeMap.mem_toList_iff_getElem?_eq_some.mp member)

theorem liveAccounts_eq {state : StateMap} (compact : state.IsCompact) :
    state.liveAccounts = state.accounts.toList := by
  refine List.filter_eq_self.mpr fun entry member => ?_
  rw [(compact.record member).live]
  rfl

/-- The sparse root of a compact state determines its account map. -/
theorem sparseStateRootV5_injective {first second : StateMap} (firstCompact : first.IsCompact)
    (secondCompact : second.IsCompact)
    (clean : ¬ Collides primitives.keccak256
      (first.sparseMessages primitives ++ second.sparseMessages primitives))
    (same : first.sparseStateRootV5 primitives = second.sparseStateRootV5 primitives) :
    first.accounts = second.accounts := by
  have bound : ∀ state : StateMap, state.IsCompact → (state.liveAccounts.map fun entry =>
      primitives.keccak256 (accountLeafPreimage primitives entry)).length < 2 ^ 64 := by
    intro state compact
    rw [List.length_map, liveAccounts_eq compact, Std.ExtTreeMap.length_toList]
    exact lt_of_le_of_lt compact.accountCount (by decide)
  obtain ⟨firstHashed, secondHashed⟩ := List.append_subset.mp
    (List.Subset.refl (first.sparseMessages primitives ++ second.sparseMessages primitives))
  obtain ⟨firstTree, firstRecords⟩ := List.append_subset.mp firstHashed
  obtain ⟨secondTree, secondRecords⟩ := List.append_subset.mp secondHashed
  have leaves := treeRoot_injective clean (bound first firstCompact) (bound second secondCompact)
    firstTree secondTree same
  have entries : first.liveAccounts = second.liveAccounts := by
    refine eq_of_map_eq (fun left leftMember right rightMember equal => ?_) leaves
    obtain ⟨leftLeaf, leftRecord⟩ := List.cons_subset.mp fun message member =>
      firstRecords (List.mem_flatMap.mpr ⟨left, leftMember, member⟩)
    obtain ⟨rightLeaf, rightRecord⟩ := List.cons_subset.mp fun message member =>
      secondRecords (List.mem_flatMap.mpr ⟨right, rightMember, member⟩)
    rw [liveAccounts_eq firstCompact] at leftMember
    rw [liveAccounts_eq secondCompact] at rightMember
    exact accountLeafPreimage_injective clean (firstCompact.record leftMember)
      (secondCompact.record rightMember) leftRecord rightRecord
      (eq_of_hash_eq clean leftLeaf rightLeaf equal)
  rw [liveAccounts_eq firstCompact, liveAccounts_eq secondCompact] at entries
  exact Std.ExtTreeMap.toList_inj.mp entries

/-- Two witnesses that are accepted, complete or proved, and whose states have one sparse
root describe one account map, or the two root computations exhibit a collision. -/
theorem sparseStateRootV5_binding (first second : CompactStateWitnessV4)
    (firstState secondState : StateMap)
    (firstAccepted : verifyCompactStateV4 primitives first = .ok firstState)
    (secondAccepted : verifyCompactStateV4 primitives second = .ok secondState)
    (same : firstState.sparseStateRootV5 primitives =
      secondState.sparseStateRootV5 primitives) :
    firstState.accounts = secondState.accounts ∨
      Collides primitives.keccak256
        (firstState.sparseMessages primitives ++ secondState.sparseMessages primitives) := by
  by_cases collides : Collides primitives.keccak256
      (firstState.sparseMessages primitives ++ secondState.sparseMessages primitives)
  · exact Or.inr collides
  · exact Or.inl (sparseStateRootV5_injective (verifyCompactStateV4_isCompact firstAccepted)
      (verifyCompactStateV4_isCompact secondAccepted) collides same)

end State

/-- The state of a witness that is accepted. -/
def compactStateOf (primitives : Primitives) (witness : CompactStateWitnessV4) : StateMap :=
  (verifyCompactStateV4 primitives witness).toOption.getD (StateMap.fromCompact ∅ ∅ ∅)

/-- A contract with some storage, and an address declared absent. -/
def sampleContract (storage : List CompactStorageWitnessV4) : CompactStateWitnessV4 :=
  ⟨0, [⟨5, true, 1, 9, [0x60], 0, [], storage⟩, ⟨6, false, 0, 0, [], sampleDigest [], [], []⟩]⟩

/-- Two witnesses that differ in a declared zero slot have one root and one account map. -/
theorem sparseStateRootV5_binding_sample :
    sampleContract [⟨3, 8, []⟩] ≠ sampleContract [⟨2, 0, []⟩, ⟨3, 8, []⟩] ∧
      ((compactStateOf samplePrimitives (sampleContract [⟨3, 8, []⟩])).accounts =
          (compactStateOf samplePrimitives (sampleContract [⟨2, 0, []⟩, ⟨3, 8, []⟩])).accounts ∨
        Collides samplePrimitives.keccak256
          ((compactStateOf samplePrimitives (sampleContract [⟨3, 8, []⟩])).sparseMessages
              samplePrimitives ++
            (compactStateOf samplePrimitives
              (sampleContract [⟨2, 0, []⟩, ⟨3, 8, []⟩])).sparseMessages samplePrimitives)) :=
  ⟨by decide, sparseStateRootV5_binding (sampleContract [⟨3, 8, []⟩])
    (sampleContract [⟨2, 0, []⟩, ⟨3, 8, []⟩]) _ _ (by decide +kernel) (by decide +kernel)
    (by decide +kernel)⟩

end Zkdeal

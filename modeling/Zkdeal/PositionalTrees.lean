/-
This file proves that the positional trees of rosters and withdrawals bind: the
root determines the list, the capacity and, for withdrawals, the room and the
epoch they are paid in.

The depth of a tree is not committed to and an absent leaf is a raw zero word, so
two trees of different depth are kept apart by what their digests can be: a leaf
is hashed from three or eight words and an inner node from two. What is left over
is a collision, or a string whose digest is the zero word.
-/

import Zkdeal.Commitments
import Zkdeal.Library.Guard

namespace Zkdeal

open Words Binding Guard

/-! ### Placing leaves -/

section Placing

variable {Item : Type} {index : Item → U64} {refused : Item → Bool} {leaf : Item → B256}
  {capacity : Nat}

/-- A level with the leaf of every item at its index and zero words elsewhere. -/
structure Placed (index : Item → U64) (refused : Item → Bool) (leaf : Item → B256)
    (capacity : Nat) (items : List Item) (leaves : List B256) : Prop where
  length : leaves.length = capacity
  sorted : items.Pairwise fun earlier later => index earlier < index later
  accepted : ∀ item ∈ items, (index item).toNat < capacity ∧ refused item = false
  present : ∀ item ∈ items, leaves[(index item).toNat]? = some (leaf item)
  absent : ∀ position < capacity, (∀ item ∈ items, (index item).toNat ≠ position) →
    leaves[position]? = some 0

/-- What one more leaf does to a level. -/
theorem placeLeaf_eq_some {placed next : List B256 × Option U64} {item : Item}
    (stepped : placeLeaf index refused leaf capacity placed item = some next) :
    (index item).toNat < capacity ∧ refused item = false ∧
      (∀ prior, placed.2 = some prior → prior < index item) ∧
      next = (placed.1.set (index item).toNat (leaf item), some (index item)) := by
  unfold placeLeaf at stepped
  split at stepped
  · cases stepped
  · rename_i fits
    simp only [Bool.or_eq_true, decide_eq_true_eq, not_or, Bool.not_eq_true] at fits
    refine ⟨Nat.lt_of_not_le fits.1.1, fits.1.2, ?_, (Option.some.inj stepped).symm⟩
    intro prior last
    rw [last] at fits
    exact BitVec.not_le.mp (of_decide_eq_false fits.2)

/-- One more item, above all the ones before it, is placed. -/
theorem Placed.extend {consumed : List Item} {leaves : List B256} {item : Item}
    (placed : Placed index refused leaf capacity consumed leaves)
    (above : ∀ other ∈ consumed, index other < index item)
    (inside : (index item).toNat < capacity) (kept : refused item = false) :
    Placed index refused leaf capacity (consumed ++ [item])
      (leaves.set (index item).toNat (leaf item)) where
  length := by rw [List.length_set, placed.length]
  sorted := List.pairwise_append.mpr ⟨placed.sorted, List.pairwise_singleton _ _,
    fun other member last single => List.mem_singleton.mp single ▸ above other member⟩
  accepted := by
    intro other member
    rcases List.mem_append.mp member with member | member
    · exact placed.accepted other member
    · rw [List.mem_singleton.mp member]
      exact ⟨inside, kept⟩
  present := by
    intro other member
    rcases List.mem_append.mp member with member | member
    · have different : (index item).toNat ≠ (index other).toNat :=
        (Nat.ne_of_lt (BitVec.lt_def.mp (above other member))).symm
      rw [List.getElem?_set_ne different]
      exact placed.present other member
    · rw [List.mem_singleton.mp member, List.getElem?_set_self (by rwa [placed.length])]
  absent := by
    intro position bound free
    have different := free item (List.mem_append_right _ List.mem_cons_self)
    rw [List.getElem?_set_ne different]
    exact placed.absent position bound fun other member =>
      free other (List.mem_append_left _ member)

theorem placeLeaves_spec {items : List Item} {leaves : List B256}
    (ran : placeLeaves index refused leaf capacity items = some leaves) :
    Placed index refused leaf capacity items leaves := by
  obtain ⟨finish, folded, rfl⟩ := Option.map_eq_some_iff.mp ran
  refine (foldlM_some_invariant (fun consumed state =>
    Placed index refused leaf capacity consumed state.1 ∧
      Increasing index consumed state.2) folded ⟨⟨List.length_replicate, .nil, ?_, ?_, ?_⟩,
        increasing_nil⟩ ?_).1
  · exact fun item member => absurd member List.not_mem_nil
  · exact fun item member => absurd member List.not_mem_nil
  · exact fun position bound _ => List.getElem?_replicate_of_lt bound
  · rintro consumed item before after ⟨placed, increasing⟩ stepped
    obtain ⟨inside, kept, beyond, rfl⟩ := placeLeaf_eq_some stepped
    exact ⟨placed.extend (increasing.above beyond) inside kept, increasing.concat beyond⟩

end Placing

/-! ### Binding -/

/-- Two different strings of the computation have one digest, or one of them has the zero
digest. -/
def Breaks (keccak256 : Bytes → B256) (messages : List Bytes) : Prop :=
  Collides keccak256 messages ∨ ∃ message ∈ messages, keccak256 message = 0

theorem pairNode_injective (left right otherLeft otherRight : B256)
    (same : pairNode left right = pairNode otherLeft otherRight) :
    left = otherLeft ∧ right = otherRight := by
  obtain ⟨lefts, rights⟩ := List.append_inj same (by rw [length_wordBytes, length_wordBytes])
  exact ⟨wordBytes_injective (by decide) lefts, wordBytes_injective (by decide) rights⟩

theorem length_pairNode (left right : B256) : (pairNode left right).length = 64 := by
  rw [pairNode, List.length_append, length_wordBytes, length_wordBytes]

section Trees

variable {keccak256 : Bytes → B256} {Item : Type} {index : Item → U64}
  {refused : Item → Bool}

/-- The strings hashed for the inner nodes over a level. -/
def nodeMessages (keccak256 : Bytes → B256) (leaves : List B256) : List Bytes :=
  collapseMessages keccak256 pairNode leaves.length leaves

/-- The root of a level of a power-of-two length. -/
theorem positionalRoot_eq {leaves : List B256} {root : B256}
    (perfect : IsPowerOfTwo leaves.length)
    (rooted : positionalRoot keccak256 leaves = some root) :
    leaves.length = 2 ^ leaves.length.log2 ∧
      collapse keccak256 pairNode leaves.length.log2 leaves = [root] ∧
      collapseMessages keccak256 pairNode leaves.length.log2 leaves =
        nodeMessages keccak256 leaves := by
  have size : leaves.length = 2 ^ leaves.length.log2 := perfect.symm
  have enough : leaves.length.log2 ≤ leaves.length := by
    have := Nat.lt_two_pow_self (n := leaves.length.log2)
    omega
  obtain ⟨digests, hashed⟩ := collapse_fuel keccak256 pairNode _ _ leaves size enough
  refine ⟨size, ?_, hashed.symm⟩
  unfold positionalRoot at rooted
  rw [digests] at rooted
  obtain ⟨digest, single⟩ := List.length_eq_one_iff.mp
    (length_collapse keccak256 pairNode _ _ leaves size le_rfl)
  rw [single, List.getLast?_singleton] at rooted
  rw [single, Option.some.inj rooted]

/-- Every digest of a level is zero or hashed from a leaf string. -/
theorem Placed.digest {message : Item → Bytes} {capacity : Nat} {items : List Item}
    {leaves : List B256}
    (placed : Placed index refused (fun item => keccak256 (message item)) capacity items leaves)
    {digest : B256} (member : digest ∈ leaves) :
    digest = 0 ∨ ∃ item ∈ items, digest = keccak256 (message item) := by
  obtain ⟨position, bound, rfl⟩ := List.getElem_of_mem member
  have found := List.getElem?_eq_getElem bound
  by_cases occupied : ∃ item ∈ items, (index item).toNat = position
  · obtain ⟨item, itemMember, rfl⟩ := occupied
    rw [placed.present item itemMember] at found
    exact .inr ⟨item, itemMember, (Option.some.inj found).symm⟩
  · have free : ∀ item ∈ items, (index item).toNat ≠ position :=
      fun item itemMember same => occupied ⟨item, itemMember, same⟩
    rw [placed.absent position (placed.length ▸ bound) free] at found
    exact .inl (Option.some.inj found).symm

/-- Two trees with one root have the same leaves, whatever their capacities. -/
theorem leaves_eq_of_root_eq {messages : List Bytes} (sound : ¬ Breaks keccak256 messages)
    {firstMessage secondMessage : Item → Bytes}
    (firstApart : ∀ item, (firstMessage item).length ≠ 64)
    (secondApart : ∀ item, (secondMessage item).length ≠ 64)
    {firstCapacity secondCapacity : Nat} {first second : List Item}
    {firstLeaves secondLeaves : List B256}
    (firstPlaced : Placed index refused (fun item => keccak256 (firstMessage item))
      firstCapacity first firstLeaves)
    (secondPlaced : Placed index refused (fun item => keccak256 (secondMessage item))
      secondCapacity second secondLeaves)
    (firstPerfect : IsPowerOfTwo firstCapacity) (secondPerfect : IsPowerOfTwo secondCapacity)
    (firstHashed : first.map firstMessage ++ nodeMessages keccak256 firstLeaves ⊆ messages)
    (secondHashed : second.map secondMessage ++ nodeMessages keccak256 secondLeaves ⊆ messages)
    {root : B256} (firstRoot : positionalRoot keccak256 firstLeaves = some root)
    (secondRoot : positionalRoot keccak256 secondLeaves = some root) :
    firstLeaves = secondLeaves := by
  obtain ⟨clean, nonzero⟩ := not_or.mp sound
  obtain ⟨firstSize, firstTop, firstNodes⟩ :=
    positionalRoot_eq (by rwa [firstPlaced.length]) firstRoot
  obtain ⟨secondSize, secondTop, secondNodes⟩ :=
    positionalRoot_eq (by rwa [secondPlaced.length]) secondRoot
  obtain ⟨firstItems, firstInner⟩ := List.append_subset.mp firstHashed
  obtain ⟨secondItems, secondInner⟩ := List.append_subset.mp secondHashed
  have apart : ∀ (items : List Item) (message : Item → Bytes),
      (∀ item, (message item).length ≠ 64) → items.map message ⊆ messages → ∀ digest,
      (digest = 0 ∨ ∃ item ∈ items, digest = keccak256 (message item)) →
      ∀ left right, pairNode left right ∈ messages →
      keccak256 (pairNode left right) ≠ digest := by
    intro items message different hashed digest origin left right member same
    rcases origin with rfl | ⟨item, itemMember, rfl⟩
    · exact nonzero ⟨_, member, same⟩
    · have equal := eq_of_hash_eq clean member (hashed (List.mem_map_of_mem itemMember)) same
      exact different item (equal ▸ length_pairNode left right)
  refine collapse_injective_of_separate clean pairNode_injective firstSize secondSize
    (firstNodes ▸ firstInner) (secondNodes ▸ secondInner) ?_ (firstTop.trans secondTop.symm)
  intro digest member
  rcases List.mem_append.mp member with member | member
  · exact apart first firstMessage firstApart firstItems digest (firstPlaced.digest member)
  · exact apart second secondMessage secondApart secondItems digest (secondPlaced.digest member)

/-- Every item of one of two equal levels has the leaf string of an item of the other. -/
theorem Placed.matched {messages : List Bytes} (sound : ¬ Breaks keccak256 messages)
    {firstMessage secondMessage : Item → Bytes} {capacity : Nat} {first second : List Item}
    {leaves : List B256}
    (firstPlaced : Placed index refused (fun item => keccak256 (firstMessage item))
      capacity first leaves)
    (secondPlaced : Placed index refused (fun item => keccak256 (secondMessage item))
      capacity second leaves)
    (firstHashed : first.map firstMessage ⊆ messages)
    (secondHashed : second.map secondMessage ⊆ messages) {item : Item} (member : item ∈ first) :
    ∃ other ∈ second, firstMessage item = secondMessage other := by
  obtain ⟨clean, nonzero⟩ := not_or.mp sound
  have hashed := firstHashed (List.mem_map_of_mem member)
  have found := firstPlaced.present item member
  by_cases occupied : ∃ other ∈ second, (index other).toNat = (index item).toNat
  · obtain ⟨other, otherMember, same⟩ := occupied
    have otherFound := secondPlaced.present other otherMember
    rw [same, found] at otherFound
    exact ⟨other, otherMember, eq_of_hash_eq clean hashed
      (secondHashed (List.mem_map_of_mem otherMember)) (Option.some.inj otherFound)⟩
  · have free : ∀ other ∈ second, (index other).toNat ≠ (index item).toNat :=
      fun other otherMember same => occupied ⟨other, otherMember, same⟩
    rw [secondPlaced.absent _ (firstPlaced.accepted item member).1 free] at found
    exact absurd ⟨_, hashed, (Option.some.inj found).symm⟩ nonzero

/-- Two sorted lists with the same items are the same list. -/
theorem eq_of_sorted {first second : List Item}
    (firstSorted : first.Pairwise fun earlier later => index earlier < index later)
    (secondSorted : second.Pairwise fun earlier later => index earlier < index later)
    (included : first ⊆ second) (includes : second ⊆ first) : first = second := by
  have distinct {items : List Item}
      (sorted : items.Pairwise fun earlier later => index earlier < index later) :
      items.Nodup :=
    sorted.imp fun {earlier later} below same => by
      rw [same] at below
      exact Nat.lt_irrefl _ (BitVec.lt_def.mp below)
  have permuted : first.Perm second :=
    (List.perm_ext_iff_of_nodup (distinct firstSorted) (distinct secondSorted)).mpr
      fun item => ⟨fun member => included member, fun member => includes member⟩
  refine permuted.eq_of_pairwise (fun earlier later _ _ below above => ?_) firstSorted
    secondSorted
  exact absurd (BitVec.lt_def.mp above) (Nat.lt_asymm (BitVec.lt_def.mp below))

end Trees

/-- The root of a tree with an item is not zero. -/
theorem root_ne_zero {keccak256 : Bytes → B256} {Item : Type} {index : Item → U64}
    {refused : Item → Bool} {messages : List Bytes} (sound : ¬ Breaks keccak256 messages)
    {message : Item → Bytes} {capacity : Nat} {items : List Item} {leaves : List B256}
    (placed : Placed index refused (fun item => keccak256 (message item)) capacity items leaves)
    (perfect : IsPowerOfTwo capacity) (nonempty : items ≠ [])
    (hashed : items.map message ++ nodeMessages keccak256 leaves ⊆ messages) {root : B256}
    (rooted : positionalRoot keccak256 leaves = some root) : root ≠ 0 := by
  have nonzero := (not_or.mp sound).2
  obtain ⟨leafStrings, inner⟩ := List.append_subset.mp hashed
  obtain ⟨size, top, nodes⟩ := positionalRoot_eq (by rwa [placed.length]) rooted
  rintro rfl
  rcases Nat.eq_zero_or_pos leaves.length.log2 with flat | deep
  · obtain ⟨item, member⟩ := List.exists_mem_of_ne_nil items nonempty
    rw [flat, collapse] at top
    have found := placed.present item member
    have inside := (placed.accepted item member).1
    rw [← placed.length, size, flat] at inside
    rw [top, show (index item).toNat = 0 by omega, List.getElem?_cons_zero] at found
    exact nonzero ⟨_, leafStrings (List.mem_map_of_mem member), (Option.some.inj found).symm⟩
  · have above := above_ascend keccak256 pairNode leaves.length.log2 0 leaves size
    have single := above.collapses
    rw [Nat.add_zero, top, collapse] at single
    obtain ⟨left, right, member, same⟩ := above.digests deep 0 (single ▸ List.mem_cons_self)
    rw [Nat.add_zero, nodes] at member
    exact nonzero ⟨_, inner member, same⟩

/-! ### Rosters and withdrawals -/

section Lists

variable (keccak256 : Bytes → B256)

/-- The string a roster leaf is hashed from. -/
def rosterLeafMessage (member : RosterMemberV5) : Bytes :=
  encodeWords [abiU64WordV5 member.index, abiAddressWordV5 member.member,
    abiU64WordV5 member.joinedEpoch]

/-- The string a withdrawal leaf is hashed from. -/
def withdrawalLeafMessage (deploymentDomain : B256) (roomId outboxEpoch : U64)
    (withdrawal : WithdrawalV5) : Bytes :=
  encodeWords [deploymentDomain, abiU64WordV5 roomId, abiU64WordV5 outboxEpoch,
    abiU64WordV5 withdrawal.index, abiU64WordV5 withdrawal.rosterEpoch,
    abiAddressWordV5 withdrawal.recipient, abiAddressWordV5 withdrawal.asset,
    abiU256WordV5 withdrawal.amount]

/-- A member that cannot be placed. -/
def vacantMember (member : RosterMemberV5) : Bool := member.member == 0 || member.joinedEpoch == 0

/-- A withdrawal that cannot be placed. -/
def emptyWithdrawal (withdrawal : WithdrawalV5) : Bool :=
  withdrawal.recipient == 0 || withdrawal.amount == 0

/-- The strings hashed for a tree: the leaf strings and the inner nodes. -/
def positionalMessages {Item : Type} (index : Item → U64) (refused : Item → Bool)
    (message : Item → Bytes) (items : List Item) (capacity : U64) : List Bytes :=
  items.map message ++ nodeMessages keccak256
    ((placeLeaves index refused (fun item => keccak256 (message item)) capacity.toNat
      items).getD [])

/-- The strings hashed for a roster root. -/
def rosterMessages (members : List RosterMemberV5) (capacity : U64) : List Bytes :=
  positionalMessages keccak256 RosterMemberV5.index vacantMember rosterLeafMessage members capacity

/-- The strings hashed for a withdrawal root. -/
def withdrawalMessages (deploymentDomain : B256) (roomId outboxEpoch : U64)
    (withdrawals : List WithdrawalV5) (capacity : U64) : List Bytes :=
  positionalMessages keccak256 WithdrawalV5.index emptyWithdrawal
    (withdrawalLeafMessage deploymentDomain roomId outboxEpoch) withdrawals capacity

variable {keccak256}

/-- A tree that has a root. -/
structure Rooted (keccak256 : Bytes → B256) {Item : Type} (index : Item → U64)
    (refused : Item → Bool) (message : Item → Bytes) (items : List Item) (capacity : U64)
    (root : B256) (leaves : List B256) : Prop where
  perfect : IsPowerOfTwo capacity.toNat
  placed : Placed index refused (fun item => keccak256 (message item)) capacity.toNat items leaves
  hashed : positionalMessages keccak256 index refused message items capacity =
    items.map message ++ nodeMessages keccak256 leaves
  rooted : positionalRoot keccak256 leaves = some root

theorem exists_rooted {Item : Type} {index : Item → U64} {refused : Item → Bool}
    {message : Item → Bytes} {items : List Item} {capacity : U64} {root : B256}
    (perfect : IsPowerOfTwo capacity.toNat)
    (ran : (placeLeaves index refused (fun item => keccak256 (message item)) capacity.toNat
      items).bind (positionalRoot keccak256) = some root) :
    ∃ leaves, Rooted keccak256 index refused message items capacity root leaves := by
  obtain ⟨leaves, placedLeaves, rooted⟩ := Option.bind_eq_some_iff.mp ran
  refine ⟨leaves, perfect, placeLeaves_spec placedLeaves, ?_, rooted⟩
  rw [positionalMessages, placedLeaves, Option.getD_some]

theorem rosterRootV5_rooted {members : List RosterMemberV5} {capacity : U64} {root : B256}
    (ran : rosterRootV5 keccak256 members capacity = some root) :
    ∃ leaves, Rooted keccak256 RosterMemberV5.index vacantMember rosterLeafMessage members
      capacity root leaves := by
  unfold rosterRootV5 at ran
  split at ran
  · cases ran
  · rename_i usable
    simp only [not_or, not_not] at usable
    exact exists_rooted usable.2.1 ran

theorem withdrawalRootV5_rooted {deploymentDomain : B256} {roomId outboxEpoch : U64}
    {withdrawals : List WithdrawalV5} {capacity : U64} {root : B256} (nonempty : withdrawals ≠ [])
    (ran : withdrawalRootV5 keccak256 deploymentDomain roomId outboxEpoch withdrawals capacity =
      some root) :
    ∃ leaves, Rooted keccak256 WithdrawalV5.index emptyWithdrawal
      (withdrawalLeafMessage deploymentDomain roomId outboxEpoch) withdrawals capacity root
      leaves := by
  unfold withdrawalRootV5 at ran
  rw [if_neg (by simpa using nonempty)] at ran
  split at ran
  · cases ran
  · rename_i usable
    simp only [not_or, not_not] at usable
    exact exists_rooted usable.2.1 ran

/-- Two trees with one root have the same capacity and, when the leaf strings determine the
items, the same items with the same leaf strings. -/
theorem Rooted.binds {Item : Type} {index : Item → U64} {refused : Item → Bool}
    {firstMessage secondMessage : Item → Bytes} {first second : List Item}
    {firstCapacity secondCapacity : U64} {root : B256} {firstLeaves secondLeaves : List B256}
    (firstTree : Rooted keccak256 index refused firstMessage first firstCapacity root firstLeaves)
    (secondTree : Rooted keccak256 index refused secondMessage second secondCapacity root
      secondLeaves)
    (firstApart : ∀ item, (firstMessage item).length ≠ 64)
    (secondApart : ∀ item, (secondMessage item).length ≠ 64)
    (injective : ∀ item other, firstMessage item = secondMessage other → item = other)
    (sound : ¬ Breaks keccak256
      (positionalMessages keccak256 index refused firstMessage first firstCapacity ++
        positionalMessages keccak256 index refused secondMessage second secondCapacity)) :
    first = second ∧ firstCapacity = secondCapacity ∧
      ∀ item ∈ first, firstMessage item = secondMessage item := by
  rw [firstTree.hashed, secondTree.hashed] at sound
  have firstHashed := List.subset_append_left
    (first.map firstMessage ++ nodeMessages keccak256 firstLeaves)
    (second.map secondMessage ++ nodeMessages keccak256 secondLeaves)
  have secondHashed := List.subset_append_right
    (first.map firstMessage ++ nodeMessages keccak256 firstLeaves)
    (second.map secondMessage ++ nodeMessages keccak256 secondLeaves)
  have leaves := leaves_eq_of_root_eq sound firstApart secondApart firstTree.placed
    secondTree.placed firstTree.perfect secondTree.perfect firstHashed secondHashed
    firstTree.rooted secondTree.rooted
  subst leaves
  have capacities : firstCapacity = secondCapacity :=
    BitVec.eq_of_toNat_eq (firstTree.placed.length.symm.trans secondTree.placed.length)
  subst capacities
  have matched : ∀ item ∈ first, item ∈ second ∧ firstMessage item = secondMessage item := by
    intro item listed
    obtain ⟨other, otherListed, same⟩ := firstTree.placed.matched sound secondTree.placed
      (List.append_subset.mp firstHashed).1 (List.append_subset.mp secondHashed).1 listed
    obtain rfl := injective item other same
    exact ⟨otherListed, same⟩
  have includes : second ⊆ first := by
    intro other listed
    obtain ⟨item, itemListed, same⟩ := secondTree.placed.matched sound firstTree.placed
      (List.append_subset.mp secondHashed).1 (List.append_subset.mp firstHashed).1 listed
    rwa [← injective item other same.symm]
  exact ⟨eq_of_sorted firstTree.placed.sorted secondTree.placed.sorted
    (fun item listed => (matched item listed).1) includes, rfl,
    fun item listed => (matched item listed).2⟩

theorem rosterLeafMessage_injective {first second : RosterMemberV5}
    (same : rosterLeafMessage first = rosterLeafMessage second) : first = second := by
  have words := encodeWords_injective same
  cases first
  cases second
  simp only [List.cons.injEq, and_true] at words
  rw [RosterMemberV5.mk.injEq]
  exact ⟨abiU64WordV5_injective words.1, abiAddressWordV5_injective words.2.1,
    abiU64WordV5_injective words.2.2⟩

theorem withdrawalLeafMessage_injective {firstDomain secondDomain : B256}
    {firstRoom secondRoom firstEpoch secondEpoch : U64} {first second : WithdrawalV5}
    (same : withdrawalLeafMessage firstDomain firstRoom firstEpoch first =
      withdrawalLeafMessage secondDomain secondRoom secondEpoch second) :
    firstDomain = secondDomain ∧ firstRoom = secondRoom ∧ firstEpoch = secondEpoch ∧
      first = second := by
  have words := encodeWords_injective same
  cases first
  cases second
  simp only [List.cons.injEq, and_true] at words
  obtain ⟨domain, room, epoch, index, rosterEpoch, recipient, asset, amount⟩ := words
  rw [WithdrawalV5.mk.injEq]
  exact ⟨domain, abiU64WordV5_injective room, abiU64WordV5_injective epoch,
    abiU64WordV5_injective index, abiU64WordV5_injective rosterEpoch,
    abiAddressWordV5_injective recipient, abiAddressWordV5_injective asset, amount⟩

end Lists

/-- The roots of rosters and of non-empty withdrawal lists determine what they are taken over,
and the latter are not the zero word, or the strings hashed for them break the hash. -/
theorem positional_roots_bind (keccak256 : Bytes → B256) :
    (∀ (first second : List RosterMemberV5) (firstCapacity secondCapacity : U64) (root : B256),
      rosterRootV5 keccak256 first firstCapacity = some root →
      rosterRootV5 keccak256 second secondCapacity = some root →
      (first = second ∧ firstCapacity = secondCapacity) ∨
        Breaks keccak256 (rosterMessages keccak256 first firstCapacity ++
          rosterMessages keccak256 second secondCapacity)) ∧
    (∀ (firstDomain secondDomain : B256) (firstRoom secondRoom firstEpoch secondEpoch : U64)
      (first second : List WithdrawalV5) (firstCapacity secondCapacity : U64) (root : B256),
      first ≠ [] → second ≠ [] →
      withdrawalRootV5 keccak256 firstDomain firstRoom firstEpoch first firstCapacity =
        some root →
      withdrawalRootV5 keccak256 secondDomain secondRoom secondEpoch second secondCapacity =
        some root →
      (first = second ∧ firstCapacity = secondCapacity ∧ firstDomain = secondDomain ∧
          firstRoom = secondRoom ∧ firstEpoch = secondEpoch) ∨
        Breaks keccak256
          (withdrawalMessages keccak256 firstDomain firstRoom firstEpoch first firstCapacity ++
            withdrawalMessages keccak256 secondDomain secondRoom secondEpoch second
              secondCapacity)) ∧
    ∀ (domain : B256) (room epoch : U64) (withdrawals : List WithdrawalV5) (capacity : U64)
      (root : B256),
      withdrawals ≠ [] →
      withdrawalRootV5 keccak256 domain room epoch withdrawals capacity = some root →
      root ≠ 0 ∨
        Breaks keccak256 (withdrawalMessages keccak256 domain room epoch withdrawals capacity) := by
  have rosterApart (member : RosterMemberV5) : (rosterLeafMessage member).length ≠ 64 := by
    simp [rosterLeafMessage, length_encodeWords]
  have withdrawalApart (domain : B256) (room epoch : U64) (withdrawal : WithdrawalV5) :
      (withdrawalLeafMessage domain room epoch withdrawal).length ≠ 64 := by
    simp [withdrawalLeafMessage, length_encodeWords]
  refine ⟨?_, ?_, ?_⟩
  · intro first second firstCapacity secondCapacity root firstRan secondRan
    refine or_iff_not_imp_right.mpr fun sound => ?_
    obtain ⟨firstLeaves, firstTree⟩ := rosterRootV5_rooted firstRan
    obtain ⟨secondLeaves, secondTree⟩ := rosterRootV5_rooted secondRan
    obtain ⟨members, capacities, -⟩ := firstTree.binds secondTree rosterApart rosterApart
      (fun _ _ => rosterLeafMessage_injective) sound
    exact ⟨members, capacities⟩
  · intro firstDomain secondDomain firstRoom secondRoom firstEpoch secondEpoch first second
      firstCapacity secondCapacity root firstNonempty secondNonempty firstRan secondRan
    refine or_iff_not_imp_right.mpr fun sound => ?_
    obtain ⟨firstLeaves, firstTree⟩ := withdrawalRootV5_rooted firstNonempty firstRan
    obtain ⟨secondLeaves, secondTree⟩ := withdrawalRootV5_rooted secondNonempty secondRan
    obtain ⟨withdrawals, capacities, strings⟩ := firstTree.binds secondTree
      (withdrawalApart firstDomain firstRoom firstEpoch)
      (withdrawalApart secondDomain secondRoom secondEpoch)
      (fun _ _ same => (withdrawalLeafMessage_injective same).2.2.2) sound
    obtain ⟨withdrawal, listed⟩ := List.exists_mem_of_ne_nil first firstNonempty
    obtain ⟨domain, room, epoch, -⟩ := withdrawalLeafMessage_injective (strings withdrawal listed)
    exact ⟨withdrawals, capacities, domain, room, epoch⟩
  · intro domain room epoch withdrawals capacity root nonempty ran
    refine or_iff_not_imp_right.mpr fun sound => ?_
    obtain ⟨leaves, tree⟩ := withdrawalRootV5_rooted nonempty ran
    refine root_ne_zero sound tree.placed tree.perfect nonempty ?_ tree.rooted
    rw [← tree.hashed]
    exact fun _ => id

/-- A roster with a vacant index below its last member. -/
def sampleRoster (member : Address) (joinedEpoch : U64) : List RosterMemberV5 :=
  [{ index := 0, member, joinedEpoch }, { index := 2, member := 0xa2, joinedEpoch := 3 }]

/-- A withdrawal of each of two members. -/
def samplePayouts (recipient : Address) (amount : U256) : List WithdrawalV5 :=
  [{ index := 0, rosterEpoch := 3, recipient, asset := 0, amount },
    { index := 2, rosterEpoch := 3, recipient := 0xa2, asset := 0xe0, amount := 7 }]

/-- Rosters and payouts that the sum of bytes cannot tell apart. -/
theorem positional_roots_bind_sample :
    ∃ rosterRoot withdrawalRoot,
      rosterRootV5 sampleSum (sampleRoster 0xa1 1) 4 = some rosterRoot ∧
      rosterRootV5 sampleSum (sampleRoster 0xa0 2) 4 = some rosterRoot ∧
      Breaks sampleSum (rosterMessages sampleSum (sampleRoster 0xa1 1) 4 ++
        rosterMessages sampleSum (sampleRoster 0xa0 2) 4) ∧
      withdrawalRootV5 sampleSum 9 8 7 (samplePayouts 0xa1 5) 4 = some withdrawalRoot ∧
      withdrawalRootV5 sampleSum 9 8 7 (samplePayouts 0xa0 6) 4 = some withdrawalRoot ∧
      Breaks sampleSum (withdrawalMessages sampleSum 9 8 7 (samplePayouts 0xa1 5) 4 ++
        withdrawalMessages sampleSum 9 8 7 (samplePayouts 0xa0 6) 4) ∧
      (withdrawalRoot ≠ 0 ∨
        Breaks sampleSum (withdrawalMessages sampleSum 9 8 7 (samplePayouts 0xa1 5) 4)) := by
  have rosterDefined : (rosterRootV5 sampleSum (sampleRoster 0xa1 1) 4).isSome := by
    decide +kernel
  have withdrawalDefined : (withdrawalRootV5 sampleSum 9 8 7 (samplePayouts 0xa1 5) 4).isSome := by
    decide +kernel
  obtain ⟨rosterRoot, rosterRan⟩ := Option.isSome_iff_exists.mp rosterDefined
  obtain ⟨withdrawalRoot, withdrawalRan⟩ := Option.isSome_iff_exists.mp withdrawalDefined
  have otherRoster : rosterRootV5 sampleSum (sampleRoster 0xa0 2) 4 = some rosterRoot := by
    rw [← rosterRan]
    decide +kernel
  have otherWithdrawal : withdrawalRootV5 sampleSum 9 8 7 (samplePayouts 0xa0 6) 4 =
      some withdrawalRoot := by
    rw [← withdrawalRan]
    decide +kernel
  have nonempty : ∀ recipient amount, samplePayouts recipient amount ≠ [] :=
    fun _ _ => List.cons_ne_nil _ _
  obtain ⟨rosters, withdrawals, nonzero⟩ := positional_roots_bind sampleSum
  refine ⟨rosterRoot, withdrawalRoot, rosterRan, otherRoster,
    (rosters _ _ _ _ _ rosterRan otherRoster).resolve_left fun same => ?_, withdrawalRan,
    otherWithdrawal, (withdrawals _ _ _ _ _ _ _ _ _ _ _ (nonempty _ _) (nonempty _ _)
      withdrawalRan otherWithdrawal).resolve_left fun same => ?_,
    nonzero _ _ _ _ _ _ (nonempty _ _) withdrawalRan⟩
  · exact absurd same.1 (by decide)
  · exact absurd same.1 (by decide)

end Zkdeal

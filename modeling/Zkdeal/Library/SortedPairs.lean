/-
This file is the hash tree whose inner nodes forget the order of their two
children, as it is built over a list of messages: every message is hashed, a level
is hashed pair by pair with an odd last digest paired with itself, and so on until
one digest is left.

Such a root determines the *set* of messages and nothing more. The proof does not
look at levels. It keeps the tree that was computed beside its digest and goes
down two trees at once: equal digests have the same message, a node has its
children back up to a swap, and a message that is a leaf in one tree and a node in
the other is impossible because the two kinds are written differently.
-/

import Zkdeal.Library.Binding

namespace SortedPairs

open Binding

variable {Message Digest : Type}

/-! ### Trees of messages -/

/-- A computation that ends in one digest. -/
inductive Tree (Message : Type) where
  | leaf (message : Message)
  | node (left right : Tree Message)

section Digests

variable (hash : Message → Digest) (pair : Digest → Digest → Message)

/-- The digest a tree ends in. -/
def Tree.digest : Tree Message → Digest
  | .leaf message => hash message
  | .node left right => hash (pair left.digest right.digest)

/-- Every message hashed on the way. -/
def Tree.messages : Tree Message → List Message
  | .leaf message => [message]
  | .node left right =>
    pair (left.digest hash pair) (right.digest hash pair) :: (left.messages ++ right.messages)

/-- The messages at the leaves. -/
def Tree.leaves : Tree Message → List Message
  | .leaf message => [message]
  | .node left right => left.leaves ++ right.leaves

/-- What the binding of a tree needs of its node messages: a pair is known up to its order, and
no leaf is written like a pair. -/
structure Forgetful (isLeaf : Message → Prop) : Prop where
  unordered : ∀ first second third fourth, pair first second = pair third fourth →
    (first = third ∧ second = fourth) ∨ (first = fourth ∧ second = third)
  separate : ∀ message first second, isLeaf message → message ≠ pair first second

variable {hash pair}

theorem Tree.mem_messages_left {left right : Tree Message} {message : Message}
    (member : message ∈ left.messages hash pair) :
    message ∈ (Tree.node left right).messages hash pair :=
  List.mem_cons_of_mem _ (List.mem_append_left _ member)

theorem Tree.mem_messages_right {left right : Tree Message} {message : Message}
    (member : message ∈ right.messages hash pair) :
    message ∈ (Tree.node left right).messages hash pair :=
  List.mem_cons_of_mem _ (List.mem_append_right _ member)

/-- Two trees with one digest have the same leaves, unless messages of theirs collide. -/
theorem Tree.mem_leaves_iff {isLeaf : Message → Prop} (forgetful : Forgetful pair isLeaf)
    {messages : List Message} (clean : ¬ Collides hash messages) {first second : Tree Message}
    (firstHashed : ∀ message ∈ first.messages hash pair, message ∈ messages)
    (secondHashed : ∀ message ∈ second.messages hash pair, message ∈ messages)
    (firstLeaves : ∀ message ∈ first.leaves, isLeaf message)
    (secondLeaves : ∀ message ∈ second.leaves, isLeaf message)
    (same : first.digest hash pair = second.digest hash pair) (message : Message) :
    message ∈ first.leaves ↔ message ∈ second.leaves := by
  induction first generalizing second with
  | leaf own =>
    have ownHashed := firstHashed own List.mem_cons_self
    cases second with
    | leaf other =>
      rw [eq_of_hash_eq clean ownHashed (secondHashed other List.mem_cons_self) same]
    | node left right =>
      have equal := eq_of_hash_eq clean ownHashed (secondHashed _ List.mem_cons_self) same
      exact absurd equal (forgetful.separate own _ _ (firstLeaves own List.mem_cons_self))
  | node left right leftHypothesis rightHypothesis =>
    have nodeHashed := firstHashed _ List.mem_cons_self
    cases second with
    | leaf other =>
      have equal := eq_of_hash_eq clean nodeHashed (secondHashed other List.mem_cons_self) same
      exact absurd equal.symm (forgetful.separate other _ _ (secondLeaves other List.mem_cons_self))
    | node otherLeft otherRight =>
      have equal := eq_of_hash_eq clean nodeHashed (secondHashed _ List.mem_cons_self) same
      rw [Tree.leaves, Tree.leaves, List.mem_append, List.mem_append]
      rw [Tree.leaves, List.forall_mem_append] at firstLeaves secondLeaves
      have leftHashed := fun item member => firstHashed item (Tree.mem_messages_left member)
      have rightHashed := fun item member => firstHashed item (Tree.mem_messages_right member)
      have otherLeftHashed := fun item member => secondHashed item (Tree.mem_messages_left member)
      have otherRightHashed := fun item member =>
        secondHashed item (Tree.mem_messages_right member)
      obtain ⟨lefts, rights⟩ | ⟨crossed, back⟩ := forgetful.unordered _ _ _ _ equal
      · rw [leftHypothesis leftHashed otherLeftHashed firstLeaves.1 secondLeaves.1 lefts,
          rightHypothesis rightHashed otherRightHashed firstLeaves.2 secondLeaves.2 rights]
      · rw [leftHypothesis leftHashed otherRightHashed firstLeaves.1 secondLeaves.2 crossed,
          rightHypothesis rightHashed otherLeftHashed firstLeaves.2 secondLeaves.1 back, or_comm]

end Digests

/-! ### Levels -/

section Levels

variable (hash : Message → Digest) (pair : Digest → Digest → Message)

/-- Hash a level pair by pair; an odd last digest is paired with itself. -/
def pairLevel : List Digest → List Digest
  | left :: right :: rest => hash (pair left right) :: pairLevel rest
  | [last] => [hash (pair last last)]
  | [] => []

/-- Hash level after level while more than one digest is left, for at most `fuel` levels. -/
def reduce : Nat → List Digest → List Digest
  | 0, level => level
  | fuel + 1, level => if 1 < level.length then reduce fuel (pairLevel hash pair level) else level

/-- The same on the trees computed so far. -/
def joinPairs : List (Tree Message) → List (Tree Message)
  | left :: right :: rest => .node left right :: joinPairs rest
  | [last] => [.node last last]
  | [] => []

def joinAll : Nat → List (Tree Message) → List (Tree Message)
  | 0, level => level
  | fuel + 1, level => if 1 < level.length then joinAll fuel (joinPairs level) else level

theorem map_digest_joinPairs (level : List (Tree Message)) :
    (joinPairs level).map (Tree.digest hash pair) =
      pairLevel hash pair (level.map (Tree.digest hash pair)) := by
  induction level using joinPairs.induct with
  | case1 left right rest inductionHypothesis =>
    rw [joinPairs, List.map_cons, inductionHypothesis]
    rfl
  | case2 last => rfl
  | case3 => rfl

theorem map_digest_joinAll (fuel : Nat) (level : List (Tree Message)) :
    (joinAll fuel level).map (Tree.digest hash pair) =
      reduce hash pair fuel (level.map (Tree.digest hash pair)) := by
  induction fuel generalizing level with
  | zero => rfl
  | succ fuel inductionHypothesis =>
    rw [joinAll, reduce, List.length_map]
    split
    · rw [inductionHypothesis, map_digest_joinPairs]
    · rfl

theorem length_joinPairs (level : List (Tree Message)) :
    (joinPairs level).length = (level.length + 1) / 2 := by
  induction level using joinPairs.induct with
  | case1 left right rest inductionHypothesis =>
    rw [joinPairs, List.length_cons, inductionHypothesis, List.length_cons, List.length_cons]
    omega
  | case2 last => simp [joinPairs]
  | case3 => simp [joinPairs]

theorem mem_leaves_joinPairs (level : List (Tree Message)) (message : Message) :
    (∃ tree ∈ joinPairs level, message ∈ tree.leaves) ↔ ∃ tree ∈ level, message ∈ tree.leaves := by
  induction level using joinPairs.induct with
  | case1 left right rest inductionHypothesis =>
    simp only [joinPairs, List.exists_mem_cons_iff, inductionHypothesis, Tree.leaves,
      List.mem_append, or_assoc]
  | case2 last =>
    simp only [joinPairs, List.exists_mem_cons_iff, Tree.leaves, List.mem_append, or_self,
      List.not_mem_nil, false_and, exists_false]
  | case3 => rfl

/-- Enough rounds leave one tree, with all the leaves. -/
theorem exists_joinAll (fuel : Nat) (level : List (Tree Message)) (nonempty : level ≠ [])
    (enough : level.length ≤ fuel) :
    ∃ tree, joinAll fuel level = [tree] ∧
      ∀ message, message ∈ tree.leaves ↔ ∃ part ∈ level, message ∈ part.leaves := by
  induction fuel generalizing level with
  | zero => exact absurd (List.eq_nil_of_length_eq_zero (Nat.le_zero.mp enough)) nonempty
  | succ fuel inductionHypothesis =>
    rw [joinAll]
    split
    · rename_i several
      have shorter := length_joinPairs level
      obtain ⟨tree, equal, leaves⟩ := inductionHypothesis (joinPairs level)
        (List.ne_nil_of_length_pos (by omega)) (by omega)
      exact ⟨tree, equal, fun message =>
        (leaves message).trans (mem_leaves_joinPairs level message)⟩
    · have positive := List.length_pos_of_ne_nil nonempty
      obtain ⟨tree, rfl⟩ := List.length_eq_one_iff.mp (show level.length = 1 by omega)
      exact ⟨tree, rfl, by simp⟩

/-- The root over the messages, if there are any. -/
def root (messages : List Message) : Option Digest :=
  (reduce hash pair messages.length (messages.map hash)).head?

/-- Every message hashed for the root. -/
def rootMessages (messages : List Message) : List Message :=
  (joinAll messages.length (messages.map Tree.leaf)).flatMap (Tree.messages hash pair)

/-- The root of a non-empty list is the digest of a tree over the list. -/
theorem exists_tree {messages : List Message} (nonempty : messages ≠ []) :
    ∃ tree : Tree Message, root hash pair messages = some (tree.digest hash pair) ∧
      rootMessages hash pair messages = tree.messages hash pair ∧
        ∀ message, message ∈ tree.leaves ↔ message ∈ messages := by
  obtain ⟨tree, joined, leaves⟩ := exists_joinAll messages.length (messages.map Tree.leaf)
    (by simpa using nonempty) (by simp)
  have digests := map_digest_joinAll hash pair messages.length (messages.map Tree.leaf)
  rw [joined, List.map_singleton, List.map_map] at digests
  refine ⟨tree, ?_, ?_, fun message => ?_⟩
  · rw [root]
    exact congrArg List.head? digests.symm
  · rw [rootMessages, joined, List.flatMap_singleton]
  · rw [leaves]
    simp [Tree.leaves]

/-- Equal roots are over the same set of messages, unless messages hashed for them collide. -/
theorem mem_iff_of_root_eq {isLeaf : Message → Prop} (forgetful : Forgetful pair isLeaf)
    {first second : List Message} (firstNonempty : first ≠ []) (secondNonempty : second ≠ [])
    (firstLeaves : ∀ message ∈ first, isLeaf message)
    (secondLeaves : ∀ message ∈ second, isLeaf message)
    {messages : List Message} (clean : ¬ Collides hash messages)
    (firstHashed : ∀ message ∈ rootMessages hash pair first, message ∈ messages)
    (secondHashed : ∀ message ∈ rootMessages hash pair second, message ∈ messages)
    (same : root hash pair first = root hash pair second) (message : Message) :
    message ∈ first ↔ message ∈ second := by
  obtain ⟨tree, digest, hashed, leaves⟩ := exists_tree hash pair firstNonempty
  obtain ⟨other, otherDigest, otherHashed, otherLeaves⟩ := exists_tree hash pair secondNonempty
  rw [digest, otherDigest, Option.some.injEq] at same
  rw [hashed] at firstHashed
  rw [otherHashed] at secondHashed
  rw [← leaves, ← otherLeaves]
  exact Tree.mem_leaves_iff forgetful clean firstHashed secondHashed
    (fun item member => firstLeaves item ((leaves item).mp member))
    (fun item member => secondLeaves item ((otherLeaves item).mp member)) same message

end Levels

end SortedPairs

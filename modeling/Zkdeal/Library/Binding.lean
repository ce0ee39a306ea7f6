/-
This file says what it means for a hash commitment to bind, without assuming
that the hash is injective -- no function into a finite set of digests is.

A computation hashes finitely many messages. `Collides` says that two different
messages *of a given list* have one digest; a binding theorem concludes that
equal commitments have equal contents or that the messages the two computations
hashed collide. The second half is the binary tree every positional commitment
is built from: a level of digests is hashed pair by pair until one is left, and
two levels of equal power-of-two length that collapse to the same digest are the
same level.
-/

import Zkdeal.Library.Words

namespace Binding

variable {Message Digest : Type}

/-! ### Collisions inside a computation -/

/-- Two different messages of the list have the same digest. -/
def Collides (hash : Message → Digest) (messages : List Message) : Prop :=
  ∃ first ∈ messages, ∃ second ∈ messages, first ≠ second ∧ hash first = hash second

/-- In a computation without a collision, a digest determines its message. -/
theorem eq_of_hash_eq {hash : Message → Digest} {messages : List Message}
    (clean : ¬ Collides hash messages) {first second : Message} (firstMember : first ∈ messages)
    (secondMember : second ∈ messages) (same : hash first = hash second) : first = second := by
  by_contra different
  exact clean ⟨first, firstMember, second, secondMember, different, same⟩

/-- Lists that map alike are alike when the map is injective between them. -/
theorem eq_of_map_eq {Item Image : Type} {convert : Item → Image} {first second : List Item}
    (injective : ∀ left ∈ first, ∀ right ∈ second, convert left = convert right → left = right)
    (same : first.map convert = second.map convert) : first = second := by
  induction first generalizing second with
  | nil => exact (List.map_eq_nil_iff.mp same.symm).symm
  | cons item rest inductionHypothesis =>
    cases second with
    | nil => simp at same
    | cons other otherRest =>
      rw [List.map_cons, List.map_cons, List.cons.injEq] at same
      rw [injective item List.mem_cons_self other List.mem_cons_self same.1,
        inductionHypothesis (fun left leftMember right rightMember =>
          injective left (List.mem_cons_of_mem _ leftMember) right
            (List.mem_cons_of_mem _ rightMember)) same.2]

/-! ### Binary trees -/

section Trees

variable (hash : Message → Digest) (node : Digest → Digest → Message)

/-- Hash a level pair by pair; an odd last digest is dropped. -/
def pairUp : List Digest → List Digest
  | left :: right :: rest => hash (node left right) :: pairUp rest
  | _ => []

/-- The messages hashed by `pairUp`. -/
def pairMessages : List Digest → List Message
  | left :: right :: rest => node left right :: pairMessages rest
  | _ => []

/-- Hash level after level while more than one digest is left, for at most `fuel` levels. -/
def collapse : Nat → List Digest → List Digest
  | 0, level => level
  | fuel + 1, level => if 1 < level.length then collapse fuel (pairUp hash node level) else level

/-- The messages hashed by `collapse`. -/
def collapseMessages : Nat → List Digest → List Message
  | 0, _ => []
  | fuel + 1, level =>
    if 1 < level.length then
      pairMessages node level ++ collapseMessages fuel (pairUp hash node level)
    else []

theorem length_pairUp (half : Nat) (level : List Digest) (even : level.length = 2 * half) :
    (pairUp hash node level).length = half := by
  induction half generalizing level with
  | zero =>
    rw [List.length_eq_zero_iff.mp even]
    rfl
  | succ half inductionHypothesis =>
    match level, even with
    | left :: right :: rest, even =>
      rw [pairUp, List.length_cons, inductionHypothesis rest (by simp at even; omega)]
    | [_], even => simp at even; omega
    | [], even => simp at even

/-- The tree over `2 ^ depth` leaves has one digest left after `depth` levels. -/
theorem length_collapse (depth fuel : Nat) (level : List Digest)
    (perfect : level.length = 2 ^ depth) (enough : depth ≤ fuel) :
    (collapse hash node fuel level).length = 1 := by
  induction depth generalizing fuel level with
  | zero =>
    cases fuel with
    | zero => simpa [collapse] using perfect
    | succ fuel =>
      rw [collapse, if_neg (by rw [perfect]; simp)]
      simpa using perfect
  | succ depth inductionHypothesis =>
    cases fuel with
    | zero => omega
    | succ fuel =>
      have large : 1 < level.length := by
        rw [perfect]
        exact Nat.one_lt_two_pow (by omega)
      rw [collapse, if_pos large]
      exact inductionHypothesis fuel _
        (length_pairUp hash node _ level (by rw [perfect, Nat.pow_succ, Nat.mul_comm]))
        (by omega)

/-- Fuel beyond the depth of a level changes nothing. -/
theorem collapse_fuel (depth fuel : Nat) (level : List Digest)
    (perfect : level.length = 2 ^ depth) (enough : depth ≤ fuel) :
    collapse hash node fuel level = collapse hash node depth level ∧
      collapseMessages hash node fuel level = collapseMessages hash node depth level := by
  induction depth generalizing fuel level with
  | zero =>
    cases fuel with
    | zero => exact ⟨rfl, rfl⟩
    | succ fuel =>
      have single : ¬ 1 < level.length := by rw [perfect]; simp
      rw [collapse, collapse, collapseMessages, collapseMessages, if_neg single, if_neg single]
      exact ⟨rfl, rfl⟩
  | succ depth inductionHypothesis =>
    cases fuel with
    | zero => omega
    | succ fuel =>
      have large : 1 < level.length := by
        rw [perfect]
        exact Nat.one_lt_two_pow (by omega)
      have half := length_pairUp hash node _ level
        (by rw [perfect, Nat.pow_succ, Nat.mul_comm])
      obtain ⟨digests, hashed⟩ := inductionHypothesis fuel (pairUp hash node level) half
        (by omega)
      rw [collapse, collapse, collapseMessages, collapseMessages, if_pos large, if_pos large,
        if_pos large, if_pos large, digests, hashed]
      exact ⟨rfl, rfl⟩

/-- Every digest of an upper level is the hash of an inner node. -/
theorem mem_pairUp {level : List Digest} {digest : Digest}
    (member : digest ∈ pairUp hash node level) :
    ∃ left right, node left right ∈ pairMessages node level ∧ hash (node left right) = digest := by
  match level with
  | [] | [_] => cases member
  | left :: right :: rest =>
    rw [pairUp] at member
    rw [pairMessages]
    rcases List.mem_cons.mp member with rfl | member
    · exact ⟨left, right, List.mem_cons_self, rfl⟩
    · obtain ⟨below, beside, hashed, same⟩ := mem_pairUp member
      exact ⟨below, beside, List.mem_cons_of_mem _ hashed, same⟩

/-- The level some steps above the leaves. -/
def ascend (extra : Nat) (level : List Digest) : List Digest := (pairUp hash node)^[extra] level

/-- A level above the leaves collapses to the same digest, its inner nodes are inner nodes of
the whole tree, and so are the nodes its own digests come from. -/
structure Above (extra depth : Nat) (level upper : List Digest) : Prop where
  perfect : upper.length = 2 ^ depth
  collapses : collapse hash node (extra + depth) level = collapse hash node depth upper
  hashed : collapseMessages hash node depth upper ⊆
    collapseMessages hash node (extra + depth) level
  digests : 0 < extra → ∀ digest ∈ upper, ∃ left right,
    node left right ∈ collapseMessages hash node (extra + depth) level ∧
      hash (node left right) = digest

theorem above_ascend (extra depth : Nat) (level : List Digest)
    (perfect : level.length = 2 ^ (extra + depth)) :
    Above hash node extra depth level (ascend hash node extra level) := by
  induction extra generalizing level with
  | zero =>
    rw [Nat.zero_add] at perfect
    refine ⟨perfect, by rw [Nat.zero_add]; rfl, ?_, fun positive => absurd positive (lt_irrefl 0)⟩
    rw [Nat.zero_add]
    exact fun _ member => member
  | succ extra inductionHypothesis =>
    have shifted : extra + 1 + depth = extra + depth + 1 := by omega
    rw [shifted] at perfect
    have large : 1 < level.length := by
      rw [perfect]
      exact Nat.one_lt_two_pow (by omega)
    have half := length_pairUp hash node _ level
      (by rw [perfect, Nat.pow_succ, Nat.mul_comm])
    have above := inductionHypothesis (pairUp hash node level) half
    have messages : collapseMessages hash node (extra + 1 + depth) level =
        pairMessages node level ++
          collapseMessages hash node (extra + depth) (pairUp hash node level) := by
      rw [shifted, collapseMessages, if_pos large]
    refine ⟨above.perfect, ?_, ?_, ?_⟩
    · rw [shifted, collapse, if_pos large]
      exact above.collapses
    · rw [messages]
      exact fun _ member => List.mem_append_right _ (above.hashed member)
    · intro _ digest member
      rw [messages]
      rcases Nat.eq_zero_or_pos extra with rfl | positive
      · obtain ⟨left, right, hashed, same⟩ := mem_pairUp hash node member
        exact ⟨left, right, List.mem_append_left _ hashed, same⟩
      · obtain ⟨left, right, hashed, same⟩ := above.digests positive digest member
        exact ⟨left, right, List.mem_append_right _ hashed, same⟩

variable {hash node}

/-- Equal upper levels come from equal lower levels, unless their hashes collide. -/
theorem pairUp_injective {messages : List Message} (clean : ¬ Collides hash messages)
    (nodeInjective : ∀ left right otherLeft otherRight,
      node left right = node otherLeft otherRight → left = otherLeft ∧ right = otherRight)
    (half : Nat) {first second : List Digest} (firstEven : first.length = 2 * half)
    (secondEven : second.length = 2 * half)
    (firstMessages : pairMessages node first ⊆ messages)
    (secondMessages : pairMessages node second ⊆ messages)
    (same : pairUp hash node first = pairUp hash node second) : first = second := by
  induction half generalizing first second with
  | zero =>
    rw [List.length_eq_zero_iff.mp firstEven, List.length_eq_zero_iff.mp secondEven]
  | succ half inductionHypothesis =>
    match first, firstEven, second, secondEven with
    | [_], firstEven, _, _ => simp at firstEven; omega
    | [], firstEven, _, _ => simp at firstEven
    | _ :: _ :: _, _, [_], secondEven => simp at secondEven; omega
    | _ :: _ :: _, _, [], secondEven => simp at secondEven
    | left :: right :: rest, firstEven, otherLeft :: otherRight :: otherRest, secondEven =>
      rw [pairUp, pairUp, List.cons.injEq] at same
      rw [pairMessages] at firstMessages secondMessages
      have heads := eq_of_hash_eq clean (firstMessages List.mem_cons_self)
        (secondMessages List.mem_cons_self) same.1
      obtain ⟨rfl, rfl⟩ := nodeInjective _ _ _ _ heads
      rw [inductionHypothesis (by simp at firstEven; omega) (by simp at secondEven; omega)
        (fun _ member => firstMessages (List.mem_cons_of_mem _ member))
        (fun _ member => secondMessages (List.mem_cons_of_mem _ member)) same.2]

/-- Two levels of the same power-of-two length that collapse alike are the same level,
unless their hashes collide. -/
theorem collapse_injective {messages : List Message} (clean : ¬ Collides hash messages)
    (nodeInjective : ∀ left right otherLeft otherRight,
      node left right = node otherLeft otherRight → left = otherLeft ∧ right = otherRight)
    (depth fuel : Nat) (enough : depth ≤ fuel) {first second : List Digest}
    (firstPerfect : first.length = 2 ^ depth) (secondPerfect : second.length = 2 ^ depth)
    (firstMessages : collapseMessages hash node fuel first ⊆ messages)
    (secondMessages : collapseMessages hash node fuel second ⊆ messages)
    (same : collapse hash node fuel first = collapse hash node fuel second) :
    first = second := by
  induction depth generalizing fuel first second with
  | zero =>
    cases fuel with
    | zero => exact same
    | succ fuel =>
      rwa [collapse, collapse, if_neg (by rw [firstPerfect]; simp),
        if_neg (by rw [secondPerfect]; simp)] at same
  | succ depth inductionHypothesis =>
    cases fuel with
    | zero => omega
    | succ fuel =>
      have firstLarge : 1 < first.length := by
        rw [firstPerfect]
        exact Nat.one_lt_two_pow (by omega)
      have secondLarge : 1 < second.length := by
        rw [secondPerfect]
        exact Nat.one_lt_two_pow (by omega)
      have firstEven : first.length = 2 * 2 ^ depth := by
        rw [firstPerfect, Nat.pow_succ, Nat.mul_comm]
      have secondEven : second.length = 2 * 2 ^ depth := by
        rw [secondPerfect, Nat.pow_succ, Nat.mul_comm]
      rw [collapse, collapse, if_pos firstLarge, if_pos secondLarge] at same
      rw [collapseMessages, if_pos firstLarge] at firstMessages
      rw [collapseMessages, if_pos secondLarge] at secondMessages
      refine pairUp_injective clean nodeInjective _ firstEven secondEven
        (List.append_subset.mp firstMessages).1 (List.append_subset.mp secondMessages).1 ?_
      exact inductionHypothesis fuel (by omega) (length_pairUp hash node _ first firstEven)
        (length_pairUp hash node _ second secondEven) (List.append_subset.mp firstMessages).2
        (List.append_subset.mp secondMessages).2 same

/-- Two levels that collapse alike are the same level, whatever their depths, unless their
hashes collide or a leaf of one of them is the digest of an inner node. -/
theorem collapse_injective_of_separate {messages : List Message}
    (clean : ¬ Collides hash messages)
    (nodeInjective : ∀ left right otherLeft otherRight,
      node left right = node otherLeft otherRight → left = otherLeft ∧ right = otherRight)
    {firstDepth secondDepth : Nat} {first second : List Digest}
    (firstPerfect : first.length = 2 ^ firstDepth)
    (secondPerfect : second.length = 2 ^ secondDepth)
    (firstMessages : collapseMessages hash node firstDepth first ⊆ messages)
    (secondMessages : collapseMessages hash node secondDepth second ⊆ messages)
    (separate : ∀ digest ∈ first ++ second, ∀ left right, node left right ∈ messages →
      hash (node left right) ≠ digest)
    (same : collapse hash node firstDepth first = collapse hash node secondDepth second) :
    first = second := by
  have ordered : ∀ {lower upper : List Digest} {depth extra : Nat},
      lower.length = 2 ^ depth → upper.length = 2 ^ (extra + depth) →
      collapseMessages hash node depth lower ⊆ messages →
      collapseMessages hash node (extra + depth) upper ⊆ messages →
      (∀ digest ∈ lower, ∀ left right, node left right ∈ messages →
        hash (node left right) ≠ digest) →
      collapse hash node depth lower = collapse hash node (extra + depth) upper →
      lower = upper := by
    intro lower upper depth extra lowerPerfect upperPerfect lowerMessages upperMessages apart
      collapsed
    have above := above_ascend hash node extra depth upper upperPerfect
    have equal := collapse_injective clean nodeInjective depth depth le_rfl lowerPerfect
      above.perfect lowerMessages (List.Subset.trans above.hashed upperMessages)
      (collapsed.trans above.collapses)
    rcases Nat.eq_zero_or_pos extra with rfl | positive
    · exact equal
    · obtain ⟨digest, member⟩ := List.exists_mem_of_length_pos
        (lowerPerfect ▸ Nat.two_pow_pos depth : 0 < lower.length)
      obtain ⟨left, right, hashed, matched⟩ := above.digests positive digest (equal ▸ member)
      exact absurd matched (apart digest member left right (upperMessages hashed))
  rcases Nat.le_total firstDepth secondDepth with deeper | deeper
  · obtain ⟨extra, rfl⟩ := Nat.exists_eq_add_of_le' deeper
    exact ordered firstPerfect secondPerfect firstMessages secondMessages
      (fun digest member => separate digest (List.mem_append_left _ member)) same
  · obtain ⟨extra, rfl⟩ := Nat.exists_eq_add_of_le' deeper
    exact (ordered secondPerfect firstPerfect secondMessages firstMessages
      (fun digest member => separate digest (List.mem_append_right _ member)) same.symm).symm

end Trees

/-! ### Powers of two -/

/-- The smallest power of two that is not below a number. -/
def nextPowerOfTwo (count : Nat) : Nat := if count ≤ 1 then 1 else 2 ^ ((count - 1).log2 + 1)

/-- A number is a power of two when its leading bit is all of it. -/
def IsPowerOfTwo (count : Nat) : Prop := 2 ^ count.log2 = count

instance (count : Nat) : Decidable (IsPowerOfTwo count) :=
  inferInstanceAs (Decidable (2 ^ count.log2 = count))

theorem exists_nextPowerOfTwo (count : Nat) : ∃ depth, nextPowerOfTwo count = 2 ^ depth := by
  unfold nextPowerOfTwo
  split
  · exact ⟨0, rfl⟩
  · exact ⟨_, rfl⟩

theorem le_nextPowerOfTwo (count : Nat) : count ≤ nextPowerOfTwo count := by
  unfold nextPowerOfTwo
  split
  · assumption
  · have := Nat.lt_log2_self (n := count - 1)
    omega

end Binding

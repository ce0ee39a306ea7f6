/-
This file is about encodings that end by themselves. An encoding of the items of
a domain is delimited when an item can be read off the front of a longer string
in one way only: equal strings start with the same item and go on with the same
rest. Injectivity of a concatenation then needs no decoder. The fields of a
record are cancelled one after another, a list behind its length item by item,
and a list that fills the whole string item by item as well, as long as no item
is written as the empty string.
-/

import Zkdeal.Library.Words

/-- Items of the domain can be told apart whatever follows them. -/
def Delimited {Symbol Item : Type} (domain : Item → Prop) (encode : Item → List Symbol) : Prop :=
  ∀ ⦃first second : Item⦄ ⦃rest otherRest : List Symbol⦄, domain first → domain second →
    encode first ++ rest = encode second ++ otherRest → first = second ∧ rest = otherRest

namespace Delimited

variable {Symbol Item : Type} {domain : Item → Prop} {encode : Item → List Symbol}

/-- A delimited encoding stays delimited on fewer items. -/
theorem mono {smaller : Item → Prop} (delimited : Delimited domain encode)
    (within : ∀ item, smaller item → domain item) : Delimited smaller encode :=
  fun _ _ _ _ firstIn secondIn equal =>
    delimited (within _ firstIn) (within _ secondIn) equal

/-- Items written with one fixed length are delimited by it. -/
theorem of_length {length : Nat} (fixed : ∀ item, (encode item).length = length)
    (injective : ∀ first second, encode first = encode second → first = second) :
    Delimited (fun _ => True) encode := by
  intro first second rest otherRest _ _ equal
  obtain ⟨items, rests⟩ := List.append_inj equal (by rw [fixed, fixed])
  exact ⟨injective first second items, rests⟩

/-- Two lists of one length, written item by item. -/
theorem flatMap_append_inj (delimited : Delimited domain encode) {first second : List Item}
    {rest otherRest : List Symbol} (firstIn : ∀ item ∈ first, domain item)
    (secondIn : ∀ item ∈ second, domain item) (lengths : first.length = second.length)
    (equal : first.flatMap encode ++ rest = second.flatMap encode ++ otherRest) :
    first = second ∧ rest = otherRest := by
  induction first generalizing second with
  | nil =>
    rw [List.eq_nil_of_length_eq_zero lengths.symm] at equal ⊢
    exact ⟨rfl, by simpa using equal⟩
  | cons item items inductionHypothesis =>
    cases second with
    | nil => simp at lengths
    | cons other others =>
      rw [List.forall_mem_cons] at firstIn secondIn
      rw [List.flatMap_cons, List.flatMap_cons, List.append_assoc, List.append_assoc] at equal
      obtain ⟨heads, tails⟩ := delimited firstIn.1 secondIn.1 equal
      obtain ⟨items, rests⟩ :=
        inductionHypothesis firstIn.2 secondIn.2 (by simpa using lengths) tails
      exact ⟨by rw [heads, items], rests⟩

/-- A list behind its length is delimited when lengths and items are. -/
theorem counted {bounded : Nat → Prop} {number : Nat → List Symbol}
    (numbers : Delimited bounded number) (delimited : Delimited domain encode) :
    Delimited (fun items : List Item => bounded items.length ∧ ∀ item ∈ items, domain item)
      (fun items => number items.length ++ items.flatMap encode) := by
  intro first second rest otherRest firstIn secondIn equal
  rw [List.append_assoc, List.append_assoc] at equal
  obtain ⟨lengths, bodies⟩ := numbers firstIn.1 secondIn.1 equal
  exact delimited.flatMap_append_inj firstIn.2 secondIn.2 lengths bodies

/-- A list that fills the whole string needs no length when no item is empty. -/
theorem flatMap_inj (delimited : Delimited domain encode) {first second : List Item}
    (visible : ∀ item, encode item ≠ []) (firstIn : ∀ item ∈ first, domain item)
    (secondIn : ∀ item ∈ second, domain item)
    (equal : first.flatMap encode = second.flatMap encode) : first = second := by
  induction first generalizing second with
  | nil =>
    cases second with
    | nil => rfl
    | cons other others =>
      have empty := List.flatMap_eq_nil_iff.mp equal.symm other List.mem_cons_self
      exact absurd empty (visible other)
  | cons item items inductionHypothesis =>
    cases second with
    | nil =>
      have empty := List.flatMap_eq_nil_iff.mp equal item List.mem_cons_self
      exact absurd empty (visible item)
    | cons other others =>
      rw [List.forall_mem_cons] at firstIn secondIn
      rw [List.flatMap_cons, List.flatMap_cons] at equal
      obtain ⟨heads, tails⟩ := delimited firstIn.1 secondIn.1 equal
      rw [heads, inductionHypothesis firstIn.2 secondIn.2 tails]

/-! ### Words -/

section Words

open Words

theorem wordBytes {width count : Nat} (fits : 2 ^ width ≤ 256 ^ count) :
    Delimited (fun _ => True) fun word : BitVec width => Words.wordBytes count word :=
  of_length (length_wordBytes count) fun _ _ equal => wordBytes_injective fits equal

end Words

end Delimited

/-
This file is about a counter that several parties advance one after the other.
Every party takes the span between the counter it finds and the counter it
leaves. If every party finds what the one before it left, the spans together are
one gapless range, and every number of it is in exactly one of them.
-/

import Mathlib

namespace Spans

/-! ### Parties -/

section Parties

variable {Party : Type} (found left : Party → Nat)

/-- The counter never goes back along a chain of parties. -/
theorem left_le_last {first last : Party} {rest : List Party}
    (ordered : ∀ party ∈ first :: rest, found party ≤ left party)
    (chained : (first :: rest).IsChain fun earlier later => found later = left earlier)
    (ends : (first :: rest).getLast? = some last) : left first ≤ left last := by
  induction rest generalizing first with
  | nil =>
    rw [List.getLast?_singleton, Option.some.injEq] at ends
    rw [ends]
  | cons second rest inductionHypothesis =>
    obtain ⟨follows, remaining⟩ := List.isChain_cons_cons.mp chained
    obtain ⟨-, others⟩ := List.forall_mem_cons.mp ordered
    rw [List.getLast?_cons_cons] at ends
    have later := inductionHypothesis others remaining ends
    have secondOrdered := others second List.mem_cons_self
    omega

/-- If every party takes the numbers between what it finds and what it leaves, a chain of
parties takes one range without gaps. -/
theorem flatMap_taken (taken : Party → List Nat) {first last : Party} {rest : List Party}
    (ordered : ∀ party ∈ first :: rest, found party ≤ left party)
    (numbered : ∀ party ∈ first :: rest,
      taken party = List.range' (found party) (left party - found party))
    (chained : (first :: rest).IsChain fun earlier later => found later = left earlier)
    (ends : (first :: rest).getLast? = some last) :
    (first :: rest).flatMap taken = List.range' (found first) (left last - found first) := by
  induction rest generalizing first with
  | nil =>
    rw [List.getLast?_singleton, Option.some.injEq] at ends
    rw [List.flatMap_singleton, numbered first List.mem_cons_self, ends]
  | cons second rest inductionHypothesis =>
    obtain ⟨follows, remaining⟩ := List.isChain_cons_cons.mp chained
    obtain ⟨firstOrdered, others⟩ := List.forall_mem_cons.mp ordered
    obtain ⟨firstNumbered, othersNumbered⟩ := List.forall_mem_cons.mp numbered
    rw [List.getLast?_cons_cons] at ends
    have later := left_le_last found left others remaining ends
    have secondOrdered := others second List.mem_cons_self
    rw [List.flatMap_cons, firstNumbered, inductionHypothesis others othersNumbered remaining ends,
      follows]
    have joined := @List.range'_append (found first) (left first - found first)
      (left last - left first) 1
    rw [Nat.one_mul, Nat.add_sub_cancel' firstOrdered] at joined
    rw [joined]
    congr 1
    omega

end Parties

/-! ### Spans -/

/-- The numbers taken between two readings of a counter. -/
structure Span where
  first : Nat
  last : Nat
  ordered : first ≤ last

/-- The numbers of a span in order. -/
def Span.indices (span : Span) : List Nat := List.range' span.first (span.last - span.first)

@[simp]
theorem Span.mem_indices {span : Span} {index : Nat} :
    index ∈ span.indices ↔ span.first ≤ index ∧ index < span.last := by
  have ordered := span.ordered
  rw [Span.indices, List.mem_range'_1]
  omega

/-- A span that begins where the one before it ends. -/
def Follows (earlier later : Span) : Prop := later.first = earlier.last

/-- A chain of spans covers one range without gaps. -/
theorem flatMap_indices {first last : Span} {rest : List Span}
    (chained : (first :: rest).IsChain Follows) (ends : (first :: rest).getLast? = some last) :
    (first :: rest).flatMap Span.indices =
      List.range' first.first (last.last - first.first) :=
  flatMap_taken Span.first Span.last Span.indices (fun span _ => span.ordered) (fun _ _ => rfl)
    chained ends

/-- Every number a chain of spans covers is in exactly one of them. -/
theorem existsUnique_position {first last : Span} {rest : List Span}
    (chained : (first :: rest).IsChain Follows) (ends : (first :: rest).getLast? = some last)
    {index : Nat} (lower : first.first ≤ index) (upper : index < last.last) :
    ∃! position : Nat, ∃ span : Span,
      (first :: rest)[position]? = some span ∧ index ∈ span.indices := by
  induction rest generalizing first with
  | nil =>
    rw [List.getLast?_singleton, Option.some.injEq] at ends
    subst ends
    refine ⟨0, ⟨first, rfl, Span.mem_indices.mpr ⟨lower, upper⟩⟩, ?_⟩
    rintro position ⟨span, found, -⟩
    cases position with
    | zero => rfl
    | succ position => simp at found
  | cons second rest inductionHypothesis =>
    obtain ⟨follows, remaining⟩ := List.isChain_cons_cons.mp chained
    rw [List.getLast?_cons_cons] at ends
    rw [Follows] at follows
    have within : ∀ (position : Nat) (span : Span),
        (second :: rest)[position]? = some span → index ∈ span.indices →
        second.first ≤ index := by
      intro position span found member
      have covered : index ∈ (second :: rest).flatMap Span.indices :=
        List.mem_flatMap.mpr ⟨span, List.mem_of_getElem? found, member⟩
      rw [flatMap_indices remaining ends, List.mem_range'_1] at covered
      exact covered.1
    by_cases early : index < first.last
    · refine ⟨0, ⟨first, rfl, Span.mem_indices.mpr ⟨lower, early⟩⟩, ?_⟩
      rintro position ⟨span, found, member⟩
      cases position with
      | zero => rfl
      | succ position =>
        rw [List.getElem?_cons_succ] at found
        have := within position span found member
        omega
    · obtain ⟨position, ⟨span, found, member⟩, unique⟩ :=
        inductionHypothesis remaining ends (by omega)
      refine ⟨position + 1, ⟨span, found, member⟩, ?_⟩
      rintro other ⟨otherSpan, otherFound, otherMember⟩
      cases other with
      | zero =>
        rw [List.getElem?_cons_zero, Option.some.injEq] at otherFound
        rw [← otherFound, Span.mem_indices] at otherMember
        omega
      | succ other =>
        rw [List.getElem?_cons_succ] at otherFound
        rw [unique other ⟨otherSpan, otherFound, otherMember⟩]

/-- A list that counts up from a number, item by item. -/
theorem map_eq_range' {Item : Type} {number : Item → Nat} {items : List Item} {first : Nat}
    (counted : ∀ item ∈ items.zipIdx, number item.1 = first + item.2) :
    items.map number = List.range' first items.length := by
  refine List.ext_getElem (by simp) fun position inside _ => ?_
  rw [List.length_map] at inside
  rw [List.getElem_map, List.getElem_range', Nat.one_mul]
  exact counted (items[position], position)
    (List.mem_zipIdx_iff_getElem?.mpr (List.getElem?_eq_getElem inside))

end Spans

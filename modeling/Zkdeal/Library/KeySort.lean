/-
This file is about lists that are sorted by a key. A stable sort keeps every item, so
the sorted list has a key twice exactly when the list had; and a list in strictly
ascending order is determined by its items.
-/

import Mathlib

namespace KeySort

variable {Item : Type} {width : Nat} (key : Item → BitVec width)

/-- Sort by a key; items with one key keep their order. -/
def sortByKey (items : List Item) : List Item :=
  items.insertionSort fun first second => key first ≤ key second

/-- Every item has a larger key than the one before it. -/
def Ascending (items : List Item) : Prop :=
  items.Pairwise fun first second => key first < key second

theorem sortByKey_perm (items : List Item) : (sortByKey key items).Perm items :=
  List.perm_insertionSort _ items

theorem sortByKey_pairwise (items : List Item) :
    (sortByKey key items).Pairwise fun first second => key first ≤ key second := by
  have : Std.Total fun first second : Item => key first ≤ key second :=
    ⟨fun _ _ => BitVec.le_total _ _⟩
  have : IsTrans Item fun first second => key first ≤ key second :=
    ⟨fun _ _ _ => BitVec.le_trans⟩
  exact List.pairwise_insertionSort _ items

variable {key}

theorem Ascending.nodup {items : List Item} (ascending : Ascending key items) :
    (items.map key).Nodup := by
  refine List.pairwise_map.mpr (ascending.imp fun before same => ?_)
  exact absurd (same ▸ before) (BitVec.lt_irrefl _)

/-- A sorted list is strictly ascending when no two items of the list have one key. -/
theorem ascending_sortByKey_iff {items : List Item} :
    Ascending key (sortByKey key items) ↔ (items.map key).Nodup := by
  have perm := (sortByKey_perm key items).map key
  constructor
  · exact fun ascending => perm.nodup_iff.mp ascending.nodup
  · intro distinct
    have apart := List.pairwise_map.mp (perm.nodup_iff.mpr distinct)
    exact ((sortByKey_pairwise key items).and apart).imp fun ⟨below, different⟩ =>
      BitVec.lt_of_le_ne below different

/-- An ascending list is determined by its items. -/
theorem Ascending.eq_of_mem_iff {first second : List Item} (firstAscending : Ascending key first)
    (secondAscending : Ascending key second)
    (same : ∀ item, item ∈ first ↔ item ∈ second) : first = second := by
  have firstNodup : first.Nodup := firstAscending.nodup.of_map key
  have secondNodup : second.Nodup := secondAscending.nodup.of_map key
  refine ((List.perm_ext_iff_of_nodup firstNodup secondNodup).mpr same).eq_of_pairwise
    (fun item other _ _ before after => ?_) firstAscending secondAscending
  exact absurd (BitVec.lt_trans before after) (BitVec.lt_irrefl _)

/-- Sorting by a key puts a list back that was in ascending order. -/
theorem sortByKey_of_perm {items shuffled : List Item} (ascending : Ascending key items)
    (perm : shuffled.Perm items) : sortByKey key shuffled = items := by
  have distinct := (perm.map key).nodup_iff.mpr ascending.nodup
  refine (ascending_sortByKey_iff.mpr distinct).eq_of_mem_iff ascending fun item => ?_
  exact ((sortByKey_perm key shuffled).trans perm).mem_iff

end KeySort

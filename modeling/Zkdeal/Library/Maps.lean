/-
This file is about ordered maps as the finite sets of their entries: what holds
of every entry after an insertion or a removal, a map that is rebuilt from the
list of its entries, and the comparison of two sums when every entry of one side
has a partner with its key on the other.
-/

import Mathlib

namespace Maps

section Entries

variable {Key Value : Type} [Ord Key] [Std.TransOrd Key]
  {entries : Std.ExtTreeMap Key Value compare} {key : Key} {value : Value}

/-- A property of every entry survives a removal. -/
theorem forall_getElem?_erase {property : Key → Value → Prop}
    (holds : ∀ other found, entries[other]? = some found → property other found) :
    ∀ other found, (entries.erase key)[other]? = some found → property other found := by
  intro other found lookup
  rw [Std.ExtTreeMap.getElem?_erase] at lookup
  split at lookup
  · cases lookup
  · exact holds other found lookup

theorem nodup_map_fst_toList : (entries.toList.map Prod.fst).Nodup := by
  rw [Std.ExtTreeMap.map_fst_toList_eq_keys]
  exact Std.ExtTreeMap.nodup_keys

variable [Std.LawfulEqOrd Key]

theorem contains_insert [DecidableEq Key] (keys : Std.ExtTreeSet Key compare) (key other : Key) :
    (keys.insert key).contains other = (key == other || keys.contains other) := by
  rw [Std.ExtTreeSet.contains_insert]
  congr 1
  rw [Bool.eq_iff_iff, beq_iff_eq, beq_iff_eq]
  exact Std.compare_eq_iff_eq

theorem getElem?_insert_eq [DecidableEq Key] (entries : Std.ExtTreeMap Key Value compare)
    (key other : Key) (value : Value) :
    (entries.insert key value)[other]? = if key = other then some value else entries[other]? := by
  rw [Std.ExtTreeMap.getElem?_insert]
  exact if_congr Std.compare_eq_iff_eq rfl rfl

theorem getElem?_erase_eq [DecidableEq Key] (entries : Std.ExtTreeMap Key Value compare)
    (key other : Key) :
    (entries.erase key)[other]? = if key = other then none else entries[other]? := by
  rw [Std.ExtTreeMap.getElem?_erase]
  exact if_congr Std.compare_eq_iff_eq rfl rfl

/-- A property of every entry survives the insertion of an entry that has it. -/
theorem forall_getElem?_insert {property : Key → Value → Prop}
    (holds : ∀ other found, entries[other]? = some found → property other found)
    (added : property key value) :
    ∀ other found, (entries.insert key value)[other]? = some found → property other found := by
  intro other found lookup
  rw [Std.ExtTreeMap.getElem?_insert] at lookup
  split at lookup
  · rename_i same
    obtain rfl := Std.compare_eq_iff_eq.mp same
    obtain rfl := Option.some.inj lookup
    exact added
  · exact holds other found lookup

/-- The same for a map that items are entered into one after the other. -/
theorem forall_getElem?_foldl_insert {Item : Type} {keyOf : Item → Key} {valueOf : Item → Value}
    {property : Key → Value → Prop} {items : List Item}
    {start : Std.ExtTreeMap Key Value compare}
    (initial : ∀ other found, start[other]? = some found → property other found)
    (holds : ∀ item ∈ items, property (keyOf item) (valueOf item)) :
    ∀ other found,
      (items.foldl (fun entered item => entered.insert (keyOf item) (valueOf item)) start)[other]? =
        some found → property other found := by
  induction items generalizing start with
  | nil => exact initial
  | cons item rest inductionHypothesis =>
    rw [List.forall_mem_cons] at holds
    exact inductionHypothesis (forall_getElem?_insert initial holds.1) holds.2

/-- Different keys are counted one by one. -/
theorem size_foldl_insert [DecidableEq Key] {Item : Type} {keyOf : Item → Key}
    {items : List Item} {start : Std.ExtTreeSet Key compare}
    (distinct : (items.map keyOf).Nodup)
    (fresh : ∀ item ∈ items, start.contains (keyOf item) = false) :
    (items.foldl (fun keys item => keys.insert (keyOf item)) start).size =
      start.size + items.length := by
  induction items generalizing start with
  | nil => rfl
  | cons item rest inductionHypothesis =>
    rw [List.forall_mem_cons] at fresh
    rw [List.map_cons, List.nodup_cons] at distinct
    have others : ∀ other ∈ rest, (start.insert (keyOf item)).contains (keyOf other) = false := by
      intro other member
      have different : keyOf item ≠ keyOf other := fun same =>
        distinct.1 (same ▸ List.mem_map_of_mem member)
      rw [contains_insert, fresh.2 other member, Bool.or_false]
      exact beq_false_of_ne different
    rw [List.foldl_cons, inductionHypothesis distinct.2 others, Std.ExtTreeSet.size_insert,
      fresh.1, if_neg Bool.false_ne_true, List.length_cons, Nat.add_assoc, Nat.add_comm 1]

/-- A property of every listed entry is one of every entry of the map built from the list. -/
theorem forall_getElem?_ofList {property : Key → Value → Prop} {listed : List (Key × Value)}
    (holds : ∀ entry ∈ listed, property entry.1 entry.2) :
    ∀ other found, (Std.ExtTreeMap.ofList listed compare)[other]? = some found →
      property other found := by
  have grows : ∀ start : Std.ExtTreeMap Key Value compare,
      (∀ other found, start[other]? = some found → property other found) →
        ∀ other found, (start.insertMany listed)[other]? = some found →
          property other found := by
    induction listed with
    | nil =>
      intro start initial
      rwa [Std.ExtTreeMap.insertMany_nil]
    | cons entry rest inductionHypothesis =>
      intro start initial
      rw [List.forall_mem_cons] at holds
      rw [Std.ExtTreeMap.insertMany_cons]
      exact inductionHypothesis holds.2 _ (forall_getElem?_insert initial holds.1)
  rw [Std.ExtTreeMap.ofList_eq_insertMany_empty]
  refine grows ∅ fun other found lookup => ?_
  rw [Std.ExtTreeMap.getElem?_empty] at lookup
  cases lookup

/-- A map whose entries are listed, with one more entry under a new key. -/
theorem getElem?_insert_iff_mem {listed : List (Key × Value)}
    (holds : ∀ other found, entries[other]? = some found ↔ (other, found) ∈ listed)
    (fresh : ∀ entry ∈ listed, entry.1 ≠ key) (other : Key) (found : Value) :
    (entries.insert key value)[other]? = some found ↔
      (other, found) ∈ listed ++ [(key, value)] := by
  rw [Std.ExtTreeMap.getElem?_insert, List.mem_append, List.mem_singleton, Prod.mk.injEq, ← holds]
  by_cases same : key = other
  · have absent : entries[other]? ≠ some found := fun lookup =>
      fresh _ ((holds other found).mp lookup) same.symm
    rw [if_pos (Std.compare_eq_iff_eq.mpr same), Option.some.injEq]
    constructor
    · exact fun equal => Or.inr ⟨same.symm, equal.symm⟩
    · rintro (lookup | ⟨-, equal⟩)
      · exact absurd lookup absent
      · exact equal.symm
  · rw [if_neg (mt Std.compare_eq_iff_eq.mp same)]
    constructor
    · exact Or.inl
    · rintro (lookup | ⟨equal, -⟩)
      · exact lookup
      · exact absurd equal.symm same

/-- A map is determined by the list of its entries. -/
theorem eq_of_mem_toList {other : Std.ExtTreeMap Key Value compare}
    (holds : ∀ key found, entries[key]? = some found ↔ (key, found) ∈ other.toList) :
    entries = other := by
  refine Std.ExtTreeMap.ext_getElem? fun key => Option.ext fun found => ?_
  rw [holds, Std.ExtTreeMap.mem_toList_iff_getElem?_eq_some]

/-- A map that is built from a list with the map's entries and no key twice. -/
theorem ofList_eq_of_mem_iff {listed : List (Key × Value)}
    (distinct : (listed.map Prod.fst).Nodup)
    (same : ∀ entry, entry ∈ listed ↔ entry ∈ entries.toList) :
    Std.ExtTreeMap.ofList listed compare = entries := by
  have listedOnly : ∀ key found, (Std.ExtTreeMap.ofList listed compare)[key]? = some found →
      (key, found) ∈ listed := forall_getElem?_ofList fun entry member => member
  refine eq_of_mem_toList fun key found => ?_
  rw [← same]
  refine ⟨listedOnly key found, fun member => ?_⟩
  refine Std.ExtTreeMap.getElem?_ofList_of_mem Std.ReflCmp.compare_self ?_ member
  exact (List.pairwise_map.mp distinct).imp fun different equal =>
    different (Std.compare_eq_iff_eq.mp equal)

/-- A map has no more entries than a list that holds all its keys. -/
theorem size_le_length {keys : List Key}
    (listed : ∀ key found, entries[key]? = some found → key ∈ keys) :
    entries.size ≤ keys.length := by
  rw [← Std.ExtTreeMap.length_toList, ← List.length_map Prod.fst]
  refine (nodup_map_fst_toList.subperm fun key member => ?_).length_le
  obtain ⟨entry, present, rfl⟩ := List.mem_map.mp member
  exact listed entry.1 entry.2 (Std.ExtTreeMap.mem_toList_iff_getElem?_eq_some.mp present)

end Entries

/-- A sum is bounded by another one when every term has a larger partner under its key. -/
theorem sum_le_sum_of_partner {Left Right Key : Type} {leftKey : Left → Key}
    {rightKey : Right → Key} {leftSize : Left → Nat} {rightSize : Right → Nat}
    {lefts : List Left} {rights : List Right} (distinct : (lefts.map leftKey).Nodup)
    (partner : ∀ left ∈ lefts, ∃ right ∈ rights,
      rightKey right = leftKey left ∧ leftSize left ≤ rightSize right) :
    (lefts.map leftSize).sum ≤ (rights.map rightSize).sum := by
  induction lefts generalizing rights with
  | nil => exact Nat.zero_le _
  | cons left lefts inductionHypothesis =>
    rw [List.forall_mem_cons] at partner
    rw [List.map_cons, List.nodup_cons] at distinct
    obtain ⟨right, member, key, size⟩ := partner.1
    obtain ⟨before, after, rfl⟩ := List.append_of_mem member
    have others : ∀ other ∈ lefts, ∃ candidate ∈ before ++ after,
        rightKey candidate = leftKey other ∧ leftSize other ≤ rightSize candidate := by
      intro other otherMember
      obtain ⟨candidate, candidateMember, candidateKey, candidateSize⟩ :=
        partner.2 other otherMember
      refine ⟨candidate, ?_, candidateKey, candidateSize⟩
      have different : candidate ≠ right := by
        rintro rfl
        exact distinct.1 (List.mem_map.mpr ⟨other, otherMember, candidateKey.symm.trans key⟩)
      simpa [different] using candidateMember
    have rest := inductionHypothesis distinct.2 others
    simp only [List.map_cons, List.map_append, List.sum_cons, List.sum_append] at rest ⊢
    omega

end Maps

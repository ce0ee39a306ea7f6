/-
This file is JSON after the text is gone: values, and objects as their entries.

An object keeps its entries in the order of their keys and has no key twice; both come
from how entries are inserted. What an object says under a key is what was inserted
there last, so an object that is written field by field, each key once, says under
every key what the field says.
-/

import Mathlib

namespace Json

/-- A value. Of a number only the unsigned word it is, if it is one, is kept. -/
inductive Value where
  | null
  | bool (value : Bool)
  | number (unsigned : Option (BitVec 64))
  | string (text : String)
  | array (items : List Value)
  | object (entries : List (String × Value))
deriving Inhabited

abbrev Entries : Type := List (String × Value)

def Value.asObject? : Value → Option Entries
  | .object entries => some entries
  | _ => none

def Value.asArray? : Value → Option (List Value)
  | .array items => some items
  | _ => none

def Value.asString? : Value → Option String
  | .string text => some text
  | _ => none

def Value.asBool? : Value → Option Bool
  | .bool value => some value
  | _ => none

/-- What an object says under a key. -/
def get? (entries : Entries) (key : String) : Option Value := entries.lookup key

/-- An object with one more entry, in place of the one under its key if there is one. -/
def insert (key : String) (value : Value) : Entries → Entries
  | [] => [(key, value)]
  | entry :: rest =>
    if key < entry.1 then (key, value) :: entry :: rest
    else if key = entry.1 then (key, value) :: rest
    else entry :: insert key value rest

/-- The object that is written field by field. -/
def ofFields (fields : Entries) : Entries :=
  fields.foldl (fun entries field => insert field.1 field.2 entries) []

theorem get?_cons (entry : String × Value) (rest : Entries) (key : String) :
    get? (entry :: rest) key = if key = entry.1 then some entry.2 else get? rest key := by
  rw [get?, List.lookup_cons]
  by_cases same : key = entry.1
  · rw [if_pos same, beq_iff_eq.mpr same]
  · rw [if_neg same, beq_false_of_ne same]
    rfl

theorem get?_insert (entries : Entries) (key other : String) (value : Value) :
    get? (insert key value entries) other =
      if other = key then some value else get? entries other := by
  induction entries with
  | nil => rw [insert, get?_cons]
  | cons entry rest inductionHypothesis =>
    rw [insert]
    by_cases before : key < entry.1
    · rw [if_pos before, get?_cons]
    rw [if_neg before]
    by_cases same : key = entry.1
    · rw [if_pos same, get?_cons, get?_cons, ← same]
      by_cases own : other = key
      · rw [if_pos own, if_pos own]
      · rw [if_neg own, if_neg own, if_neg own]
    · rw [if_neg same, get?_cons, get?_cons, inductionHypothesis]
      by_cases own : other = entry.1
      · rw [if_pos own, if_neg fun equal => same (equal.symm.trans own), if_pos own]
      · rw [if_neg own, if_neg own]

theorem insert_perm {entries : Entries} {key : String} (fresh : key ∉ entries.map Prod.fst)
    (value : Value) : (insert key value entries).Perm ((key, value) :: entries) := by
  induction entries with
  | nil => exact .refl _
  | cons entry rest inductionHypothesis =>
    rw [List.map_cons, List.mem_cons, not_or] at fresh
    rw [insert]
    split_ifs with before same
    · exact .refl _
    · exact absurd same fresh.1
    · exact ((inductionHypothesis fresh.2).cons entry).trans (.swap _ _ _)

section Fields

variable {fields : Entries} (distinct : (fields.map Prod.fst).Nodup)

include distinct

/-- An object has the entries it was written with. -/
theorem ofFields_perm : (ofFields fields).Perm fields := by
  have general : ∀ start : Entries, (∀ key ∈ fields.map Prod.fst, key ∉ start.map Prod.fst) →
      (fields.foldl (fun entries field => insert field.1 field.2 entries) start).Perm
        (fields ++ start) := by
    induction fields with
    | nil => exact fun start _ => .refl _
    | cons field rest inductionHypothesis =>
      intro start fresh
      rw [List.map_cons, List.nodup_cons] at distinct
      have inserted := insert_perm (fresh field.1 List.mem_cons_self) field.2
      rw [List.foldl_cons]
      refine (inductionHypothesis distinct.2 _ fun key member present => ?_).trans
        ((inserted.append_left rest).trans List.perm_middle)
      rcases List.mem_cons.mp ((inserted.map Prod.fst).subset present) with rfl | old
      · exact distinct.1 member
      · exact fresh key (List.mem_cons_of_mem _ member) old
  have whole := general [] fun _ _ => List.not_mem_nil
  rw [List.append_nil] at whole
  exact whole

/-- An object says what its fields say. -/
theorem get?_ofFields (key : String) : get? (ofFields fields) key = get? fields key := by
  have general : ∀ start : Entries,
      get? (fields.foldl (fun entries field => insert field.1 field.2 entries) start) key =
        (get? fields key).or (get? start key) := by
    induction fields with
    | nil => exact fun start => rfl
    | cons field rest inductionHypothesis =>
      intro start
      rw [List.map_cons, List.nodup_cons] at distinct
      rw [List.foldl_cons, inductionHypothesis distinct.2, get?_insert, get?_cons]
      by_cases own : key = field.1
      · have absent : get? rest key = none := by
          rw [get?, List.lookup_eq_none_iff]
          refine fun entry member => bne_iff_ne.mpr fun same => distinct.1 ?_
          rw [← own, same]
          exact List.mem_map_of_mem member
        rw [if_pos own, if_pos own, absent, Option.none_or, Option.some_or]
      · rw [if_neg own, if_neg own]
  rw [ofFields, general []]
  exact Option.or_none

/-- What an object says under the key of one of its fields. -/
theorem get?_ofFields_of_getElem? (index : Nat) {key : String} {value : Value}
    (listed : fields[index]? = some (key, value)) :
    get? (ofFields fields) key = some value := by
  rw [get?_ofFields distinct]
  induction fields generalizing index with
  | nil => cases listed
  | cons field rest inductionHypothesis =>
    rw [List.map_cons, List.nodup_cons] at distinct
    rw [get?_cons]
    cases index with
    | zero =>
      obtain rfl := Option.some.inj listed
      exact if_pos rfl
    | succ index =>
      rw [List.getElem?_cons_succ] at listed
      have other : key ≠ field.1 := by
        rintro rfl
        exact distinct.1 (List.mem_map.mpr ⟨_, List.mem_of_getElem? listed, rfl⟩)
      rw [if_neg other]
      exact inductionHypothesis distinct.2 index listed

end Fields

end Json

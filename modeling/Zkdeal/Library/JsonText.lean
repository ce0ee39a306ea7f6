/-
This file is JSON as it is written: strings in quotes, integers in decimal, and objects
member by member in the order they are given, without white space.

An object says where its first member ends as long as the value of that member has no
comma in it: the rest is the object of the other members. So two objects that are
written alike and start with such a member under one key agree on it and on the rest.
-/

import Zkdeal.Library.Texts

namespace JsonText

open Words Texts

/-- A character inside a string. -/
def escape (character : Char) : Text :=
  match character.toNat with
  | 0x08 => "\\b".toList
  | 0x09 => "\\t".toList
  | 0x0a => "\\n".toList
  | 0x0c => "\\f".toList
  | 0x0d => "\\r".toList
  | 0x22 => "\\\"".toList
  | 0x5c => "\\\\".toList
  | code => if code < 32 then "\\u00".toList ++ hexDigits [BitVec.ofNat 8 code] else [character]

def quote (text : String) : Text :=
  "\"".toList ++ text.toList.flatMap escape ++ "\"".toList

def integer (value : Int) : Text := value.repr.toList

/-- The members of an object, with the values already written. -/
abbrev Members : Type := List (String × Text)

def member (key : String) (value : Text) : Text := quote key ++ ':' :: value

def members : Members → Text
  | [] => []
  | [(key, value)] => member key value
  | (key, value) :: next :: rest => member key value ++ ',' :: members (next :: rest)

def object (fields : Members) : Text := "\x7b".toList ++ members fields ++ "\x7d".toList

/-- The bytes of a text in UTF-8. -/
def utf8 (text : Text) : Bytes :=
  (String.ofList text).toByteArray.data.toList.map UInt8.toBitVec

/-! ### What a text says -/

theorem utf8_injective {first second : Text} (same : utf8 first = utf8 second) :
    first = second := by
  have bytes := List.map_injective_iff.mpr (fun _ _ => UInt8.toBitVec_inj.mp) same
  exact String.ofList_inj.mp (String.toByteArray_inj.mp (ByteArray.ext (Array.toList_inj.mp bytes)))

theorem integer_injective {first second : Int} (same : integer first = integer second) :
    first = second :=
  Int.repr_inj.mp (String.toList_inj.mp same)

theorem comma_not_mem_integer (value : Int) : ',' ∉ integer value := by
  have digits (magnitude : Nat) : ',' ∉ magnitude.repr.toList :=
    fun listed => absurd (isDigit_of_mem_repr listed) (by decide)
  cases value with
  | ofNat magnitude => exact digits magnitude
  | negSucc magnitude =>
    have sign : integer (Int.negSucc magnitude) = '-' :: (magnitude + 1).repr.toList :=
      String.toList_append
    rw [sign, List.mem_cons, not_or]
    exact ⟨by decide, digits (magnitude + 1)⟩

/-- Two texts that agree up to a separator that is in neither of their first parts agree on both
parts. -/
theorem append_cons_inj {separator : Char} {first second rest otherRest : Text}
    (inside : separator ∉ first) (otherInside : separator ∉ second)
    (same : first ++ separator :: rest = second ++ separator :: otherRest) :
    first = second ∧ rest = otherRest := by
  induction first generalizing second with
  | nil =>
    cases second with
    | nil => exact ⟨rfl, (List.cons.inj same).2⟩
    | cons other others =>
      exact absurd ((List.cons.inj same).1 ▸ List.mem_cons_self) otherInside
  | cons character characters inductionHypothesis =>
    cases second with
    | nil => exact absurd ((List.cons.inj same).1 ▸ List.mem_cons_self) inside
    | cons other others =>
      obtain ⟨rfl, tails⟩ := List.cons.inj same
      obtain ⟨parts, rests⟩ := inductionHypothesis (fun listed => inside (.tail _ listed))
        (fun listed => otherInside (.tail _ listed)) tails
      exact ⟨by rw [parts], rests⟩

/-- Objects that are written alike agree on a first member that has no comma in it, and on the
object of the others. -/
theorem object_cons_inj {key : String} {value other : Text} {next otherNext : String × Text}
    {rest otherRest : Members} (inside : ',' ∉ value) (otherInside : ',' ∉ other)
    (same : object ((key, value) :: next :: rest) =
      object ((key, other) :: otherNext :: otherRest)) :
    value = other ∧ object (next :: rest) = object (otherNext :: otherRest) := by
  simp only [object, members, member, List.append_assoc, List.cons_append,
    List.append_cancel_left_eq, List.cons.injEq, true_and] at same
  obtain ⟨values, rests⟩ := append_cons_inj inside otherInside same
  exact ⟨values, by rw [object, object, List.append_assoc, List.append_assoc, rests]⟩

end JsonText

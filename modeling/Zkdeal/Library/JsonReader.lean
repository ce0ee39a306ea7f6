/-
This file reads and writes values as JSON text, without white space and with integers
for numbers; a number that is no unsigned word is written and read as a negative one.

The reader takes a value off the front of a text. A list is read as if a comma stood in
front of its first item as well, so that all its items are read alike. What was written
is read back, whatever follows it that is not one more digit.
-/

import Zkdeal.Library.Json
import Zkdeal.Library.JsonText

namespace JsonText

open Texts

/-! ### The writer -/

/-- Texts with a comma between them. -/
def separated : List Text → Text
  | [] => []
  | text :: rest => text ++ rest.flatMap (',' :: ·)

def ofValue : Json.Value → Text
  | .null => "null".toList
  | .bool true => "true".toList
  | .bool false => "false".toList
  | .number (some word) => word.toNat.repr.toList
  | .number none => "-1".toList
  | .string text => quote text
  | .array items => '[' :: separated (items.map ofValue) ++ [']']
  | .object entries => object (entries.map fun entry => (entry.1, ofValue entry.2))
decreasing_by
  · have smaller := List.sizeOf_lt_of_mem ‹_›
    simp only [Json.Value.array.sizeOf_spec]
    omega
  · have smaller := List.sizeOf_lt_of_mem ‹entry ∈ entries›
    obtain ⟨key, value⟩ := entry
    simp only [Prod.mk.sizeOf_spec, Json.Value.object.sizeOf_spec] at smaller ⊢
    omega

/-! ### The reader -/

def readLiteral (letters : Text) (value : Json.Value) (text : Text) :
    Option (Json.Value × Text) :=
  if text.take letters.length = letters then some (value, text.drop letters.length) else none

def readNumber (text : Text) : Json.Value × Text :=
  (.number ((readRadix 10 (2 ^ 64) (text.takeWhile Char.isDigit)).toOption.map (BitVec.ofNat 64)),
    text.dropWhile Char.isDigit)

/-- The character a letter behind a backslash stands for. -/
def unescape? : Char → Option Char
  | 'b' => some (Char.ofNat 0x08)
  | 't' => some (Char.ofNat 0x09)
  | 'n' => some (Char.ofNat 0x0a)
  | 'f' => some (Char.ofNat 0x0c)
  | 'r' => some (Char.ofNat 0x0d)
  | '\x22' => some '\x22'
  | '\x5c' => some '\x5c'
  | _ => none

/-- A string whose opening quote was taken off. -/
def readString : Text → Option (Text × Text)
  | [] => none
  | '\x22' :: rest => some ([], rest)
  | '\x5c' :: 'u' :: '0' :: '0' :: high :: low :: rest => do
    let bytes ← readHexDigits [high, low]
    let (text, rest) ← readString rest
    some (bytes.map (fun byte => Char.ofNat byte.toNat) ++ text, rest)
  | '\x5c' :: letter :: rest => do
    let character ← unescape? letter
    let (text, rest) ← readString rest
    some (character :: text, rest)
  | character :: rest => do
    let (text, rest) ← readString rest
    some (character :: text, rest)

section Sequences

variable {Item : Type} (read : Text → Option (Item × Text)) (close : Char)

/-- Items with a comma in front of each, up to the closing character. -/
def readItems : Nat → Text → Option (List Item × Text)
  | 0, _ => none
  | _, [] => none
  | fuel + 1, first :: rest =>
    if first = close then some ([], rest)
    else if first = ',' then do
      let (item, rest) ← read rest
      let (items, rest) ← readItems fuel rest
      some (item :: items, rest)
    else none

def readSequence (fuel : Nat) (text : Text) : Option (List Item × Text) :=
  (readItems read close fuel (',' :: text)).or
    (if text.head? = some close then some ([], text.tail) else none)

end Sequences

def readMember (read : Text → Option (Json.Value × Text)) (text : Text) :
    Option ((String × Json.Value) × Text) :=
  if text.head? = some '\x22' then do
    let (key, rest) ← readString text.tail
    if rest.head? = some ':' then do
      let (value, rest) ← read rest.tail
      some ((String.ofList key, value), rest)
    else none
  else none

def readValue : Nat → Text → Option (Json.Value × Text)
  | 0, _ => none
  | _, [] => none
  | fuel + 1, first :: rest =>
    if first.isDigit then some (readNumber (first :: rest))
    else match first with
      | '\x22' => (readString rest).map fun read => (.string (String.ofList read.1), read.2)
      | 'n' => readLiteral "ull".toList .null rest
      | 't' => readLiteral "rue".toList (.bool true) rest
      | 'f' => readLiteral "alse".toList (.bool false) rest
      | '-' => some (.number none, rest.dropWhile Char.isDigit)
      | '[' => (readSequence (readValue fuel) ']' (fuel + 1) rest).map fun read =>
        (.array read.1, read.2)
      | '\x7b' => (readSequence (readMember (readValue fuel)) '\x7d' (fuel + 1) rest).map
        fun read => (.object read.1, read.2)
      | _ => none

/-- The value of a whole text. -/
def read (text : Text) : Option Json.Value := do
  let (value, rest) ← readValue (text.length + 1) text
  if rest = [] then some value else none

/-! ### What was written is read back -/

theorem repr_ne_nil (value : Nat) : value.repr.toList ≠ [] := by
  rw [Nat.toList_repr]
  exact Nat.toDigits_ne_nil

theorem readString_escape (character : Char) (rest : Text) :
    readString (escape character ++ rest) =
      (readString rest).bind fun read => some (character :: read.1, read.2) := by
  have same : Char.ofNat character.toNat = character := Char.ofNat_toNat character
  unfold escape
  split
  case h_8 code notBackspace notTab notLine notFeed notReturn notQuote notBackslash =>
    split
    case isTrue control =>
      have byte : (BitVec.ofNat 8 character.toNat).toNat = character.toNat := by
        rw [BitVec.toNat_ofNat]
        omega
      have hex : readHexDigits (hexDigits [BitVec.ofNat 8 character.toNat]) =
          some [BitVec.ofNat 8 character.toNat] := readHexDigits_hexDigits _
      generalize BitVec.ofNat 8 character.toNat = value at byte hex ⊢
      show (readHexDigits (hexDigits [value])).bind (fun bytes => (readString rest).bind fun read =>
        some (bytes.map (fun byte => Char.ofNat byte.toNat) ++ read.1, read.2)) = _
      rw [hex, Option.bind_some, List.map_singleton, byte, same]
      rfl
    case isFalse =>
      rw [List.singleton_append, readString]
      · rfl
      · exact fun same => notQuote (congrArg Char.toNat same)
      · exact fun _ _ _ same _ => notBackslash (congrArg Char.toNat same)
      · exact fun _ _ same _ => notBackslash (congrArg Char.toNat same)
  all_goals
    rename_i code
    rw [code] at same
    rw [← same]
    rfl

theorem readString_flatMap (text rest : Text) :
    readString (text.flatMap escape ++ '\x22' :: rest) = some (text, rest) := by
  induction text with
  | nil => rfl
  | cons character characters inductionHypothesis =>
    rw [List.flatMap_cons, List.append_assoc, readString_escape, inductionHypothesis]
    rfl

theorem quote_append (text : String) (rest : Text) :
    quote text ++ rest = '\x22' :: (text.toList.flatMap escape ++ '\x22' :: rest) := by
  rw [quote, List.append_assoc, List.append_assoc]
  rfl

/-- What follows does not go on with a digit. -/
def Ends (rest : Text) : Prop := ∀ character ∈ rest.head?, character.isDigit = false

theorem Ends.cons {first : Char} (stop : first.isDigit = false) (rest : Text) :
    Ends (first :: rest) := fun _ same => Option.some.inj same ▸ stop

theorem span_digits {digits rest : Text}
    (all : ∀ character ∈ digits, character.isDigit = true) (ends : Ends rest) :
    (digits ++ rest).takeWhile Char.isDigit = digits ∧
      (digits ++ rest).dropWhile Char.isDigit = rest := by
  rw [List.takeWhile_append_of_pos all, List.dropWhile_append_of_pos all]
  cases rest with
  | nil => exact ⟨List.append_nil _, rfl⟩
  | cons first others =>
    rw [List.takeWhile_cons_of_neg, List.dropWhile_cons_of_neg, List.append_nil]
    · exact ⟨rfl, rfl⟩
    · rw [ends first rfl]; exact Bool.false_ne_true
    · rw [ends first rfl]; exact Bool.false_ne_true

theorem readNumber_repr (word : BitVec 64) {rest : Text} (ends : Ends rest) :
    readNumber (word.toNat.repr.toList ++ rest) = (.number (some word), rest) := by
  obtain ⟨taken, dropped⟩ := span_digits (fun _ => isDigit_of_mem_repr) ends
  rw [readNumber, taken, dropped, readRadix_repr word.isLt]
  simp [Except.toOption]

section Sequences

variable {Item : Type} {read : Text → Option (Item × Text)} {write : Item → Text} {close : Char}

theorem readItems_flatMap (apart : ',' ≠ close) (stop : close.isDigit = false) {items : List Item}
    (each : ∀ item ∈ items, ∀ rest, Ends rest → read (write item ++ rest) = some (item, rest))
    {fuel : Nat} (enough : items.length < fuel) (rest : Text) :
    readItems read close fuel (items.flatMap (fun item => ',' :: write item) ++ close :: rest) =
      some (items, rest) := by
  induction items generalizing fuel with
  | nil =>
    obtain ⟨fuel, rfl⟩ := Nat.exists_eq_add_of_lt enough
    exact if_pos rfl
  | cons item others inductionHypothesis =>
    obtain ⟨fuel, rfl⟩ := Nat.exists_eq_add_of_lt (Nat.zero_lt_of_lt enough)
    obtain ⟨own, each⟩ := List.forall_mem_cons.mp each
    have remaining := @inductionHypothesis each (0 + fuel) (by simp at enough; omega)
    have ends : Ends (others.flatMap (fun item => ',' :: write item) ++ close :: rest) := by
      cases others with
      | nil => exact .cons stop _
      | cons => exact .cons (by decide) _
    rw [List.flatMap_cons, List.append_assoc, List.cons_append, readItems, if_neg apart, if_pos rfl,
      own _ ends]
    show (readItems read close (0 + fuel) _).bind _ = _
    rw [remaining]
    rfl

theorem readSequence_separated (apart : ',' ≠ close) (stop : close.isDigit = false)
    (shut : ∀ rest, read (close :: rest) = none) {items : List Item}
    (each : ∀ item ∈ items, ∀ rest, Ends rest → read (write item ++ rest) = some (item, rest))
    {fuel : Nat} (enough : items.length < fuel) (rest : Text) :
    readSequence read close fuel (separated (items.map write) ++ close :: rest) =
      some (items, rest) := by
  have whole := readItems_flatMap apart stop each enough rest
  cases items with
  | nil =>
    obtain ⟨fuel, rfl⟩ := Nat.exists_eq_add_of_lt enough
    have empty : readItems read close (0 + fuel + 1) (',' :: close :: rest) = none := by
      rw [readItems, if_neg apart, if_pos rfl, shut]
      rfl
    show (readItems read close (0 + fuel + 1) (',' :: close :: rest)).or _ = _
    rw [empty]
    exact if_pos rfl
  | cons item others =>
    rw [List.flatMap_cons, List.append_assoc] at whole
    rw [List.map_cons, separated, List.append_assoc, readSequence, List.flatMap_map,
      ← List.cons_append, whole, Option.some_or]

theorem members_eq (fields : Members) :
    members fields = separated (fields.map fun field => member field.1 field.2) := by
  fun_induction members with
  | case1 => rfl
  | case2 => exact (List.append_nil _).symm
  | case3 key value next rest inductionHypothesis =>
    rw [inductionHypothesis]
    rfl

theorem length_le_separated (texts : List Text) :
    texts.length ≤ (separated texts).length + 1 ∧
      ∀ text ∈ texts, text.length ≤ (separated texts).length := by
  have commas : ∀ texts : List Text, texts.length ≤ (texts.flatMap (',' :: ·)).length ∧
      ∀ text ∈ texts, text.length ≤ (texts.flatMap (',' :: ·)).length := by
    intro texts
    induction texts with
    | nil => simp
    | cons text rest inductionHypothesis =>
      simp only [List.flatMap_cons, List.length_append, List.length_cons, List.forall_mem_cons]
      refine ⟨by omega, by omega, fun other listed => ?_⟩
      have := inductionHypothesis.2 other listed
      omega
  cases texts with
  | nil => simp
  | cons text rest =>
    simp only [separated, List.length_append, List.length_cons, List.forall_mem_cons]
    refine ⟨?_, by omega, fun other listed => ?_⟩
    · have := (commas rest).1
      omega
    · have := (commas rest).2 other listed
      omega

end Sequences

theorem readMember_member {read : Text → Option (Json.Value × Text)} {entry : String × Json.Value}
    {written rest : Text} (value : read (written ++ rest) = some (entry.2, rest)) :
    readMember read (member entry.1 written ++ rest) = some (entry, rest) := by
  rw [member, List.append_assoc, quote_append, readMember, List.head?_cons, if_pos rfl,
    List.tail_cons, readString_flatMap]
  show (read (written ++ rest)).bind
    (fun read => some ((String.ofList entry.1.toList, read.1), read.2)) = _
  rw [value, String.ofList_toList]
  rfl

theorem ofValue_array (items : List Json.Value) (rest : Text) :
    ofValue (.array items) ++ rest = '[' :: (separated (items.map ofValue) ++ ']' :: rest) := by
  rw [ofValue, List.cons_append, List.cons_append, List.append_assoc]
  rfl

theorem ofValue_object (entries : Json.Entries) (rest : Text) :
    ofValue (.object entries) ++ rest =
      '\x7b' :: (separated (entries.map fun entry => member entry.1 (ofValue entry.2)) ++
        '\x7d' :: rest) := by
  rw [ofValue, object, members_eq, List.map_map, List.append_assoc, List.append_assoc]
  rfl

theorem readValue_ofValue (value : Json.Value) {fuel : Nat}
    (enough : (ofValue value).length < fuel) {rest : Text} (ends : Ends rest) :
    readValue fuel (ofValue value ++ rest) = some (value, rest) := by
  induction fuel generalizing value rest with
  | zero => cases enough
  | succ fuel inductionHypothesis =>
    cases value with
    | null => rw [ofValue]; rfl
    | bool value =>
      cases value
      · rw [ofValue]; rfl
      · rw [ofValue]; rfl
    | number unsigned =>
      cases unsigned with
      | none =>
        rw [ofValue]
        exact congrArg (fun read => some (Json.Value.number none, read))
          (@span_digits ['1'] rest (by simp) ends).2
      | some word =>
        rw [ofValue]
        obtain ⟨first, others, shape⟩ := List.exists_cons_of_ne_nil (repr_ne_nil word.toNat)
        have digit : first.isDigit = true := isDigit_of_mem_repr (shape ▸ List.mem_cons_self)
        rw [← readNumber_repr word ends, shape]
        exact if_pos digit
    | string text =>
      rw [ofValue, quote_append]
      show (readString _).map _ = _
      rw [readString_flatMap, Option.map_some, String.ofList_toList]
    | array items =>
      obtain ⟨count, sizes⟩ := length_le_separated (items.map ofValue)
      have size := congrArg List.length (ofValue_array items [])
      simp only [List.append_nil, List.length_map, List.length_cons, List.length_append,
        List.length_nil] at count size
      have sequence := readSequence_separated (by decide : ',' ≠ ']') rfl
        (fun rest => by cases fuel <;> rfl)
        (fun item listed rest ends => inductionHypothesis item
          (Nat.lt_of_le_of_lt (sizes _ (List.mem_map_of_mem listed)) (by omega)) ends)
        (by omega : items.length < fuel + 1) rest
      rw [ofValue_array]
      exact congrArg (Option.map fun read => (Json.Value.array read.1, read.2)) sequence
    | object entries =>
      obtain ⟨count, sizes⟩ := length_le_separated
        (entries.map fun entry => member entry.1 (ofValue entry.2))
      have size := congrArg List.length (ofValue_object entries [])
      simp only [List.append_nil, List.length_map, List.length_cons, List.length_append,
        List.length_nil] at count size
      have short : ∀ entry ∈ entries, (ofValue entry.2).length < fuel := by
        intro entry listed
        have written := sizes _ (List.mem_map_of_mem listed)
        rw [member, List.length_append, List.length_cons] at written
        omega
      have sequence := readSequence_separated (by decide : ',' ≠ '\x7d') rfl
        (fun rest => if_neg (by simp))
        (fun entry listed rest ends =>
          readMember_member (inductionHypothesis entry.2 (short entry listed) ends))
        (by omega : entries.length < fuel + 1) rest
      rw [ofValue_object]
      exact congrArg (Option.map fun read => (Json.Value.object read.1, read.2)) sequence

/-- A text that was written is read. -/
theorem read_ofValue (value : Json.Value) : read (ofValue value) = some value := by
  have whole := @readValue_ofValue value _ (Nat.lt_succ_self _) [] (by simp [Ends])
  rw [List.append_nil] at whole
  rw [read, whole]
  rfl

end JsonText

/-
This file models the reason a failed request is answered with, and decides when it
still shows a full identifier.

The text of the error is scanned once for identifiers, that is `0x` and at least
sixteen hexadecimal digits, and each is cut to its first six and last four digits.
Then the text is taken word by word, endpoints are replaced and what is left of a
bare identifier is cut again.

The scanner takes as many digits as there are and goes on behind them. When the next
identifier follows at once, the zero of its `0x` is one of those digits: the scanner
goes on at the `x`, sees no identifier there and copies it out in full, right behind
the last four digits, the last of which is that zero.

A text is its characters; everything the reporter compares bytes with is ASCII.
-/

import Zkdeal.Library.Texts

namespace Zkdeal

open Texts

/-! ### The reporter's code -/

/-- `is_ascii_hexdigit`. -/
def isHexDigit (character : Char) : Bool :=
  character.isDigit || ('a' ≤ character && character ≤ 'f') ||
    ('A' ≤ character && character ≤ 'F')

/-- The digits a text begins with. -/
def digitRun (text : Text) : Text := text.takeWhile isHexDigit

/-- The digits of the identifier that a text begins with, if it begins with one. -/
def identifierDigits? : Text → Option Text
  | '0' :: 'x' :: rest => if 16 ≤ (digitRun rest).length then some (digitRun rest) else none
  | _ => none

/-- What is written for an identifier. -/
def shortened (digits : Text) : Text :=
  '0' :: 'x' :: (digits.take 6 ++ "...".toList ++ digits.drop (digits.length - 4))

/-- The scanner, with the number of characters before its cursor that are left to pass. -/
def scanFrom : Nat → Text → Text
  | _, [] => []
  | passed + 1, _ :: rest => scanFrom passed rest
  | 0, character :: rest =>
    match identifierDigits? (character :: rest) with
    | some digits => shortened digits ++ scanFrom (digits.length + 1) rest
    | none => character :: scanFrom 0 rest

def shortenEmbeddedIdentifiers (value : Text) : Text := scanFrom 0 value

/-- The length is in bytes in the source; only ASCII reaches it. -/
def shortenedIdentifier (value : Text) : Text :=
  if "0x".toList.isPrefixOf value && value.length > 14 then
    value.take 8 ++ "...".toList ++ value.drop (value.length - 4)
  else value

def splitWhitespace (text : Text) : List Text :=
  (text.splitOnP isWhitespace).filter (!·.isEmpty)

def isPunctuation (character : Char) : Bool :=
  [',', ';', ')', '(', '[', ']'].contains character

def trimPunctuation (word : Text) : Text := (word.dropWhile isPunctuation).rdropWhile isPunctuation

def namesEndpoint (clean : Text) : Bool :=
  "http://".toList.isPrefixOf clean || "https://".toList.isPrefixOf clean

/-- What is written for a word. -/
def safeFailureWord (word : Text) : Text :=
  let clean := trimPunctuation word
  if namesEndpoint clean then "the configured endpoint".toList
  else if "0x".toList.isPrefixOf clean && (clean.drop 2).all isHexDigit then
    shortenedIdentifier clean
  else word

def safeFailureReason (message : Text) : Text :=
  let raw := shortenEmbeddedIdentifiers message
  let words := ((splitWhitespace raw).take 24).map safeFailureWord
  if words.isEmpty then "The request could not be validated.".toList
  else [' '].intercalate words

/-! ### What must not be shown -/

/-- A full identifier in a text. -/
def Discloses (text : Text) : Prop :=
  ∃ digits : Text, 16 ≤ digits.length ∧ digits.all isHexDigit ∧ '0' :: 'x' :: digits <:+: text

/-- Two identifiers in a text, the second right behind the first. -/
def Adjoins (text : Text) : Prop :=
  ∃ first second : Text, 15 ≤ first.length ∧ first.all isHexDigit ∧
    16 ≤ second.length ∧ second.all isHexDigit ∧
    '0' :: 'x' :: (first ++ '0' :: 'x' :: second) <:+: text

/-- An error that names two hashes without anything between them. -/
theorem safeFailureReason_discloses :
    Discloses (safeFailureReason
      "hashes 0x0123456789abcdef0123456789abcdef0xfedcba9876543210fedcba9876543210".toList) :=
  ⟨"fedcba9876543210fedcba9876543210".toList, by decide +kernel, by decide +kernel,
    by decide +kernel⟩

/-! ### Places in a text -/

/-- What stands somewhere in a text, together with everything behind it. -/
def Occurs (property : Text → Prop) (text : Text) : Prop := ∃ place, place <:+ text ∧ property place

/-- A text that begins with an identifier. -/
def Identifier (text : Text) : Prop := ∃ digits, identifierDigits? text = some digits

/-- Behind the digits of an identifier, the next one begins with the last of them. -/
def Follows (digits after : Text) : Prop :=
  digits.getLast? = some '0' ∧ ∃ rest, after = 'x' :: rest ∧ 16 ≤ (digitRun rest).length

/-- A text that begins with two identifiers, the second right behind the first. -/
def AdjoinsAt (text : Text) : Prop :=
  ∃ digits after, digits.all isHexDigit ∧ 16 ≤ digits.length ∧ Follows digits after ∧
    text = '0' :: 'x' :: (digits ++ after)

/-- Nothing that begins before such a text reaches into it. -/
def Apart (text : Text) : Prop :=
  ∀ character rest, text = character :: rest → isHexDigit character = false ∧ character ≠ 'x'

section Places

theorem occurs_cons {property : Text → Prop} {character : Char} {rest : Text} :
    Occurs property (character :: rest) ↔
      property (character :: rest) ∨ Occurs property rest := by
  constructor
  · rintro ⟨place, suffix, holds⟩
    rcases List.suffix_cons_iff.mp suffix with rfl | inside
    · exact .inl holds
    · exact .inr ⟨place, inside, holds⟩
  · rintro (holds | ⟨place, inside, holds⟩)
    · exact ⟨_, List.suffix_rfl, holds⟩
    · exact ⟨place, inside.trans (List.suffix_cons _ _), holds⟩

theorem not_occurs_nil {property : Text → Prop} (needs : ¬ property []) : ¬ Occurs property [] := by
  rintro ⟨place, suffix, holds⟩
  exact needs (List.suffix_nil.mp suffix ▸ holds)

theorem identifierDigits?_eq_some {text digits : Text} :
    identifierDigits? text = some digits ↔
      ∃ rest, text = '0' :: 'x' :: rest ∧ digitRun rest = digits ∧ 16 ≤ digits.length := by
  unfold identifierDigits?
  split
  · rename_i rest
    constructor
    · intro read
      split at read
      · rename_i long
        obtain rfl := Option.some.inj read
        exact ⟨rest, rfl, rfl, long⟩
      · cases read
    · rintro ⟨_, same, rfl, long⟩
      obtain rfl := (List.cons.inj (List.cons.inj same).2).2
      exact if_pos long
  · rename_i other
    constructor
    · intro read
      cases read
    · rintro ⟨rest, rfl, _⟩
      exact absurd rfl (other rest)

theorem identifier_iff {text : Text} :
    Identifier text ↔ ∃ rest, text = '0' :: 'x' :: rest ∧ 16 ≤ (digitRun rest).length := by
  constructor
  · rintro ⟨digits, read⟩
    obtain ⟨rest, same, rfl, long⟩ := identifierDigits?_eq_some.mp read
    exact ⟨rest, same, long⟩
  · rintro ⟨rest, same, long⟩
    exact ⟨_, identifierDigits?_eq_some.mpr ⟨rest, same, rfl, long⟩⟩

theorem digitRun_all (text : Text) : (digitRun text).all isHexDigit = true :=
  List.all_eq_true.mpr fun _ member => List.mem_takeWhile_imp member

/-- The digits of a run are the run when nothing behind them belongs to it. -/
theorem digitRun_append {digits after : Text} (hexadecimal : digits.all isHexDigit = true)
    (ends : digitRun after = []) : digitRun (digits ++ after) = digits := by
  rw [digitRun, List.takeWhile_append_of_pos (List.all_eq_true.mp hexadecimal), ← digitRun, ends,
    List.append_nil]

theorem length_le_digitRun {digits : Text} (hexadecimal : digits.all isHexDigit = true)
    (after : Text) : digits.length ≤ (digitRun (digits ++ after)).length := by
  rw [digitRun, List.takeWhile_append_of_pos (List.all_eq_true.mp hexadecimal),
    List.length_append]
  exact Nat.le_add_right _ _

theorem discloses_iff_occurs {text : Text} : Discloses text ↔ Occurs Identifier text := by
  constructor
  · rintro ⟨digits, long, hexadecimal, before, after, rfl⟩
    refine ⟨'0' :: 'x' :: (digits ++ after), ⟨before, ?_⟩, identifier_iff.mpr ⟨_, rfl, ?_⟩⟩
    · simp only [List.cons_append, List.append_assoc]
    · exact long.trans (length_le_digitRun hexadecimal after)
  · rintro ⟨place, ⟨before, rfl⟩, identifier⟩
    obtain ⟨rest, rfl, long⟩ := identifier_iff.mp identifier
    refine ⟨digitRun rest, long, digitRun_all rest, before, rest.dropWhile isHexDigit, ?_⟩
    rw [digitRun, List.append_assoc, List.cons_append, List.cons_append,
      List.takeWhile_append_dropWhile]

theorem adjoins_iff_occurs {text : Text} : Adjoins text ↔ Occurs AdjoinsAt text := by
  constructor
  · rintro ⟨first, second, long, hexadecimal, longer, others, before, after, rfl⟩
    refine ⟨'0' :: 'x' :: (first ++ ['0'] ++ 'x' :: (second ++ after)), ⟨before, ?_⟩,
      first ++ ['0'], 'x' :: (second ++ after), ?_, ?_, ⟨?_, _, rfl, ?_⟩, rfl⟩
    · simp only [List.cons_append, List.append_assoc, List.nil_append]
    · rw [List.all_append, hexadecimal]
      rfl
    · rw [List.length_append, List.length_singleton]
      omega
    · rw [List.getLast?_append, List.getLast?_singleton, Option.some_or]
    · exact longer.trans (length_le_digitRun others after)
  · rintro ⟨place, ⟨before, rfl⟩, digits, after, hexadecimal, long, follows, rfl⟩
    obtain ⟨last, rest, rfl, longer⟩ := follows
    obtain ⟨first, rfl⟩ := List.getLast?_eq_some_iff.mp last
    rw [List.all_append, Bool.and_eq_true] at hexadecimal
    rw [List.length_append, List.length_singleton] at long
    refine ⟨first, digitRun rest, by omega, hexadecimal.1, longer, digitRun_all rest, before,
      rest.dropWhile isHexDigit, ?_⟩
    simp only [digitRun, List.cons_append, List.append_assoc, List.nil_append,
      List.takeWhile_append_dropWhile]

/-- Two identifiers begin with one. -/
theorem AdjoinsAt.identifier {text : Text} (adjoins : AdjoinsAt text) : Identifier text := by
  obtain ⟨digits, after, hexadecimal, long, _, rfl⟩ := adjoins
  exact identifier_iff.mpr ⟨_, rfl, long.trans (length_le_digitRun hexadecimal after)⟩

theorem not_occurs_identifier_nil : ¬ Occurs Identifier [] :=
  not_occurs_nil fun ⟨_, read⟩ => nomatch read

theorem not_identifier_of_ne {character : Char} {rest : Text} (other : character ≠ '0') :
    ¬ Identifier (character :: rest) := by
  intro identifier
  obtain ⟨_, same, _⟩ := identifier_iff.mp identifier
  exact other (List.cons.inj same).1

/-- Among digits, an identifier begins at the last of them or not at all. -/
theorem occurs_digits {property : Text → Prop}
    (stronger : ∀ place, property place → Identifier place) {digits after : Text}
    (hexadecimal : digits.all isHexDigit = true) (occurs : Occurs property (digits ++ after)) :
    Follows digits after ∨ Occurs property after := by
  induction digits with
  | nil => exact .inr occurs
  | cons digit rest inductionHypothesis =>
    rw [List.all_cons, Bool.and_eq_true] at hexadecimal
    rcases occurs_cons.mp occurs with here | later
    · obtain ⟨tail, same, long⟩ := identifier_iff.mp (stronger _ here)
      obtain ⟨rfl, behind⟩ := List.cons.inj same
      cases rest with
      | nil => exact .inl ⟨rfl, tail, behind, long⟩
      | cons second others =>
        obtain ⟨rfl, _⟩ := List.cons.inj behind
        rw [List.all_cons, Bool.and_eq_true] at hexadecimal
        exact absurd hexadecimal.2.1 (by decide)
    · rcases inductionHypothesis hexadecimal.2 later with ⟨last, follows⟩ | found
      · refine .inl ⟨?_, follows⟩
        rw [List.getLast?_cons, last]
        rfl
      · exact .inr found

theorem Follows.occurs {digits after : Text} (follows : Follows digits after) :
    Occurs Identifier (digits ++ after) := by
  obtain ⟨last, rest, rfl, long⟩ := follows
  obtain ⟨first, rfl⟩ := List.getLast?_eq_some_iff.mp last
  refine ⟨'0' :: 'x' :: rest, ⟨first, ?_⟩, identifier_iff.mpr ⟨rest, rfl, long⟩⟩
  rw [List.append_assoc, List.singleton_append]

end Places

/-! ### The scanner -/

/-- A run of the scanner over a text, and what it writes. -/
inductive Scanned : Text → Text → Prop
  | done : Scanned [] []
  | plain {character : Char} {rest output : Text} (other : ¬ Identifier (character :: rest))
      (further : Scanned rest output) : Scanned (character :: rest) (character :: output)
  | identifier {digits after output : Text} (hexadecimal : digits.all isHexDigit = true)
      (long : 16 ≤ digits.length) (ends : digitRun after = []) (further : Scanned after output) :
      Scanned ('0' :: 'x' :: (digits ++ after)) (shortened digits ++ output)

section Scanner

theorem scanFrom_eq_drop (passed : Nat) (text : Text) :
    scanFrom passed text = scanFrom 0 (text.drop passed) := by
  induction passed generalizing text with
  | zero => rw [List.drop_zero]
  | succ passed inductionHypothesis =>
    cases text with
    | nil => rfl
    | cons character rest => exact inductionHypothesis rest

theorem shortenEmbeddedIdentifiers_plain {character : Char} {rest : Text}
    (other : ¬ Identifier (character :: rest)) :
    shortenEmbeddedIdentifiers (character :: rest) =
      character :: shortenEmbeddedIdentifiers rest := by
  have none : identifierDigits? (character :: rest) = none :=
    Option.eq_none_iff_forall_ne_some.mpr fun digits read => other ⟨digits, read⟩
  rw [shortenEmbeddedIdentifiers, scanFrom, none]
  rfl

theorem shortenEmbeddedIdentifiers_identifier {digits after : Text}
    (hexadecimal : digits.all isHexDigit = true) (long : 16 ≤ digits.length)
    (ends : digitRun after = []) :
    shortenEmbeddedIdentifiers ('0' :: 'x' :: (digits ++ after)) =
      shortened digits ++ shortenEmbeddedIdentifiers after := by
  have read : identifierDigits? ('0' :: 'x' :: (digits ++ after)) = some digits :=
    identifierDigits?_eq_some.mpr ⟨_, rfl, digitRun_append hexadecimal ends, long⟩
  rw [shortenEmbeddedIdentifiers, scanFrom, read]
  show shortened digits ++ scanFrom (digits.length + 1) ('x' :: (digits ++ after)) = _
  rw [scanFrom, scanFrom_eq_drop, List.drop_left]
  rfl

/-- What a run writes is what the scanner computes. -/
theorem Scanned.eq_shorten {text output : Text} (scanned : Scanned text output) :
    output = shortenEmbeddedIdentifiers text := by
  induction scanned with
  | done => rfl
  | plain other _ inductionHypothesis =>
    rw [shortenEmbeddedIdentifiers_plain other, inductionHypothesis]
  | identifier hexadecimal long ends _ inductionHypothesis =>
    rw [shortenEmbeddedIdentifiers_identifier hexadecimal long ends, inductionHypothesis]

/-- The scanner has a run over every text. -/
theorem scanned_shorten (text : Text) : Scanned text (shortenEmbeddedIdentifiers text) := by
  obtain ⟨bound, below⟩ : ∃ bound, text.length ≤ bound := ⟨_, le_rfl⟩
  induction bound generalizing text with
  | zero =>
    obtain rfl := List.length_eq_zero_iff.mp (Nat.le_zero.mp below)
    exact .done
  | succ bound inductionHypothesis =>
    cases text with
    | nil => exact .done
    | cons character rest =>
      rw [List.length_cons] at below
      by_cases identifier : Identifier (character :: rest)
      · obtain ⟨tail, same, long⟩ := identifier_iff.mp identifier
        obtain ⟨rfl, rfl⟩ := List.cons.inj same
        have ends : digitRun (tail.dropWhile isHexDigit) = [] := by
          rw [digitRun, List.takeWhile_eq_nil_iff]
          intro positive
          exact List.dropWhile_get_zero_not isHexDigit tail positive
        have shorter : (tail.dropWhile isHexDigit).length ≤ bound := by
          have suffix := (List.dropWhile_suffix isHexDigit (l := tail)).length_le
          rw [List.length_cons] at below
          omega
        have run := Scanned.identifier (digitRun_all tail) long ends
          (inductionHypothesis _ shorter)
        have whole : digitRun tail ++ tail.dropWhile isHexDigit = tail :=
          List.takeWhile_append_dropWhile
        rw [whole] at run
        exact run.eq_shorten ▸ run
      · rw [shortenEmbeddedIdentifiers_plain identifier]
        exact .plain identifier (inductionHypothesis rest (by omega))

/-- The digits a text begins with are written as they are. -/
theorem Scanned.digitRun_eq {text output : Text} (scanned : Scanned text output) :
    digitRun output = digitRun text := by
  induction scanned with
  | done => rfl
  | @plain character rest output other _ inductionHypothesis =>
    unfold digitRun at inductionHypothesis ⊢
    rw [List.takeWhile_cons, List.takeWhile_cons, inductionHypothesis]
  | identifier => rfl

/-- What begins a text and is no zero is copied, and copied from there. -/
theorem Scanned.of_cons {text output : Text} {character : Char} (other : character ≠ '0')
    (scanned : Scanned text (character :: output)) :
    ∃ rest, text = character :: rest ∧ Scanned rest output := by
  generalize whole : character :: output = written at scanned
  cases scanned with
  | done => cases whole
  | plain _ further =>
    obtain ⟨rfl, rfl⟩ := List.cons.inj whole
    exact ⟨_, rfl, further⟩
  | identifier => exact absurd (List.cons.inj whole).1 other

theorem Scanned.mem {text output : Text} (scanned : Scanned text output) {character : Char}
    (member : character ∈ output) : character ∈ text ∨ character = '.' := by
  induction scanned with
  | done => exact .inl member
  | plain _ _ inductionHypothesis =>
    rcases List.mem_cons.mp member with rfl | later
    · exact .inl List.mem_cons_self
    · exact (inductionHypothesis later).imp_left (List.mem_cons_of_mem _)
  | @identifier digits after output _ _ _ _ inductionHypothesis =>
    rcases List.mem_append.mp member with piece | later
    · rw [shortened, List.mem_cons, List.mem_cons, List.mem_append, List.mem_append] at piece
      rcases piece with rfl | rfl | (first | dot) | last
      · exact .inl List.mem_cons_self
      · exact .inl (List.mem_cons_of_mem _ List.mem_cons_self)
      · have digit := List.mem_of_mem_take first
        exact .inl (by simp only [List.mem_cons, List.mem_append, digit, or_true, true_or])
      · exact .inr (by simpa using dot)
      · have digit := List.mem_of_mem_drop last
        exact .inl (by simp only [List.mem_cons, List.mem_append, digit, or_true, true_or])
    · refine (inductionHypothesis later).imp_left fun found => ?_
      simp only [List.mem_cons, List.mem_append, found, or_true]

end Scanner

/-! ### Identifiers behind identifiers -/

section Disclosure

/-- The last digits that are written for an identifier end as its digits do, and what is
written behind them begins as what follows does. -/
theorem follows_shortened {digits after output : Text} (long : 16 ≤ digits.length)
    (scanned : Scanned after output) :
    Follows (digits.drop (digits.length - 4)) output ↔ Follows digits after := by
  have same : (digits.drop (digits.length - 4)).getLast? = digits.getLast? := by
    rw [List.getLast?_drop, if_neg (by omega)]
  constructor
  · rintro ⟨last, rest, rfl, longer⟩
    obtain ⟨behind, rfl, further⟩ := scanned.of_cons (by decide)
    exact ⟨same ▸ last, behind, rfl, further.digitRun_eq ▸ longer⟩
  · rintro ⟨last, rest, rfl, longer⟩
    cases scanned with
    | plain _ further => exact ⟨same.trans last, _, rfl, further.digitRun_eq ▸ longer⟩

/-- An identifier is disclosed behind a shortened one or further on. -/
theorem occurs_shortened {digits output : Text} (hexadecimal : digits.all isHexDigit = true) :
    Occurs Identifier (shortened digits ++ output) ↔
      Follows (digits.drop (digits.length - 4)) output ∨ Occurs Identifier output := by
  have first : (digits.take 6).all isHexDigit = true :=
    List.all_eq_true.mpr fun _ member =>
      List.all_eq_true.mp hexadecimal _ (List.mem_of_mem_take member)
  have last : (digits.drop (digits.length - 4)).all isHexDigit = true :=
    List.all_eq_true.mpr fun _ member =>
      List.all_eq_true.mp hexadecimal _ (List.mem_of_mem_drop member)
  have layout : shortened digits ++ output = '0' :: 'x' :: (digits.take 6 ++
      '.' :: '.' :: '.' :: (digits.drop (digits.length - 4) ++ output)) := by
    simp [shortened]
  rw [layout]
  constructor
  · intro occurs
    rcases occurs_cons.mp occurs with here | occurs
    · obtain ⟨rest, same, long⟩ := identifier_iff.mp here
      obtain rfl := (List.cons.inj (List.cons.inj same).2).2
      rw [digitRun_append first rfl, List.length_take] at long
      omega
    rcases occurs_cons.mp occurs with here | occurs
    · exact absurd here (not_identifier_of_ne (by decide))
    rcases occurs_digits (fun _ => id) first occurs with ⟨_, rest, same, _⟩ | occurs
    · exact absurd (List.cons.inj same).1 (by decide)
    rcases occurs_cons.mp occurs with here | occurs
    · exact absurd here (not_identifier_of_ne (by decide))
    rcases occurs_cons.mp occurs with here | occurs
    · exact absurd here (not_identifier_of_ne (by decide))
    rcases occurs_cons.mp occurs with here | occurs
    · exact absurd here (not_identifier_of_ne (by decide))
    exact occurs_digits (fun _ => id) last occurs
  · intro behind
    have tail : Occurs Identifier (digits.drop (digits.length - 4) ++ output) := by
      rcases behind with follows | ⟨place, inside, identifier⟩
      · exact follows.occurs
      · exact ⟨place, inside.trans (List.suffix_append _ _), identifier⟩
    obtain ⟨place, inside, identifier⟩ := tail
    refine ⟨place, inside.trans ⟨'0' :: 'x' :: (digits.take 6 ++ ['.', '.', '.']), ?_⟩, identifier⟩
    simp

theorem occurs_adjoinsAt_identifier {digits after : Text}
    (hexadecimal : digits.all isHexDigit = true) (long : 16 ≤ digits.length)
    (ends : digitRun after = []) :
    Occurs AdjoinsAt ('0' :: 'x' :: (digits ++ after)) ↔
      Follows digits after ∨ Occurs AdjoinsAt after := by
  constructor
  · intro occurs
    rcases occurs_cons.mp occurs with ⟨first, behind, others, _, follows, same⟩ | occurs
    · have same := (List.cons.inj (List.cons.inj same).2).2
      have stops : digitRun behind = [] := by
        obtain ⟨_, rest, rfl, _⟩ := follows
        rfl
      obtain rfl : digits = first :=
        calc digits = digitRun (digits ++ after) := (digitRun_append hexadecimal ends).symm
          _ = digitRun (first ++ behind) := congrArg digitRun same
          _ = first := digitRun_append others stops
      exact .inl (List.append_cancel_left same ▸ follows)
    rcases occurs_cons.mp occurs with here | occurs
    · exact absurd here.identifier (not_identifier_of_ne (by decide))
    exact occurs_digits (fun _ => AdjoinsAt.identifier) hexadecimal occurs
  · rintro (follows | ⟨place, inside, adjoins⟩)
    · exact ⟨_, List.suffix_rfl, digits, after, hexadecimal, long, follows, rfl⟩
    · exact ⟨place, inside.trans ⟨'0' :: 'x' :: digits, by simp⟩, adjoins⟩

/-- The scanner discloses an identifier exactly when one stands right behind another. -/
theorem Scanned.discloses_iff {text output : Text} (scanned : Scanned text output) :
    Discloses output ↔ Adjoins text := by
  rw [discloses_iff_occurs, adjoins_iff_occurs]
  induction scanned with
  | done =>
    exact iff_of_false not_occurs_identifier_nil (not_occurs_nil fun adjoins =>
      nomatch adjoins.identifier)
  | @plain character rest output other further inductionHypothesis =>
    have written : ¬ Identifier (character :: output) := by
      intro identifier
      obtain ⟨tail, same, long⟩ := identifier_iff.mp identifier
      obtain ⟨rfl, rfl⟩ := List.cons.inj same
      obtain ⟨behind, rfl, later⟩ := further.of_cons (by decide)
      exact other (identifier_iff.mpr ⟨behind, rfl, later.digitRun_eq ▸ long⟩)
    rw [occurs_cons, occurs_cons, inductionHypothesis, or_iff_right written,
      or_iff_right fun adjoins => other adjoins.identifier]
  | identifier hexadecimal long ends further inductionHypothesis =>
    rw [occurs_shortened hexadecimal, occurs_adjoinsAt_identifier hexadecimal long ends,
      follows_shortened long further, inductionHypothesis]

/-- A text that discloses one shows that another was shortened. -/
theorem Scanned.dot_mem {text output : Text} (scanned : Scanned text output)
    (adjoins : Adjoins text) : '.' ∈ output := by
  rw [adjoins_iff_occurs] at adjoins
  induction scanned with
  | done => exact absurd adjoins (not_occurs_nil fun here => nomatch here.identifier)
  | plain other _ inductionHypothesis =>
    rcases occurs_cons.mp adjoins with here | later
    · exact absurd here.identifier other
    · exact List.mem_cons_of_mem _ (inductionHypothesis later)
  | identifier => simp [shortened]

end Disclosure

/-! ### Words -/

section Words

theorem toNat_of_isHexDigit {character : Char} (digit : isHexDigit character = true) :
    48 ≤ character.toNat ∧ character.toNat ≤ 102 := by
  unfold isHexDigit Char.isDigit at digit
  simp only [Bool.or_eq_true, Bool.and_eq_true, decide_eq_true_eq, Char.le_def,
    UInt32.le_iff_toNat_le, ge_iff_le] at digit
  have code : character.toNat = character.val.toNat := rfl
  have bounds : '0'.val.toNat = 48 ∧ '9'.val.toNat = 57 ∧ 'a'.val.toNat = 97 ∧
      'f'.val.toNat = 102 ∧ 'A'.val.toNat = 65 ∧ 'F'.val.toNat = 70 := by decide
  omega

theorem apart_of_isWhitespace {character : Char} (space : isWhitespace character = true)
    (rest : Text) : Apart (character :: rest) := by
  have code := toNat_of_isWhitespace space
  rintro _ _ ⟨⟩
  refine ⟨Bool.eq_false_iff.mpr fun digit => ?_, ?_⟩
  · have bounds := toNat_of_isHexDigit digit
    omega
  · rintro rfl
    exact absurd code (by decide)

theorem digitRun_append_apart (text : Text) {after : Text} (apart : Apart after) :
    digitRun (text ++ after) = digitRun text := by
  have ends : after.takeWhile isHexDigit = [] := by
    cases after with
    | nil => rfl
    | cons character rest =>
      rw [List.takeWhile_cons, (apart _ _ rfl).1]
      rfl
  rw [digitRun, digitRun, List.takeWhile_append, ends, List.append_nil]
  split
  · rename_i whole
    exact ((List.takeWhile_prefix isHexDigit).eq_of_length whole).symm
  · rfl

theorem identifier_append_apart {character : Char} {rest after : Text} (apart : Apart after) :
    Identifier (character :: rest ++ after) ↔ Identifier (character :: rest) := by
  rw [identifier_iff, identifier_iff]
  constructor
  · rintro ⟨tail, same, long⟩
    obtain ⟨rfl, behind⟩ := List.cons.inj same
    cases rest with
    | nil => exact absurd rfl (apart _ _ behind).2
    | cons second others =>
      obtain ⟨rfl, rfl⟩ := List.cons.inj behind
      exact ⟨others, rfl, digitRun_append_apart others apart ▸ long⟩
  · rintro ⟨tail, same, long⟩
    obtain ⟨rfl, rfl⟩ := List.cons.inj same
    exact ⟨tail ++ after, rfl, (digitRun_append_apart tail apart).symm ▸ long⟩

/-- Runs over texts that stand apart are one run. -/
theorem Scanned.append {text output after further : Text} (scanned : Scanned text output)
    (apart : Apart after) (behind : Scanned after further) :
    Scanned (text ++ after) (output ++ further) := by
  induction scanned with
  | done => exact behind
  | plain other _ inductionHypothesis =>
    exact .plain (fun identifier => other ((identifier_append_apart apart).mp identifier))
      inductionHypothesis
  | @identifier digits tail _ hexadecimal long ends _ inductionHypothesis =>
    have run := Scanned.identifier hexadecimal long
      ((digitRun_append_apart tail apart).trans ends) inductionHypothesis
    rw [← List.append_assoc, ← List.append_assoc] at run
    exact run

theorem shortenEmbeddedIdentifiers_append (text : Text) {after : Text} (apart : Apart after) :
    shortenEmbeddedIdentifiers (text ++ after) =
      shortenEmbeddedIdentifiers text ++ shortenEmbeddedIdentifiers after :=
  ((scanned_shorten text).append apart (scanned_shorten after)).eq_shorten.symm

/-- An identifier does not reach over a character that stands apart. -/
theorem discloses_append_apart {text rest : Text} {character : Char} (other : character ≠ '0')
    (apart : Apart (character :: rest)) :
    Discloses (text ++ character :: rest) ↔ Discloses text ∨ Discloses rest := by
  rw [discloses_iff_occurs, discloses_iff_occurs, discloses_iff_occurs]
  induction text with
  | nil =>
    rw [List.nil_append, occurs_cons, or_iff_right (not_identifier_of_ne other),
      or_iff_right not_occurs_identifier_nil]
  | cons first others inductionHypothesis =>
    rw [List.cons_append, occurs_cons, inductionHypothesis, occurs_cons, or_assoc,
      ← List.cons_append, identifier_append_apart apart]

theorem discloses_intercalate {words : List Text} :
    Discloses ([' '].intercalate words) ↔ ∃ word ∈ words, Discloses word := by
  have space (rest : Text) : Apart (' ' :: rest) := apart_of_isWhitespace (by decide) rest
  induction words with
  | nil =>
    refine iff_of_false ?_ fun ⟨_, member, _⟩ => nomatch member
    rw [discloses_iff_occurs]
    exact not_occurs_identifier_nil
  | cons word rest inductionHypothesis =>
    cases rest with
    | nil => simp [List.intercalate]
    | cons second others =>
      rw [List.intercalate_cons_cons, List.append_assoc, List.singleton_append,
        discloses_append_apart (by decide) (space _), List.exists_mem_cons_iff]
      exact or_congr_right inductionHypothesis

theorem splitWhitespace_append {text rest : Text} {character : Char}
    (space : isWhitespace character = true) :
    splitWhitespace (text ++ character :: rest) = splitWhitespace text ++ splitWhitespace rest := by
  rw [splitWhitespace, List.splitOnP_append_cons text rest space, List.filter_append]
  rfl

theorem splitWhitespace_of_forall {text : Text}
    (solid : ∀ character ∈ text, isWhitespace character = false) :
    splitWhitespace text = if text.isEmpty then [] else [text] := by
  rw [splitWhitespace, List.splitOnP_eq_singleton solid]
  cases text with
  | nil => rfl
  | cons => rfl

/-- The scanner works word by word. -/
theorem splitWhitespace_shorten (text : Text) :
    splitWhitespace (shortenEmbeddedIdentifiers text) =
      (splitWhitespace text).map shortenEmbeddedIdentifiers := by
  obtain ⟨bound, below⟩ : ∃ bound, text.length ≤ bound := ⟨_, le_rfl⟩
  induction bound generalizing text with
  | zero =>
    obtain rfl := List.length_eq_zero_iff.mp (Nat.le_zero.mp below)
    rfl
  | succ bound inductionHypothesis =>
    by_cases spaced : ∃ character ∈ text, isWhitespace character = true
    · obtain ⟨character, member, space⟩ := spaced
      obtain ⟨before, after, rfl⟩ := List.append_of_mem member
      have other : ¬ Identifier (character :: after) := by
        refine not_identifier_of_ne ?_
        rintro rfl
        exact absurd space (by decide)
      rw [List.length_append, List.length_cons] at below
      rw [shortenEmbeddedIdentifiers_append _ (apart_of_isWhitespace space after),
        shortenEmbeddedIdentifiers_plain other, splitWhitespace_append space,
        splitWhitespace_append space, List.map_append, inductionHypothesis before (by omega),
        inductionHypothesis after (by omega)]
    · have solid : ∀ character ∈ text, isWhitespace character = false :=
        fun character member => Bool.eq_false_iff.mpr fun space => spaced ⟨_, member, space⟩
      have written : ∀ character ∈ shortenEmbeddedIdentifiers text,
          isWhitespace character = false := by
        intro character member
        rcases (scanned_shorten text).mem member with inside | rfl
        · exact solid character inside
        · decide
      rw [splitWhitespace_of_forall solid, splitWhitespace_of_forall written]
      cases text with
      | nil => rfl
      | cons character rest =>
        have filled : (shortenEmbeddedIdentifiers (character :: rest)).isEmpty = false := by
          have run := scanned_shorten (character :: rest)
          generalize shortenEmbeddedIdentifiers (character :: rest) = output at run ⊢
          cases run <;> rfl
        rw [filled]
        rfl

/-- What contains no zero is copied from the front. -/
theorem isPrefixOf_shorten {front : Text} (free : '0' ∉ front) (text : Text) :
    front <+: shortenEmbeddedIdentifiers text ↔ front <+: text := by
  induction front generalizing text with
  | nil => exact iff_of_true List.nil_prefix List.nil_prefix
  | cons character others inductionHypothesis =>
    have other : character ≠ '0' := fun same => free (same ▸ List.mem_cons_self)
    have free : '0' ∉ others := fun member => free (List.mem_cons_of_mem _ member)
    constructor
    · rintro ⟨output, same⟩
      have run := scanned_shorten text
      rw [← same] at run
      obtain ⟨rest, rfl, further⟩ := run.of_cons other
      have start : others <+: shortenEmbeddedIdentifiers rest :=
        further.eq_shorten ▸ List.prefix_append _ _
      exact List.cons_prefix_cons.mpr ⟨rfl, (inductionHypothesis free rest).mp start⟩
    · rintro ⟨output, rfl⟩
      rw [List.cons_append, shortenEmbeddedIdentifiers_plain (not_identifier_of_ne other)]
      exact List.cons_prefix_cons.mpr
        ⟨rfl, (inductionHypothesis free _).mpr (List.prefix_append _ _)⟩

theorem dropWhile_shorten (word : Text) :
    (shortenEmbeddedIdentifiers word).dropWhile isPunctuation =
      shortenEmbeddedIdentifiers (word.dropWhile isPunctuation) := by
  induction word with
  | nil => rfl
  | cons character rest inductionHypothesis =>
    by_cases punctuation : isPunctuation character = true
    · have other : character ≠ '0' := by
        rintro rfl
        exact absurd punctuation (by decide)
      rw [shortenEmbeddedIdentifiers_plain (not_identifier_of_ne other), List.dropWhile_cons,
        if_pos punctuation, List.dropWhile_cons, if_pos punctuation, inductionHypothesis]
    · rw [List.dropWhile_cons, if_neg punctuation]
      have run := scanned_shorten (character :: rest)
      generalize shortenEmbeddedIdentifiers (character :: rest) = output at run ⊢
      cases run with
      | plain => rw [List.dropWhile_cons, if_neg punctuation]
      | identifier => rfl

/-- What does not end in punctuation is not cut from the front by trimming the end. -/
theorem prefix_rdropWhile {front text : Text} {last : Char}
    (solid : isPunctuation last = false) :
    front ++ [last] <+: text.rdropWhile isPunctuation ↔ front ++ [last] <+: text := by
  refine ⟨fun start => start.trans (List.rdropWhile_prefix _ _), ?_⟩
  rintro ⟨rest, rfl⟩
  induction rest using List.reverseRecOn with
  | nil =>
    rw [List.append_nil, List.rdropWhile_concat_neg _ _ _ (Bool.eq_false_iff.mp solid)]
  | append_singleton rest character inductionHypothesis =>
    by_cases punctuation : isPunctuation character = true
    · rw [← List.append_assoc, List.rdropWhile_concat_pos _ _ _ punctuation]
      exact inductionHypothesis
    · rw [← List.append_assoc, List.rdropWhile_concat_neg _ _ _ punctuation, List.append_assoc]
      exact List.prefix_append _ _

theorem namesEndpoint_trim_shorten (word : Text) :
    namesEndpoint (trimPunctuation (shortenEmbeddedIdentifiers word)) =
      namesEndpoint (trimPunctuation word) := by
  have plain : '0' ∉ "http:/".toList ++ ['/'] := by decide
  have secure : '0' ∉ "https:/".toList ++ ['/'] := by decide
  rw [Bool.eq_iff_iff, namesEndpoint, namesEndpoint, Bool.or_eq_true, Bool.or_eq_true,
    List.isPrefixOf_iff_prefix, List.isPrefixOf_iff_prefix, List.isPrefixOf_iff_prefix,
    List.isPrefixOf_iff_prefix, trimPunctuation, trimPunctuation, dropWhile_shorten]
  show "http:/".toList ++ ['/'] <+: _ ∨ "https:/".toList ++ ['/'] <+: _ ↔
    "http:/".toList ++ ['/'] <+: _ ∨ "https:/".toList ++ ['/'] <+: _
  rw [prefix_rdropWhile (by decide), prefix_rdropWhile (by decide),
    prefix_rdropWhile (by decide), prefix_rdropWhile (by decide), isPrefixOf_shorten plain,
    isPrefixOf_shorten secure]

theorem mem_trimPunctuation {word : Text} {character : Char} (member : character ∈ word)
    (solid : isPunctuation character = false) : character ∈ trimPunctuation word := by
  have kept (text : Text) (inside : character ∈ text) :
      character ∈ text.dropWhile isPunctuation := by
    have whole : text.takeWhile isPunctuation ++ text.dropWhile isPunctuation = text :=
      List.takeWhile_append_dropWhile
    rw [← whole] at inside
    rcases List.mem_append.mp inside with dropped | found
    · exact absurd (List.mem_takeWhile_imp dropped) (Bool.eq_false_iff.mp solid)
    · exact found
  rw [trimPunctuation, List.rdropWhile, List.mem_reverse]
  exact kept _ (List.mem_reverse.mpr (kept word member))

end Words

/-! ### The reason -/

section Reason

theorem not_discloses_of_free {text : Text} (free : '0' ∉ text) : ¬ Discloses text := by
  rintro ⟨digits, _, _, inside⟩
  exact free (inside.subset List.mem_cons_self)

/-- A bare identifier is cut or too short. -/
theorem not_discloses_shortenedIdentifier {digits : Text}
    (hexadecimal : digits.all isHexDigit = true) :
    ¬ Discloses (shortenedIdentifier ('0' :: 'x' :: digits)) := by
  have alone (some : Text) : ¬ Follows some [] := fun ⟨_, _, same, _⟩ => nomatch same
  rw [discloses_iff_occurs, shortenedIdentifier]
  split
  · rename_i long
    have long : 13 ≤ digits.length := by simpa using long
    have cut : ('0' :: 'x' :: digits).drop (('0' :: 'x' :: digits).length - 4) =
        digits.drop (digits.length - 4) := by
      rw [List.length_cons, List.length_cons,
        show digits.length + 1 + 1 - 4 = digits.length - 4 + 1 + 1 by omega,
        List.drop_succ_cons, List.drop_succ_cons]
    have written : ('0' :: 'x' :: digits).take 8 ++ "...".toList ++
        ('0' :: 'x' :: digits).drop (('0' :: 'x' :: digits).length - 4) =
          shortened digits ++ [] := by
      rw [cut, List.append_nil]
      rfl
    rw [written, occurs_shortened hexadecimal]
    exact not_or.mpr ⟨alone _, not_occurs_identifier_nil⟩
  · rename_i short
    have short : digits.length < 13 := by simpa using short
    intro occurs
    rcases occurs_cons.mp occurs with here | occurs
    · obtain ⟨rest, same, long⟩ := identifier_iff.mp here
      obtain rfl := (List.cons.inj (List.cons.inj same).2).2
      have run := (List.takeWhile_prefix isHexDigit (l := digits)).length_le
      unfold digitRun at long
      omega
    rcases occurs_cons.mp occurs with here | occurs
    · exact absurd here (not_identifier_of_ne (by decide))
    rw [← List.append_nil digits] at occurs
    rcases occurs_digits (fun _ => id) hexadecimal occurs with follows | occurs
    · exact alone _ follows
    · exact not_occurs_identifier_nil occurs

/-- What is written for a word discloses an identifier when the word does not name an
endpoint and has two identifiers with nothing between them. -/
theorem discloses_safeFailureWord (word : Text) :
    Discloses (safeFailureWord (shortenEmbeddedIdentifiers word)) ↔
      namesEndpoint (trimPunctuation word) = false ∧ Adjoins word := by
  have scanned := scanned_shorten word
  have endpoint := namesEndpoint_trim_shorten word
  rw [safeFailureWord]
  split
  · rename_i named
    refine iff_of_false (not_discloses_of_free (by decide)) fun ⟨unnamed, _⟩ => ?_
    rw [endpoint, unnamed] at named
    cases named
  · rename_i unnamed
    rw [endpoint, Bool.not_eq_true] at unnamed
    split
    · rename_i bare
      obtain ⟨start, hexadecimal⟩ := Bool.and_eq_true_iff.mp bare
      obtain ⟨digits, same⟩ := List.isPrefixOf_iff_prefix.mp start
      rw [← same] at hexadecimal ⊢
      refine iff_of_false (not_discloses_shortenedIdentifier hexadecimal) fun ⟨_, adjoins⟩ => ?_
      have dot := mem_trimPunctuation (scanned.dot_mem adjoins) (by decide)
      rw [← same] at dot
      rcases List.mem_append.mp dot with front | digit
      · exact absurd front (by decide)
      · exact absurd (List.all_eq_true.mp hexadecimal _ digit) (by decide)
    · rw [scanned.discloses_iff]
      exact ⟨fun adjoins => ⟨unnamed, adjoins⟩, And.right⟩

/-- The reason for a failure shows no full identifier exactly when, among the first
twenty-four words of the message, those that do not name an endpoint have no identifier
right behind another. -/
theorem safeFailureReason_shortened_iff (message : Text) :
    ¬ Discloses (safeFailureReason message) ↔
      ∀ word ∈ (splitWhitespace message).take 24,
        namesEndpoint (trimPunctuation word) = true ∨ ¬ Adjoins word := by
  have words : ((splitWhitespace (shortenEmbeddedIdentifiers message)).take 24).map
      safeFailureWord = ((splitWhitespace message).take 24).map fun word =>
        safeFailureWord (shortenEmbeddedIdentifiers word) := by
    rw [splitWhitespace_shorten, ← List.map_take, List.map_map]
    rfl
  have disclosed : Discloses (safeFailureReason message) ↔
      ∃ word ∈ (splitWhitespace message).take 24,
        namesEndpoint (trimPunctuation word) = false ∧ Adjoins word := by
    rw [safeFailureReason, words]
    split
    · rename_i empty
      have none : (splitWhitespace message).take 24 = [] := by simpa using empty
      rw [none]
      exact iff_of_false (not_discloses_of_free (by decide)) fun ⟨_, member, _⟩ => nomatch member
    · rw [discloses_intercalate]
      constructor
      · rintro ⟨_, member, discloses⟩
        obtain ⟨word, inside, rfl⟩ := List.mem_map.mp member
        exact ⟨word, inside, (discloses_safeFailureWord word).mp discloses⟩
      · rintro ⟨word, inside, adjoins⟩
        exact ⟨_, List.mem_map_of_mem inside, (discloses_safeFailureWord word).mpr adjoins⟩
  rw [disclosed]
  push Not
  refine forall₂_congr fun word _ => ?_
  cases namesEndpoint (trimPunctuation word) <;> simp

end Reason

end Zkdeal

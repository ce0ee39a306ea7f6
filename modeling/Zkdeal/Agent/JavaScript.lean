/-
This file is what the clients of the agent take from JavaScript: the functions of the
runtime and its libraries, requests and how they end, and the small readers of text.

The functions that are left open are parameters of the clients. A failure is the
message of the error that is thrown; one that is not an error object has no message.
-/

import Zkdeal.Library.Guard
import Zkdeal.Library.Json
import Zkdeal.Library.JsonText
import Zkdeal.Types

namespace Zkdeal

open Texts

/-- The functions of the runtime. A value that is not there is `undefined`. -/
structure JsRuntime where
  keccak256 : Bytes → B256
  /-- `JSON.parse`. -/
  parse : String → Option Json.Value
  /-- `Number`, as far as what it gives is a natural number. -/
  toNumber : Option Json.Value → Option Nat
  /-- `String`. -/
  toText : Option Json.Value → String
  /-- `slice(0, 256)`. -/
  excerpt : String → String
  /-- `Date.parse` gives a time. -/
  isDate : String → Bool

/-- The message of an error. -/
abbrev Thrown : Type := Option String

/-- How a fetch ends: with an answer whose body was read, by the timer of its caller, or by an
exception. -/
inductive FetchEnd where
  | answered (status : Nat) (text : String)
  | aborted
  | threw (message : Thrown)
deriving DecidableEq

/-- `response.ok`. -/
def okStatus (status : Nat) : Bool := 200 ≤ status && status ≤ 299

inductive HttpMethod where
  | get
  | post
deriving DecidableEq

/-- A request the agent sends. -/
structure OutgoingRequest where
  method : HttpMethod
  url : String
  headers : List (String × String)
  body : Option String
deriving DecidableEq

def OutgoingRequest.header? (request : OutgoingRequest) (name : String) : Option String :=
  request.headers.lookup name

/-! ### Text -/

/-- `base.replace(/\/+$/, '')`. -/
def withoutTrailingSlashes (base : String) : String :=
  String.ofList (base.toList.rdropWhile (· = '/'))

def endpoint (base path : String) : String := withoutTrailingSlashes base ++ path

/-- `length` counts the units of UTF-16. -/
def utf16Length (text : String) : Nat :=
  (text.toList.map fun character => if character.toNat < 0x10000 then 1 else 2).sum

/-- Exactly so many hexadecimal digits behind `0x`. -/
def isHexText (digits : Nat) (text : String) : Bool :=
  match text.toList with
  | '0' :: 'x' :: rest => rest.length == digits && rest.all fun digit => (digitValue? digit).isSome
  | _ => false

/-- Decimal digits without leading zeros. -/
def isCanonicalDecimal (text : String) : Bool :=
  match text.toList with
  | ['0'] => true
  | first :: rest => first.isDigit && first != '0' && rest.all Char.isDigit
  | [] => false

/-- The characters `encodeURIComponent` leaves as they are. -/
def isUnreserved (character : Char) : Bool :=
  character.isAlphanum || "-_.!~*'()".toList.contains character

def encodeUriComponent (text : String) : String :=
  String.ofList (text.toList.flatMap fun character =>
    if isUnreserved character then [character]
    else (JsonText.utf8 [character]).flatMap fun byte => '%' :: (hexDigits [byte]).map Char.toUpper)

/-! ### Values -/

def isSafeInteger (value : Nat) : Bool := value < 2 ^ 53

def record (value : Option Json.Value) (label : String) : Except Thrown Json.Entries :=
  Guard.orRefuse (value.bind Json.Value.asObject?) (some (label ++ " must be an object"))

def textAt (entries : Json.Entries) (key : String) : Option String :=
  (Json.get? entries key).bind Json.Value.asString?

end Zkdeal

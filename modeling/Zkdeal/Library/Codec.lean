/-
This file is a binary format that decodes its own output: writing a value gives
octets, and reading takes a value off the front of octets and leaves the rest.

One reader gives two decoders. The lenient one forgets what is left, so octets behind
a value do not matter to it; the strict one refuses them, and still reads back what was
written.
-/

import Zkdeal.Library.Words

namespace Words

/-- A format, with the law that what was written is read back from in front of anything. -/
structure Codec (Value : Type) where
  serialize : Value → Option Bytes
  read : Bytes → Option (Value × Bytes)
  read_serialize : ∀ {value bytes}, serialize value = some bytes →
    ∀ rest, read (bytes ++ rest) = some (value, rest)

namespace Codec

variable {Value : Type} (codec : Codec Value)

/-- Decode, whatever is left. -/
def deserialize (bytes : Bytes) : Option Value := (codec.read bytes).map Prod.fst

/-- Decode with nothing left. -/
def deserializeStrict (bytes : Bytes) : Option Value :=
  (codec.read bytes).bind fun result => if result.2 = [] then some result.1 else none

variable {codec} {value : Value} {bytes : Bytes}

theorem deserializeStrict_append (written : codec.serialize value = some bytes) (rest : Bytes) :
    codec.deserializeStrict (bytes ++ rest) = if rest = [] then some value else none := by
  rw [deserializeStrict, codec.read_serialize written, Option.bind_some]

theorem deserializeStrict_serialize (written : codec.serialize value = some bytes) :
    codec.deserializeStrict bytes = some value := by
  have strict := deserializeStrict_append written []
  rwa [List.append_nil, if_pos rfl] at strict

end Codec

end Words

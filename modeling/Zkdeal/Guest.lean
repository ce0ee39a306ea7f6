/-
This file is the program the proofs are about: one framed input selects one of
four statements by its first eight octets, and an accepted input commits to one
32-octet value.

The decoders of the four witnesses are parameters. The receipts an aggregate
relies on are verified outside of the program; what the program leaves behind is
the list of the claims that must hold. Every malformed input and every failed
validation ends in a panic with its message.
-/

import Zkdeal.Hosting
import Zkdeal.Room.Batch

namespace Zkdeal

open Words Guard

/-- What the program takes from outside: the interpreter and the hash and field libraries,
and the decoders of the four witnesses. -/
structure GuestExternals extends Externals, HostingPrimitives where
  decodeBatchInput : Bytes → Option BatchInputV5
  decodeColdTemplateInput : Bytes → Option ColdTemplateInputV5
  decodeBlobEquivalenceInput : Bytes → Option BlobEquivalenceInputV1
  decodeAggregateInput : Bytes → Option AggregateInputV1

/-- A receipt the program relies on: the image of a program and the value it committed to. -/
structure Assumption where
  image : B256
  journal : B256
deriving DecidableEq

/-- What an accepted run leaves behind. -/
structure GuestOutput where
  committed : B256
  assumptions : List Assumption
deriving DecidableEq

def roomBatchMagicV6 : Bytes := ascii "ZKDV6BAT"

def coldTemplateMagicV5 : Bytes := ascii "ZKDV5CLD"

def blobEquivalenceMagicV1 : Bytes := ascii "ZKDBEQV1"

def recursiveAggregateMagicV1 : Bytes := ascii "ZKDAGGV1"

/-- The rest of a frame behind a magic. -/
def stripMagic (magic frame : Bytes) : Option Bytes :=
  if magic <+: frame then some (frame.drop magic.length) else none

theorem isPrefix_of_stripMagic {magic frame encoded : Bytes}
    (stripped : stripMagic magic frame = some encoded) : magic <+: frame := by
  unfold stripMagic at stripped
  split at stripped
  · assumption
  · cases stripped

section Guest

variable (guest : GuestExternals)

/-- Execute one room batch; the witness size is the size of the frame. -/
def roomBatchStatement (frame encoded : Bytes) : Except String GuestOutput := do
  let input ← orRefuse (guest.decodeBatchInput encoded) "v6 room batch witness is malformed"
  refuse (2 ^ 32 ≤ frame.length) "v6 room witness length exceeds u32"
  let journal ← (executeBatchV5 guest.toExternals
    { input with encodedWitnessBytes := BitVec.ofNat 32 frame.length }).mapError
      fun _ => "v6 room batch STF execution failed"
  pure ⟨hashBatchJournalV5 guest.keccak256 journal, []⟩

/-- Validate one cold template; its genesis package is the frame itself. -/
def coldTemplateStatement (frame encoded : Bytes) : Except String GuestOutput := do
  let genesisDataHash := guest.keccak256 frame
  let input ← orRefuse (guest.decodeColdTemplateInput encoded)
    "v5 cold-template witness is malformed"
  let statement ← (executeColdTemplateV5 guest.toPrimitives input genesisDataHash).mapError
    fun _ => "v5 cold-template validation failed"
  pure ⟨statement, []⟩

/-- What a failed equivalence stops the program with. -/
def blobEquivalenceFailure : HostingFailure → String
  | .refused _ => "blob-equivalence identity validation failed"
  | .stopped reason => reason

def blobEquivalenceStatement (encoded : Bytes) : Except String GuestOutput := do
  let input ← orRefuse (guest.decodeBlobEquivalenceInput encoded)
    "blob-equivalence witness is malformed"
  let statement ← (validateBlobEquivalenceV1 guest.toPrimitives guest.toHostingPrimitives
    input).mapError blobEquivalenceFailure
  pure ⟨statement, []⟩

/-- The receipts one member of an aggregate stands for. -/
def memberAssumptions (member : AggregateMemberStatementV1) : List Assumption :=
  ⟨member.roomProgramId, member.journalHash⟩ ::
    if member.equivalenceProgramId ≠ 0 then
      [⟨member.equivalenceProgramId, member.equivalenceStatement⟩]
    else []

def aggregateStatement (encoded : Bytes) : Except String GuestOutput := do
  let input ← orRefuse (guest.decodeAggregateInput encoded)
    "recursive aggregate witness is malformed"
  let statement ← (validateAggregateV1 guest.toPrimitives input).mapError
    fun _ => "recursive aggregate statement is invalid"
  pure ⟨statement, input.members.flatMap memberAssumptions⟩

/-- One run of the program on one frame. -/
def guestMain (frame : Bytes) : Except String GuestOutput :=
  match stripMagic roomBatchMagicV6 frame with
  | some encoded => roomBatchStatement guest frame encoded
  | none =>
    match stripMagic coldTemplateMagicV5 frame with
    | some encoded => coldTemplateStatement guest frame encoded
    | none =>
      match stripMagic blobEquivalenceMagicV1 frame with
      | some encoded => blobEquivalenceStatement guest encoded
      | none =>
        match stripMagic recursiveAggregateMagicV1 frame with
        | some encoded => aggregateStatement guest encoded
        | none => .error "unsupported witness magic"

end Guest

end Zkdeal

/-
This file is the data-availability equivalence of a batch with its blobs, and the
recursive settlement of several rooms in one statement.

The equivalence packs the canonical bytes of a batch into field elements,
evaluates every blob in evaluation form at a point derived from a transcript, and
compares the value with the one the transaction opens. SHA-256 and the root of
unity of the scalar field are parameters; a place where the code stops with a
panic is a failure of its own.
-/

import Zkdeal.State

namespace Zkdeal

open Words Guard

/-! ### Inputs and failures -/

structure BlobEquivalenceInputV1 where
  deploymentDomain : B256
  roomId : U64
  journalHash : B256
  canonicalData : Bytes
  blobStartIndex : U8
  blobVersionedHashes : List B256
  commitments : List Bytes
  evaluationPoints : List B256
  evaluations : List B256
deriving DecidableEq, Inhabited

/-- One room of an aggregate; the two equivalence fields are zero for calldata members. -/
structure AggregateMemberStatementV1 where
  roomId : U64
  roomProgramId : B256
  journalHash : B256
  equivalenceProgramId : B256
  equivalenceStatement : B256
deriving DecidableEq, Inhabited

structure AggregateInputV1 where
  deploymentDomain : B256
  members : List AggregateMemberStatementV1
deriving DecidableEq, Inhabited

inductive HostingStatementError where
  | emptyCanonicalData
  | badBlobCount
  | nonCanonicalBlobCount
  | badBlobRange
  | vectorLengthMismatch
  | badCommitmentLength
  | badVersionedHash
  | badChallenge
  | nonCanonicalEvaluation
  | evaluationMismatch
  | badAggregateCount
  | zeroRoom
  | duplicateRoom
  | zeroRoomProgram
  | incompleteEquivalence
deriving DecidableEq

/-- A statement is refused with an error, or the computation stops. -/
inductive HostingFailure where
  | refused (error : HostingStatementError)
  | stopped (reason : String)
deriving DecidableEq

def maxBlobsPerBatchV1 : Nat := 6

def maxAggregateRoomsV1 : Nat := 8

def fieldElementsPerBlobV1 : Nat := 4096

def canonicalBytesPerFieldElementV1 : Nat := 31

def canonicalBytesPerBlobV1 : Nat := fieldElementsPerBlobV1 * canonicalBytesPerFieldElementV1

def versionedHashVersionKzg : Byte := 1

def dataAvailabilityStatementLabel : Bytes := ascii "zkdeal.data-availability.eip4844.v1"

def aggregateStatementLabel : Bytes := ascii "zkdeal.recursive-aggregate.v1"

def equivalenceChallengeLabel : Bytes := ascii "zkdeal.blob-equivalence.challenge.v1"

/-! ### Statements -/

section Statements

variable (keccak256 : Bytes → B256)

/-- The words of an array of words. -/
def abiB256ArrayWords (values : List B256) : List B256 := arrayWords values fun value => [value]

def abiB256ArrayHash (values : List B256) : B256 :=
  keccakWordsV5 keccak256 (abiB256ArrayWords values)

/-- The length of a byte string rounded up to whole words. -/
def paddedLength (length : Nat) : Nat := (length + 31) / 32 * 32

/-- The offsets of the elements behind the length word of a byte-string array. -/
def elementOffsets (offset : Nat) : List Bytes → List Nat
  | [] => []
  | value :: rest => offset :: elementOffsets (offset + (32 + paddedLength value.length)) rest

/-- Append one byte string with its length and fill the last word up with zeroes. -/
def appendElement (encoded value : Bytes) : Bytes :=
  let extended := encoded ++ wordBytes 32 (abiU64WordV5 (lengthWord value)) ++ value
  resize (paddedLength extended.length) extended

/-- The two head words and the offsets of a byte-string array. -/
def bytesArrayHead (values : List Bytes) : Bytes :=
  encodeWords (abiU64WordV5 32 :: abiU64WordV5 (lengthWord values) ::
    (elementOffsets (values.length * 32) values).map fun offset =>
      abiU64WordV5 (BitVec.ofNat 64 offset))

def abiBytesArrayPreimage (values : List Bytes) : Bytes :=
  values.foldl appendElement (bytesArrayHead values)

def abiBytesArrayHash (values : List Bytes) : B256 := keccak256 (abiBytesArrayPreimage values)

/-- A byte string behind its length, filled up to whole words. -/
def elementBody (value : Bytes) : Bytes :=
  wordBytes 32 (abiU64WordV5 (lengthWord value)) ++ value ++
    List.replicate (paddedLength value.length - value.length) 0

theorem le_paddedLength (length : Nat) : length ≤ paddedLength length := by
  unfold paddedLength
  omega

theorem length_elementBody (value : Bytes) :
    (elementBody value).length = 32 + paddedLength value.length := by
  have := le_paddedLength value.length
  rw [elementBody, List.length_append, List.length_append, length_wordBytes,
    List.length_replicate]
  omega

/-- Behind whole words, filling the whole string up is filling the element up. -/
theorem appendElement_of_aligned {encoded : Bytes} (aligned : encoded.length % 32 = 0)
    (value : Bytes) : appendElement encoded value = encoded ++ elementBody value := by
  have padded : paddedLength (encoded.length + 32 + value.length) =
      encoded.length + 32 + paddedLength value.length := by
    unfold paddedLength
    omega
  have := le_paddedLength value.length
  unfold appendElement
  dsimp only
  rw [resize_of_le (le_paddedLength _), List.length_append, List.length_append,
    length_wordBytes, padded, elementBody, List.append_assoc, List.append_assoc,
    List.append_assoc]
  congr 4
  omega

theorem foldl_appendElement {encoded : Bytes} (aligned : encoded.length % 32 = 0)
    (values : List Bytes) :
    values.foldl appendElement encoded = encoded ++ values.flatMap elementBody := by
  induction values generalizing encoded with
  | nil => simp
  | cons value rest inductionHypothesis =>
    have alignedNext : (encoded ++ elementBody value).length % 32 = 0 := by
      rw [List.length_append, length_elementBody]
      unfold paddedLength
      omega
    rw [List.foldl_cons, appendElement_of_aligned aligned, inductionHypothesis alignedNext,
      List.flatMap_cons, List.append_assoc]

theorem length_elementOffsets (offset : Nat) (values : List Bytes) :
    (elementOffsets offset values).length = values.length := by
  induction values generalizing offset with
  | nil => rfl
  | cons value rest inductionHypothesis =>
    rw [elementOffsets, List.length_cons, List.length_cons, inductionHypothesis]

theorem length_bytesArrayHead (values : List Bytes) :
    (bytesArrayHead values).length = 32 * (values.length + 2) := by
  rw [bytesArrayHead, length_encodeWords, List.length_cons, List.length_cons, List.length_map,
    length_elementOffsets]

theorem abiBytesArrayPreimage_eq (values : List Bytes) :
    abiBytesArrayPreimage values = bytesArrayHead values ++ values.flatMap elementBody :=
  foldl_appendElement (by rw [length_bytesArrayHead]; omega) values

/-- Byte strings of one length are determined by the encoding of their array. -/
theorem abiBytesArrayPreimage_injective {length : Nat} {first second : List Bytes}
    (firstFixed : ∀ value ∈ first, value.length = length)
    (secondFixed : ∀ value ∈ second, value.length = length)
    (equal : abiBytesArrayPreimage first = abiBytesArrayPreimage second) : first = second := by
  have bodyLength {values : List Bytes} (fixed : ∀ value ∈ values, value.length = length) :
      ∀ value ∈ values, (elementBody value).length = 32 + paddedLength length :=
    fun value member => by rw [length_elementBody, fixed value member]
  have totalLength {values : List Bytes} (fixed : ∀ value ∈ values, value.length = length) :
      (abiBytesArrayPreimage values).length =
        64 + values.length * (64 + paddedLength length) := by
    rw [abiBytesArrayPreimage_eq, List.length_append, length_bytesArrayHead,
      List.length_flatMap, List.map_congr_left (bodyLength fixed), List.map_const',
      List.sum_replicate, smul_eq_mul]
    ring
  have counts : first.length = second.length := by
    have lengths := congrArg List.length equal
    rw [totalLength firstFixed, totalLength secondFixed] at lengths
    exact Nat.eq_of_mul_eq_mul_right (by omega) (Nat.add_left_cancel lengths)
  rw [abiBytesArrayPreimage_eq, abiBytesArrayPreimage_eq] at equal
  have bodies := (List.append_inj equal (by
    rw [length_bytesArrayHead, length_bytesArrayHead, counts])).2
  refine flatMap_injective (by omega) (bodyLength firstFixed) (bodyLength secondFixed) ?_ bodies
  intro left leftMember right rightMember same
  have valueLengths : left.length = right.length := by
    rw [firstFixed left leftMember, secondFixed right rightMember]
  obtain ⟨front, -⟩ := List.append_inj same (by
    rw [List.length_append, List.length_append, length_wordBytes, length_wordBytes,
      valueLengths])
  exact (List.append_inj front (by rw [length_wordBytes, length_wordBytes])).2

theorem abiB256ArrayWords_injective {first second : List B256}
    (equal : abiB256ArrayWords first = abiB256ArrayWords second) : first = second := by
  unfold abiB256ArrayWords arrayWords at equal
  simpa using (List.cons.inj (List.cons.inj equal).2).2

/-- The eleven words of the data-availability statement. -/
def dataAvailabilityWords (input : BlobEquivalenceInputV1) : List B256 :=
  [keccak256 dataAvailabilityStatementLabel,
    input.deploymentDomain,
    abiU64WordV5 input.roomId,
    input.journalHash,
    keccak256 input.canonicalData,
    abiU64WordV5 (lengthWord input.canonicalData),
    abiU64WordV5 (input.blobStartIndex.setWidth 64),
    abiB256ArrayHash keccak256 input.blobVersionedHashes,
    abiBytesArrayHash keccak256 input.commitments,
    abiB256ArrayHash keccak256 input.evaluationPoints,
    abiB256ArrayHash keccak256 input.evaluations]

def dataAvailabilityStatementV1 (input : BlobEquivalenceInputV1) : B256 :=
  keccakWordsV5 keccak256 (dataAvailabilityWords keccak256 input)

/-- The five words of an aggregate member. -/
def aggregateMemberWords (member : AggregateMemberStatementV1) : List B256 :=
  [abiU64WordV5 member.roomId, member.roomProgramId, member.journalHash,
    member.equivalenceProgramId, member.equivalenceStatement]

def aggregateMemberHashV1 (member : AggregateMemberStatementV1) : B256 :=
  keccakWordsV5 keccak256 (aggregateMemberWords member)

/-- The three words of the aggregate statement. -/
def aggregateWords (input : AggregateInputV1) : List B256 :=
  [keccak256 aggregateStatementLabel,
    input.deploymentDomain,
    abiB256ArrayHash keccak256 (input.members.map (aggregateMemberHashV1 keccak256))]

def aggregateStatementV1 (input : AggregateInputV1) : B256 :=
  keccakWordsV5 keccak256 (aggregateWords keccak256 input)

end Statements

/-! ### Scalars -/

/-- The order of the scalar field of BLS12-381. -/
def blsModulus : Nat := 0x73eda753299d7d483339d80809a1d80553bda402fffe5bfeffffffff00000001

abbrev Scalar := ZMod blsModulus

/-- What the equivalence takes from the hash and field libraries: SHA-256, and the generator
of the subgroup of order `2 ^ 32`. -/
structure HostingPrimitives where
  sha256 : Bytes → B256
  rootOfUnity : Scalar

/-- The scalar with this big-endian encoding, if the encoding is canonical. -/
def scalarFromBe (value : B256) : Option Scalar :=
  if value.toNat < blsModulus then some value.toNat else none

def scalarToBe (value : Scalar) : B256 := BitVec.ofNat 256 value.val

def scalarInvert (value : Scalar) : Option Scalar := if value = 0 then none else some value⁻¹

/-- The two-adicity of the scalar field. -/
def scalarTwoAdicity : Nat := 32

/-! ### Blobs -/

section Blobs

variable (primitives : Primitives) (hosting : HostingPrimitives)

/-- The offset of one field element of a blob in the canonical data. Offsets are machine words,
and wrap around as these do. -/
def fieldStart (blobIndex fieldIndex : Nat) : Nat :=
  (blobIndex * canonicalBytesPerBlobV1 + fieldIndex * canonicalBytesPerFieldElementV1) %
    2 ^ primitives.usizeBits

/-- The payload of the field element at an offset, short at the end of the data. -/
def fieldPayload (canonicalData : Bytes) (start : Nat) : Bytes :=
  (canonicalData.drop start).take canonicalBytesPerFieldElementV1

/-- The field elements of one blob: payloads behind leading zeroes up to the first offset behind
the data, and zeroes from there on. -/
def blobFieldValues (canonicalData : Bytes) (blobIndex : Nat) :
    Except HostingFailure (List Scalar) := do
  let reached := (List.range fieldElementsPerBlobV1).takeWhile fun fieldIndex =>
    fieldStart primitives blobIndex fieldIndex < canonicalData.length
  let filled ← reached.mapM fun fieldIndex =>
    orRefuse (scalarFromBe (BitVec.ofNat 256
      (ofBigEndian (fieldPayload canonicalData (fieldStart primitives blobIndex fieldIndex)))))
      (.stopped "a 31-byte big-endian payload is below the BLS modulus")
  pure (filled ++ List.replicate (fieldElementsPerBlobV1 - filled.length) 0)

/-- The canonical bytes of one blob. -/
def canonicalBlobBytesV1 (canonicalData : Bytes) (blobIndex : Nat) :
    Except HostingFailure Bytes := do
  let values ← blobFieldValues primitives canonicalData blobIndex
  pure (values.flatMap fun value => wordBytes 32 (scalarToBe value))

/-- The lowest twelve bits of a machine word in reverse order. -/
def reversedIndex (index : Nat) : Nat :=
  ((BitVec.ofNat primitives.usizeBits index).reverse >>> (primitives.usizeBits - 12)).toNat

/-- The generator of the evaluation domain of a blob. -/
def domainGenerator : Scalar := hosting.rootOfUnity ^ (2 ^ (scalarTwoAdicity - 12))

/-- The evaluation domain of a blob in bit-reversed order. -/
def domainRoots : Except HostingFailure (List Scalar) :=
  let omega := domainGenerator hosting
  let naturalRoots := List.iterate (fun root => root * omega) 1 fieldElementsPerBlobV1
  (List.range fieldElementsPerBlobV1).mapM fun index =>
    orRefuse naturalRoots[reversedIndex primitives index]? (.stopped "index out of bounds")

/-- The products of all denominators before each one, and of all of them. -/
def runningProducts (denominators : List Scalar) : List Scalar × Scalar :=
  denominators.foldl (fun running denominator =>
    (running.1 ++ [running.2], running.2 * denominator)) ([], 1)

/-- One field element of the barycentric sum, from the last one back: the inverse of its
denominator is taken out of the inverse of the whole product. -/
def addBarycentricTerm (progress : Scalar × Scalar)
    (term : (Scalar × Scalar) × Scalar × Scalar) : Scalar × Scalar :=
  let denominatorInverse := progress.1 * term.2.2
  (progress.1 * term.2.1, progress.2 + term.1.1 * term.1.2 * denominatorInverse)

/-- Evaluate a blob in evaluation form. The assertion on the number of values is one of debug
builds; without it a missing value stops the loop at its first index. -/
def evaluateBlob (values : List Scalar) (point : Scalar) : Except HostingFailure Scalar := do
  let roots ← domainRoots primitives hosting
  match roots.findIdx? fun root => root = point with
  | some index => orRefuse values[index]? (.stopped "index out of bounds")
  | none => do
    let denominators := roots.map fun root => point - root
    let running := runningProducts denominators
    let productInverse ← orRefuse (scalarInvert running.2)
      (.stopped "all non-zero domain denominators have a non-zero product")
    refuse (values.length < fieldElementsPerBlobV1) (.stopped "index out of bounds")
    let progress := ((values.zip roots).zip (denominators.zip running.1)).reverse.foldl
      addBarycentricTerm (productInverse, 0)
    let countInverse ← orRefuse (scalarInvert fieldElementsPerBlobV1)
      (.stopped "the non-zero domain size is invertible")
    pure ((point ^ fieldElementsPerBlobV1 - 1) * countInverse * progress.2)

/-- The opening value the canonical bytes of one blob lead to. -/
def blobEquivalenceEvaluationV1 (input : BlobEquivalenceInputV1) (blobIndex : Nat) :
    Except HostingFailure B256 := do
  let point ← orRefuse (input.evaluationPoints[blobIndex]?.bind scalarFromBe)
    (.refused .badChallenge)
  let values ← blobFieldValues primitives input.canonicalData blobIndex
  let value ← evaluateBlob primitives hosting values point
  pure (scalarToBe value)

/-- The digest of a commitment with the version in place of its first octet. -/
def blobVersionedHashV1 (commitment : Bytes) : B256 :=
  versionedHashVersionKzg ++ (hosting.sha256 commitment).setWidth 248

/-- The transcript of one challenge attempt. -/
def challengeTranscript (input : BlobEquivalenceInputV1) (blobIndex : Nat)
    (versionedHash : B256) (commitment : Bytes) (counter : U32) : Bytes :=
  equivalenceChallengeLabel ++ wordBytes 32 input.deploymentDomain ++
    wordBytes 8 input.roomId ++ wordBytes 32 input.journalHash ++
    wordBytes 32 (primitives.keccak256 input.canonicalData) ++
    wordBytes 8 (lengthWord input.canonicalData) ++
    wordBytes 8 (input.blobStartIndex.setWidth 64) ++
    wordBytes 8 (BitVec.ofNat 64 blobIndex) ++ wordBytes 32 versionedHash ++ commitment ++
    wordBytes 4 counter

/-- Draw candidates until one is a canonical scalar, at most `attempts` times. -/
def drawChallenge (candidate : U32 → B256) : Nat → U32 → Option B256
  | 0, _ => none
  | attempts + 1, counter =>
    if (scalarFromBe (candidate counter)).isSome then some (candidate counter)
    else drawChallenge candidate attempts (counter + 1)

def blobEquivalenceChallengeV1 (input : BlobEquivalenceInputV1) (blobIndex : Nat) :
    Option B256 := do
  let commitment ← input.commitments[blobIndex]?
  let versionedHash ← input.blobVersionedHashes[blobIndex]?
  drawChallenge (fun counter => hosting.sha256
    (challengeTranscript primitives input blobIndex versionedHash commitment counter))
    (2 ^ 32) 0

/-! ### Validation -/

/-- One blob of an equivalence witness. -/
def validateBlob (input : BlobEquivalenceInputV1) (index : Nat) :
    Except HostingFailure Unit := do
  let commitment ← orRefuse input.commitments[index]? (.stopped "index out of bounds")
  let versionedHash ← orRefuse input.blobVersionedHashes[index]? (.stopped "index out of bounds")
  let point ← orRefuse input.evaluationPoints[index]? (.stopped "index out of bounds")
  let evaluation ← orRefuse input.evaluations[index]? (.stopped "index out of bounds")
  refuse (commitment.length ≠ 48) (.refused .badCommitmentLength)
  refuse (blobVersionedHashV1 hosting commitment ≠ versionedHash) (.refused .badVersionedHash)
  let expectedChallenge ← orRefuse (blobEquivalenceChallengeV1 primitives hosting input index)
    (.refused .badChallenge)
  refuse (point ≠ expectedChallenge) (.refused .badChallenge)
  refuse (scalarFromBe point = none) (.refused .badChallenge)
  let suppliedValue ← orRefuse (scalarFromBe evaluation) (.refused .nonCanonicalEvaluation)
  let expectedValue ← blobEquivalenceEvaluationV1 primitives hosting input index
  refuse (scalarToBe suppliedValue ≠ expectedValue) (.refused .evaluationMismatch)

def validateBlobEquivalenceV1 (input : BlobEquivalenceInputV1) :
    Except HostingFailure B256 := do
  refuse (input.canonicalData = []) (.refused .emptyCanonicalData)
  let count := input.blobVersionedHashes.length
  refuse (count = 0 ∨ maxBlobsPerBatchV1 < count) (.refused .badBlobCount)
  refuse (maxBlobsPerBatchV1 < input.blobStartIndex.toNat + count) (.refused .badBlobRange)
  refuse (count ≠
      (input.canonicalData.length + (canonicalBytesPerBlobV1 - 1)) / canonicalBytesPerBlobV1)
    (.refused .nonCanonicalBlobCount)
  refuse (input.commitments.length ≠ count ∨ input.evaluationPoints.length ≠ count ∨
      input.evaluations.length ≠ count) (.refused .vectorLengthMismatch)
  forEach (List.range count) (validateBlob primitives hosting input)
  pure (dataAvailabilityStatementV1 primitives.keccak256 input)

/-- One member of an aggregate, given the members before it. -/
def validateMember (members : List AggregateMemberStatementV1)
    (item : AggregateMemberStatementV1 × Nat) : Except HostingFailure Unit := do
  let member := item.1
  refuse (member.roomId = 0) (.refused .zeroRoom)
  refuse (member.roomProgramId = 0) (.refused .zeroRoomProgram)
  refuse (∃ prior ∈ members.take item.2, prior.roomId = member.roomId) (.refused .duplicateRoom)
  refuse (decide (member.equivalenceProgramId = 0) ≠ decide (member.equivalenceStatement = 0))
    (.refused .incompleteEquivalence)

def validateAggregateV1 (input : AggregateInputV1) : Except HostingFailure B256 := do
  refuse (input.members = [] ∨ maxAggregateRoomsV1 < input.members.length)
    (.refused .badAggregateCount)
  forEach input.members.zipIdx (validateMember input.members)
  pure (aggregateStatementV1 primitives.keccak256 input)

end Blobs

end Zkdeal

/-
This file proves that the committed value determines the statement: two accepted
frames with one committed value carry the same magic and the same public content,
or two of the byte strings the two runs hashed collide.

Only three of the four statements carry a label of their own, so what keeps the
statements apart is the length of the outermost hashed string: 52, 9, 11 and 3
words. Inside one kind, the words determine the content because every nested
array is encoded injectively; the commitments of an equivalence are strings of
48 octets, which validation has established by then.
-/

import Zkdeal.Guest

namespace Zkdeal

open Words Guard Binding

/-! ### Public content -/

/-- The public content of an accepted frame. -/
inductive Statement where
  | roomBatch (journal : BatchJournalV5)
  | coldTemplate (ids : ColdTemplateIds) (frame : Bytes)
  | blobEquivalence (input : BlobEquivalenceInputV1)
  | aggregate (input : AggregateInputV1)
deriving DecidableEq

namespace Statement

/-- The magic that selects the statement. -/
def magic : Statement → Bytes
  | roomBatch _ => roomBatchMagicV6
  | coldTemplate _ _ => coldTemplateMagicV5
  | blobEquivalence _ => blobEquivalenceMagicV1
  | aggregate _ => recursiveAggregateMagicV1

section Hashes

variable (keccak256 : Bytes → B256)

/-- The outermost string that is hashed. -/
def preimage : Statement → Bytes
  | roomBatch journal => encodeWords (journalWords journal)
  | coldTemplate ids frame => coldTemplatePreimage ids (keccak256 frame)
  | blobEquivalence input => encodeWords (dataAvailabilityWords keccak256 input)
  | aggregate input => encodeWords (aggregateWords keccak256 input)

/-- The strings whose digests stand inside the outermost one. -/
def innerMessages : Statement → List Bytes
  | roomBatch _ => []
  | coldTemplate _ frame => [frame]
  | blobEquivalence input =>
    [input.canonicalData,
      encodeWords (abiB256ArrayWords input.blobVersionedHashes),
      abiBytesArrayPreimage input.commitments,
      encodeWords (abiB256ArrayWords input.evaluationPoints),
      encodeWords (abiB256ArrayWords input.evaluations)]
  | aggregate input =>
    encodeWords (abiB256ArrayWords (input.members.map (aggregateMemberHashV1 keccak256))) ::
      input.members.map fun member => encodeWords (aggregateMemberWords member)

/-- The strings a run hashes for its statement. -/
def messages (statement : Statement) : List Bytes :=
  statement.preimage keccak256 :: statement.innerMessages keccak256

end Hashes

/-- What validation has established about the shape of the content. -/
def WellFormed : Statement → Prop
  | blobEquivalence input => ∀ commitment ∈ input.commitments, commitment.length = 48
  | _ => True

end Statement

/-- The public content a frame carries, as the decoders read it. -/
def publicContent (guest : GuestExternals) (frame : Bytes) : Option Statement :=
  match stripMagic roomBatchMagicV6 frame with
  | some encoded =>
    (guest.decodeBatchInput encoded).map fun input => .roomBatch input.journal
  | none =>
    match stripMagic coldTemplateMagicV5 frame with
    | some encoded =>
      (guest.decodeColdTemplateInput encoded).map fun input =>
        .coldTemplate input.toColdTemplateIds frame
    | none =>
      match stripMagic blobEquivalenceMagicV1 frame with
      | some encoded => (guest.decodeBlobEquivalenceInput encoded).map .blobEquivalence
      | none =>
        match stripMagic recursiveAggregateMagicV1 frame with
        | some encoded => (guest.decodeAggregateInput encoded).map .aggregate
        | none => none

/-! ### What an accepted frame commits to -/

/-- A run that ends well on a frame: the frame carries a well-formed statement, and the
committed value is the hash of it. -/
structure Commits (guest : GuestExternals) (frame : Bytes) (output : GuestOutput)
    (statement : Statement) : Prop where
  content : publicContent guest frame = some statement
  magic : statement.magic <+: frame
  wellFormed : statement.WellFormed
  committed : output.committed = guest.keccak256 (statement.preimage guest.keccak256)

section Accepted

variable {guest : GuestExternals}

theorem roomBatchStatement_spec {frame encoded : Bytes} {output : GuestOutput}
    (accepted : roomBatchStatement guest frame encoded = .ok output) :
    ∃ input, guest.decodeBatchInput encoded = some input ∧
      output.committed = hashBatchJournalV5 guest.keccak256 input.journal := by
  obtain ⟨input, decoded, accepted⟩ := bind_eq_ok.mp accepted
  obtain ⟨-, accepted⟩ := refuse_bind_eq_ok.mp accepted
  obtain ⟨journal, executed, accepted⟩ := bind_eq_ok.mp accepted
  obtain ⟨same, -⟩ := executeBatchV5_eq_ok.mp (mapError_eq_ok.mp executed)
  refine ⟨input, orRefuse_eq_ok.mp decoded, ?_⟩
  rw [← pure_eq_ok.mp accepted, ← same]

theorem executeColdTemplateV5_eq {primitives : Primitives} {input : ColdTemplateInputV5}
    {genesisDataHash statement : B256}
    (accepted : executeColdTemplateV5 primitives input genesisDataHash = .ok statement) :
    statement = coldTemplateStatementV6 primitives.keccak256 input genesisDataHash := by
  obtain ⟨-, accepted⟩ := refuse_bind_eq_ok.mp accepted
  obtain ⟨-, accepted⟩ := refuse_bind_eq_ok.mp accepted
  obtain ⟨state, -, accepted⟩ := bind_eq_ok.mp accepted
  obtain ⟨initialRoot, -, accepted⟩ := bind_eq_ok.mp accepted
  obtain ⟨-, accepted⟩ := refuse_bind_eq_ok.mp accepted
  obtain ⟨resolved, -, accepted⟩ := bind_eq_ok.mp accepted
  exact (pure_eq_ok.mp accepted).symm

theorem coldTemplateStatement_spec {frame encoded : Bytes} {output : GuestOutput}
    (accepted : coldTemplateStatement guest frame encoded = .ok output) :
    ∃ input, guest.decodeColdTemplateInput encoded = some input ∧
      output.committed =
        coldTemplateStatementV6 guest.keccak256 input (guest.keccak256 frame) := by
  obtain ⟨input, decoded, accepted⟩ := bind_eq_ok.mp accepted
  obtain ⟨statement, validated, accepted⟩ := bind_eq_ok.mp accepted
  refine ⟨input, orRefuse_eq_ok.mp decoded, ?_⟩
  rw [← pure_eq_ok.mp accepted, ← executeColdTemplateV5_eq (mapError_eq_ok.mp validated)]

theorem validateBlob_commitment {primitives : Primitives} {hosting : HostingPrimitives}
    {input : BlobEquivalenceInputV1} {index : Nat}
    (accepted : validateBlob primitives hosting input index = .ok ()) :
    ∃ commitment, input.commitments[index]? = some commitment ∧ commitment.length = 48 := by
  obtain ⟨commitment, found, accepted⟩ := bind_eq_ok.mp accepted
  obtain ⟨versionedHash, -, accepted⟩ := bind_eq_ok.mp accepted
  obtain ⟨point, -, accepted⟩ := bind_eq_ok.mp accepted
  obtain ⟨evaluation, -, accepted⟩ := bind_eq_ok.mp accepted
  obtain ⟨length, -⟩ := refuse_bind_eq_ok.mp accepted
  exact ⟨commitment, orRefuse_eq_ok.mp found, not_not.mp length⟩

theorem validateBlobEquivalenceV1_spec {primitives : Primitives} {hosting : HostingPrimitives}
    {input : BlobEquivalenceInputV1} {statement : B256}
    (accepted : validateBlobEquivalenceV1 primitives hosting input = .ok statement) :
    (∀ commitment ∈ input.commitments, commitment.length = 48) ∧
      statement = dataAvailabilityStatementV1 primitives.keccak256 input := by
  obtain ⟨-, accepted⟩ := refuse_bind_eq_ok.mp accepted
  obtain ⟨-, accepted⟩ := refuse_bind_eq_ok.mp accepted
  obtain ⟨-, accepted⟩ := refuse_bind_eq_ok.mp accepted
  obtain ⟨-, accepted⟩ := refuse_bind_eq_ok.mp accepted
  obtain ⟨lengths, accepted⟩ := refuse_bind_eq_ok.mp accepted
  obtain ⟨⟨⟩, blobs, accepted⟩ := bind_eq_ok.mp accepted
  refine ⟨?_, (pure_eq_ok.mp accepted).symm⟩
  intro commitment member
  obtain ⟨index, bound, rfl⟩ := List.mem_iff_getElem.mp member
  have inRange : index ∈ List.range input.blobVersionedHashes.length := by
    rw [List.mem_range]
    omega
  obtain ⟨found, atIndex, length⟩ :=
    validateBlob_commitment (forEach_eq_ok.mp blobs index inRange)
  rw [List.getElem?_eq_getElem bound] at atIndex
  rwa [Option.some.inj atIndex]

theorem blobEquivalenceStatement_spec {encoded : Bytes} {output : GuestOutput}
    (accepted : blobEquivalenceStatement guest encoded = .ok output) :
    ∃ input, guest.decodeBlobEquivalenceInput encoded = some input ∧
      (∀ commitment ∈ input.commitments, commitment.length = 48) ∧
      output.committed = dataAvailabilityStatementV1 guest.keccak256 input := by
  obtain ⟨input, decoded, accepted⟩ := bind_eq_ok.mp accepted
  obtain ⟨statement, validated, accepted⟩ := bind_eq_ok.mp accepted
  obtain ⟨lengths, same⟩ := validateBlobEquivalenceV1_spec (mapError_eq_ok.mp validated)
  refine ⟨input, orRefuse_eq_ok.mp decoded, lengths, ?_⟩
  rw [← pure_eq_ok.mp accepted, ← same]

theorem aggregateStatement_spec {encoded : Bytes} {output : GuestOutput}
    (accepted : aggregateStatement guest encoded = .ok output) :
    ∃ input, guest.decodeAggregateInput encoded = some input ∧
      output.committed = aggregateStatementV1 guest.keccak256 input := by
  obtain ⟨input, decoded, accepted⟩ := bind_eq_ok.mp accepted
  obtain ⟨statement, validated, accepted⟩ := bind_eq_ok.mp accepted
  obtain ⟨-, validated⟩ := refuse_bind_eq_ok.mp (mapError_eq_ok.mp validated)
  obtain ⟨-, -, validated⟩ := bind_eq_ok.mp validated
  refine ⟨input, orRefuse_eq_ok.mp decoded, ?_⟩
  rw [← pure_eq_ok.mp accepted, ← pure_eq_ok.mp validated]

/-- Every accepted frame commits to the hash of its public content. -/
theorem guestMain_spec {frame : Bytes} {output : GuestOutput}
    (accepted : guestMain guest frame = .ok output) :
    ∃ statement, Commits guest frame output statement := by
  unfold guestMain at accepted
  split at accepted
  case h_1 encoded stripped =>
    obtain ⟨input, decoded, committed⟩ := roomBatchStatement_spec accepted
    exact ⟨.roomBatch input.journal, by simp [publicContent, stripped, decoded],
      isPrefix_of_stripMagic stripped, trivial, committed⟩
  case h_2 notBatch =>
  split at accepted
  case h_1 encoded stripped =>
    obtain ⟨input, decoded, committed⟩ := coldTemplateStatement_spec accepted
    exact ⟨.coldTemplate input.toColdTemplateIds frame,
      by simp [publicContent, notBatch, stripped, decoded],
      isPrefix_of_stripMagic stripped, trivial, committed⟩
  case h_2 notCold =>
  split at accepted
  case h_1 encoded stripped =>
    obtain ⟨input, decoded, lengths, committed⟩ := blobEquivalenceStatement_spec accepted
    exact ⟨.blobEquivalence input, by simp [publicContent, notBatch, notCold, stripped, decoded],
      isPrefix_of_stripMagic stripped, lengths, committed⟩
  case h_2 notBlob =>
  split at accepted
  case h_1 encoded stripped =>
    obtain ⟨input, decoded, committed⟩ := aggregateStatement_spec accepted
    exact ⟨.aggregate input,
      by simp [publicContent, notBatch, notCold, notBlob, stripped, decoded],
      isPrefix_of_stripMagic stripped, trivial, committed⟩
  case h_2 => cases accepted

end Accepted

/-! ### The words determine the content -/

theorem journalWords_injective {first second : BatchJournalV5}
    (equal : journalWords first = journalWords second) : first = second := by
  have wordsInjective (left right : U64) :
      abiU64WordV5 left = abiU64WordV5 right ↔ left = right :=
    ⟨abiU64WordV5_injective, congrArg _⟩
  have octetsInjective (left right : U8) :
      left.setWidth 64 = right.setWidth 64 ↔ left = right :=
    ⟨setWidth_injective (by decide), congrArg _⟩
  have flagsInjective (left right : Bool) :
      abiBoolWordV5 left = abiBoolWordV5 right ↔ left = right :=
    ⟨abiBoolWordV5_injective, congrArg _⟩
  cases first
  cases second
  simpa only [journalWords, List.cons.injEq, wordsInjective, octetsInjective, flagsInjective,
    and_true, BatchJournalV5.mk.injEq] using equal

theorem coldTemplatePreimage_injective {first second : ColdTemplateIds}
    {firstGenesis secondGenesis : B256}
    (equal : coldTemplatePreimage first firstGenesis = coldTemplatePreimage second secondGenesis) :
    first = second ∧ firstGenesis = secondGenesis := by
  have short (ids : ColdTemplateIds) (genesis : B256) :
      (encodeWords [abiU64WordV5 (32 * 7), ids.templateId, ids.initialStateRoot, ids.policyHash,
        ids.proofProgramId, ids.proofSystemVersion, genesis,
        abiU64WordV5 (lengthWord coldTemplateLabel)] ++ coldTemplateLabel).length ≤ 32 * 9 := by
    rw [List.length_append, length_encodeWords]
    exact (by decide : 32 * 8 + coldTemplateLabel.length ≤ 32 * 9)
  unfold coldTemplatePreimage at equal
  rw [resize_of_le (short _ _), resize_of_le (short _ _), List.append_assoc,
    List.append_assoc] at equal
  have words := encodeWords_injective (List.append_inj equal (by
    rw [length_encodeWords, length_encodeWords]
    rfl)).1
  cases first
  cases second
  simp only [List.cons.injEq, and_true, true_and] at words
  simpa only [ColdTemplateIds.mk.injEq, and_assoc] using words

theorem length_coldTemplatePreimage (ids : ColdTemplateIds) (genesis : B256) :
    (coldTemplatePreimage ids genesis).length = 288 := by
  rw [coldTemplatePreimage, length_resize]

section Binding

variable {keccak256 : Bytes → B256} {messages : List Bytes}

/-- Two arrays of words with one hash are the same array. -/
theorem abiB256ArrayHash_binds (clean : ¬ Collides keccak256 messages) {first second : List B256}
    (firstMember : encodeWords (abiB256ArrayWords first) ∈ messages)
    (secondMember : encodeWords (abiB256ArrayWords second) ∈ messages)
    (same : abiB256ArrayHash keccak256 first = abiB256ArrayHash keccak256 second) :
    first = second :=
  abiB256ArrayWords_injective
    (encodeWords_injective (eq_of_hash_eq clean firstMember secondMember same))

theorem aggregateMemberHashV1_binds (clean : ¬ Collides keccak256 messages)
    {first second : AggregateMemberStatementV1}
    (firstMember : encodeWords (aggregateMemberWords first) ∈ messages)
    (secondMember : encodeWords (aggregateMemberWords second) ∈ messages)
    (same : aggregateMemberHashV1 keccak256 first = aggregateMemberHashV1 keccak256 second) :
    first = second := by
  have words := encodeWords_injective (eq_of_hash_eq clean firstMember secondMember same)
  cases first
  cases second
  simp only [aggregateMemberWords, List.cons.injEq, and_true] at words
  obtain ⟨room, rest⟩ := words
  rw [AggregateMemberStatementV1.mk.injEq]
  exact ⟨abiU64WordV5_injective room, rest⟩

/-- The eleven words determine an equivalence. -/
theorem dataAvailabilityWords_binds (clean : ¬ Collides keccak256 messages)
    {first second : BlobEquivalenceInputV1}
    (firstWellFormed : (Statement.blobEquivalence first).WellFormed)
    (secondWellFormed : (Statement.blobEquivalence second).WellFormed)
    (firstMessages : (Statement.blobEquivalence first).innerMessages keccak256 ⊆ messages)
    (secondMessages : (Statement.blobEquivalence second).innerMessages keccak256 ⊆ messages)
    (same : dataAvailabilityWords keccak256 first = dataAvailabilityWords keccak256 second) :
    first = second := by
  simp only [Statement.innerMessages, List.cons_subset] at firstMessages secondMessages
  obtain ⟨firstData, firstHashes, firstCommitments, firstPoints, firstEvaluations, -⟩ :=
    firstMessages
  obtain ⟨secondData, secondHashes, secondCommitments, secondPoints, secondEvaluations, -⟩ :=
    secondMessages
  simp only [dataAvailabilityWords, List.cons.injEq, and_true, true_and] at same
  obtain ⟨domain, room, journal, data, -, start, hashes, commitments, points, evaluations⟩ := same
  have sameCommitments := abiBytesArrayPreimage_injective firstWellFormed secondWellFormed
    (eq_of_hash_eq clean firstCommitments secondCommitments commitments)
  have sameData := eq_of_hash_eq clean firstData secondData data
  have sameStart : first.blobStartIndex = second.blobStartIndex :=
    setWidth_injective (by decide) (abiU64WordV5_injective start)
  have sameHashes := abiB256ArrayHash_binds clean firstHashes secondHashes hashes
  have samePoints := abiB256ArrayHash_binds clean firstPoints secondPoints points
  have sameEvaluations :=
    abiB256ArrayHash_binds clean firstEvaluations secondEvaluations evaluations
  cases first
  cases second
  rw [BlobEquivalenceInputV1.mk.injEq]
  exact ⟨domain, abiU64WordV5_injective room, journal, sameData, sameStart, sameHashes,
    sameCommitments, samePoints, sameEvaluations⟩

/-- The three words determine an aggregate, in the order of its members. -/
theorem aggregateWords_binds (clean : ¬ Collides keccak256 messages)
    {first second : AggregateInputV1}
    (firstMessages : (Statement.aggregate first).innerMessages keccak256 ⊆ messages)
    (secondMessages : (Statement.aggregate second).innerMessages keccak256 ⊆ messages)
    (same : aggregateWords keccak256 first = aggregateWords keccak256 second) :
    first = second := by
  rw [Statement.innerMessages, List.cons_subset] at firstMessages secondMessages
  simp only [aggregateWords, List.cons.injEq, and_true, true_and] at same
  have hashes := abiB256ArrayHash_binds clean firstMessages.1 secondMessages.1 same.2
  have members := eq_of_map_eq (fun left leftMember right rightMember =>
    aggregateMemberHashV1_binds clean
      (firstMessages.2 (List.mem_map_of_mem leftMember))
      (secondMessages.2 (List.mem_map_of_mem rightMember))) hashes
  cases first
  cases second
  rw [AggregateInputV1.mk.injEq]
  exact ⟨same.1, members⟩

/-! ### Separation and binding -/

/-- The number of words of the outermost string. -/
def Statement.wordCount : Statement → Nat
  | .roomBatch _ => 52
  | .coldTemplate _ _ => 9
  | .blobEquivalence _ => 11
  | .aggregate _ => 3

theorem Statement.length_preimage (statement : Statement) :
    (statement.preimage keccak256).length = 32 * statement.wordCount := by
  cases statement with
  | roomBatch journal => exact length_encodeWords _
  | coldTemplate ids frame => exact length_coldTemplatePreimage ids _
  | blobEquivalence input => exact length_encodeWords _
  | aggregate input => exact length_encodeWords _

/-- The outermost string determines the statement. -/
theorem Statement.preimage_binds (clean : ¬ Collides keccak256 messages)
    {first second : Statement} (firstWellFormed : first.WellFormed)
    (secondWellFormed : second.WellFormed)
    (firstMessages : first.innerMessages keccak256 ⊆ messages)
    (secondMessages : second.innerMessages keccak256 ⊆ messages)
    (same : first.preimage keccak256 = second.preimage keccak256) : first = second := by
  have counts : first.wordCount = second.wordCount := by
    have lengths := congrArg List.length same
    rw [Statement.length_preimage, Statement.length_preimage] at lengths
    omega
  cases first <;> cases second <;> cases counts
  case roomBatch.roomBatch firstJournal secondJournal =>
    exact congrArg _ (journalWords_injective (encodeWords_injective same))
  case coldTemplate.coldTemplate firstIds firstFrame secondIds secondFrame =>
    obtain ⟨ids, genesis⟩ := coldTemplatePreimage_injective same
    have frames := eq_of_hash_eq clean (firstMessages List.mem_cons_self)
      (secondMessages List.mem_cons_self) genesis
    rw [ids, frames]
  case blobEquivalence.blobEquivalence firstInput secondInput =>
    exact congrArg _ (dataAvailabilityWords_binds clean firstWellFormed secondWellFormed
      firstMessages secondMessages (encodeWords_injective same))
  case aggregate.aggregate firstInput secondInput =>
    exact congrArg _ (aggregateWords_binds clean firstMessages secondMessages
      (encodeWords_injective same))

end Binding

/-- Two accepted frames that commit to one value carry the same magic and the same public
content, or two of the strings the two runs hashed are different and have one digest. -/
theorem committed_determines_statement (guest : GuestExternals) {first second : Bytes}
    {firstOutput secondOutput : GuestOutput}
    (firstAccepted : guestMain guest first = .ok firstOutput)
    (secondAccepted : guestMain guest second = .ok secondOutput)
    (same : firstOutput.committed = secondOutput.committed) :
    ∃ firstStatement secondStatement : Statement,
      publicContent guest first = some firstStatement ∧
      publicContent guest second = some secondStatement ∧
      firstStatement.magic <+: first ∧ secondStatement.magic <+: second ∧
      (firstStatement = secondStatement ∨
        Collides guest.keccak256 (firstStatement.messages guest.keccak256 ++
          secondStatement.messages guest.keccak256)) := by
  obtain ⟨firstStatement, firstCommits⟩ := guestMain_spec firstAccepted
  obtain ⟨secondStatement, secondCommits⟩ := guestMain_spec secondAccepted
  refine ⟨firstStatement, secondStatement, firstCommits.content, secondCommits.content,
    firstCommits.magic, secondCommits.magic, or_iff_not_imp_right.mpr fun clean => ?_⟩
  rw [firstCommits.committed, secondCommits.committed] at same
  have firstMessages := List.subset_append_left (firstStatement.messages guest.keccak256)
    (secondStatement.messages guest.keccak256)
  have secondMessages := List.subset_append_right (firstStatement.messages guest.keccak256)
    (secondStatement.messages guest.keccak256)
  refine Statement.preimage_binds clean firstCommits.wellFormed secondCommits.wellFormed
    (fun _ member => firstMessages (List.mem_cons_of_mem _ member))
    (fun _ member => secondMessages (List.mem_cons_of_mem _ member)) ?_
  exact eq_of_hash_eq clean (firstMessages List.mem_cons_self)
    (secondMessages List.mem_cons_self) same

/-! ### A run -/

/-- The sample world with decoders that read every witness as the same input. -/
def sampleGuest : GuestExternals where
  toExternals := sampleExternals
  sha256 := sampleDigest
  rootOfUnity := 1
  decodeBatchInput _ := some (sampleComposed sampleExitBatch)
  decodeColdTemplateInput _ := none
  decodeBlobEquivalenceInput _ := none
  decodeAggregateInput _ := some ⟨1, [⟨7, 2, 3, 0, 0⟩]⟩

/-- Two frames of one room batch, accepted with one committed value. -/
theorem committed_determines_statement_sample :
    ∃ firstStatement secondStatement : Statement,
      publicContent sampleGuest (roomBatchMagicV6 ++ [0]) = some firstStatement ∧
      publicContent sampleGuest (roomBatchMagicV6 ++ [1]) = some secondStatement ∧
      firstStatement.magic <+: roomBatchMagicV6 ++ [0] ∧
      secondStatement.magic <+: roomBatchMagicV6 ++ [1] ∧
      (firstStatement = secondStatement ∨
        Collides sampleDigest (firstStatement.messages sampleDigest ++
          secondStatement.messages sampleDigest)) := by
  have accepted : ∀ mark : Byte, mark ∈ [(0 : Byte), 1] →
      (guestMain sampleGuest (roomBatchMagicV6 ++ [mark])).toOption.map GuestOutput.committed =
        some (hashBatchJournalV5 sampleDigest (sampleComposed sampleExitBatch).journal) := by
    decide +kernel
  obtain ⟨first, firstAccepted, firstCommitted⟩ := toOption_map_eq_some (accepted 0 (by decide))
  obtain ⟨second, secondAccepted, secondCommitted⟩ := toOption_map_eq_some (accepted 1 (by decide))
  exact committed_determines_statement sampleGuest firstAccepted secondAccepted
    (firstCommitted.trans secondCommitted.symm)

end Zkdeal

/-
This file is how the host takes a witness in: a request carries it as JSON or as
base64, the host frames and decodes it, insists on the canonical octets, and derives
the job id that names it.

Two things follow. The octets the host hands to the guest decode there, under the
stricter decoder, to the input the host executes itself; so what the guest commits to
is what the host computed. And a job id has one kind, one witness and one proof mode
behind it: its preimage joins a domain, three words and two texts without separators,
but the two domains already differ in their ninth octet and everything between a domain
and the proof mode has a fixed width.

JSON, base64, SHA-256 and the binary format are parameters. Of the last it is used that
it decodes its own output.
-/

import Zkdeal.JsonScalars
import Zkdeal.Library.Codec
import Zkdeal.Statements

namespace Zkdeal

open Words Texts Guard Binding

/-- What the host takes from other libraries, and the image the host was built with. -/
structure WitnessLibrary where
  sha256 : Bytes → B256
  fromStr : String → Except String Json.Value
  b64Decode : String → Option Bytes
  batchFromValue : Json.Value → Option BatchInputV5
  coldTemplateFromValue : Json.Value → Option ColdTemplateInputV5
  batchCodec : Codec BatchInputV5
  coldTemplateCodec : Codec ColdTemplateInputV5
  embeddedProgramId : B256

def roomJobDomainV6 : Bytes := ascii "zkdeal:v6:room-prover-job"

def coldTemplateJobDomainV5 : Bytes := ascii "zkdeal:v5:cold-template-prover-job"

structure ContentAddressV5 where
  inputDigest : String
  jobId : String
  proofMode : String
deriving DecidableEq

/-! ### Requests -/

/-- What a request says under a key; a request that is no object says nothing. -/
def requestValue? (request : Json.Value) (key : String) : Option Json.Value :=
  request.asObject?.bind fun entries => Json.get? entries key

/-- The text a request says under a key. -/
def requestText? (request : Json.Value) (key : String) : Option String :=
  (requestValue? request key).bind Json.Value.asString?

/-- `str::eq_ignore_ascii_case`. -/
def eqIgnoreAsciiCase (first second : String) : Bool :=
  first.toList.map Char.toLower == second.toList.map Char.toLower

section Host

variable (library : WitnessLibrary)

/-- What the job id is the hash of. -/
def jobPreimage (jobDomain : Bytes) (digest programId presetHash : B256) (proofMode : String) :
    Bytes :=
  jobDomain ++ (wordBytes 32 digest ++ (wordBytes 32 programId ++ (wordBytes 32 presetHash ++
    (ascii "risc0" ++ ascii proofMode))))

def validateContentAddressV5 (request : Json.Value) (witness : Bytes)
    (programId presetHash : B256) (jobDomain : Bytes) : Except String ContentAddressV5 := do
  refuse (programId ≠ library.embeddedProgramId)
    ("witness proofProgramId " ++ String.ofList (hexDigits (wordBytes 32 programId)) ++
      " does not match embedded RISC Zero image " ++
      String.ofList (hexDigits (wordBytes 32 library.embeddedProgramId)))
  let proofMode := (requestText? request "proofMode").getD "groth16"
  refuse (proofMode ∉ ["succinct", "groth16"])
    ("unsupported proofMode '" ++ proofMode ++ "' (succinct|groth16)")
  let digest := library.sha256 witness
  let inputDigest := hex0x (wordBytes 32 digest)
  let jobId := hex0x (wordBytes 32
    (library.sha256 (jobPreimage jobDomain digest programId presetHash proofMode)))
  forEach (requestText? request "inputDigest").toList fun got =>
    refuse (eqIgnoreAsciiCase got inputDigest = false)
      ("inputDigest mismatch: request " ++ got ++ ", witness " ++ inputDigest)
  forEach (requestText? request "jobId").toList fun got =>
    refuse (eqIgnoreAsciiCase got jobId = false)
      ("jobId mismatch: request " ++ got ++ ", computed " ++ jobId)
  pure ⟨inputDigest, jobId, proofMode⟩

/-- The octets of a request's witness: those it carries, or those of the input it spells. -/
def suppliedWitness (request : Json.Value) (name : String)
    (encode : Json.Value → Except String Bytes) : Except String Bytes :=
  match requestText? request (name ++ "B64") with
  | some encoded =>
    orRefuse (library.b64Decode encoded) (name ++ "B64 is not valid base64")
  | none => do
    let value ← orRefuse (requestValue? request name)
      (name ++ " or " ++ name ++ "B64 is required")
    encode value

/-! ### Rooms -/

/-- The framed witness of a room batch, with its size field zero. -/
def roomInputBytesV5 (input : BatchInputV5) : Except String Bytes := do
  let encoded ← orRefuse (library.batchCodec.serialize { input with encodedWitnessBytes := 0 })
    "serialize v6 room witness"
  pure (roomBatchMagicV6 ++ encoded)

def roomWitnessFromStdin (raw : String) :
    Except String (BatchInputV5 × Json.Value × Bytes × ContentAddressV5) := do
  let request ← (library.fromStr raw).mapError fun _ => "stdin is not JSON"
  let supplied ← suppliedWitness library request "roomWitness" fun value => do
    let input ← orRefuse (library.batchFromValue value) "v6 room witness JSON decode"
    roomInputBytesV5 library input
  let encoded ← orRefuse (stripMagic roomBatchMagicV6 supplied)
    "roomWitnessB64 has the wrong protocol magic"
  let decoded ← orRefuse (library.batchCodec.deserialize encoded) "v6 room witness decode"
  let canonical ← roomInputBytesV5 library decoded
  refuse (canonical ≠ supplied) "v6 room witness is not in canonical encoding"
  refuse (2 ^ 32 ≤ supplied.length) "v6 room witness exceeds u32"
  let input := { decoded with encodedWitnessBytes := BitVec.ofNat 32 supplied.length }
  let address ← validateContentAddressV5 library request supplied input.journal.proofProgramId
    input.journal.policyHash roomJobDomainV6
  pure (input, request, supplied, address)

/-! ### Cold templates -/

def coldTemplateInputBytesV5 (input : ColdTemplateInputV5) : Except String Bytes := do
  let encoded ← orRefuse (library.coldTemplateCodec.serialize input)
    "serialize v5 cold-template witness"
  pure (coldTemplateMagicV5 ++ encoded)

def coldTemplateWitnessFromStdin (raw : String) :
    Except String (ColdTemplateInputV5 × Json.Value × Bytes × ContentAddressV5) := do
  let request ← (library.fromStr raw).mapError fun _ => "stdin is not JSON"
  let supplied ← suppliedWitness library request "coldTemplateWitness" fun value => do
    let input ← orRefuse (library.coldTemplateFromValue value)
      "v5 cold-template witness JSON decode"
    coldTemplateInputBytesV5 library input
  let encoded ← orRefuse (stripMagic coldTemplateMagicV5 supplied)
    "cold-template witness has the wrong protocol magic"
  let input ← orRefuse (library.coldTemplateCodec.deserialize encoded)
    "v5 cold-template witness decode"
  let canonical ← coldTemplateInputBytesV5 library input
  refuse (canonical ≠ supplied) "v5 cold-template witness is not in canonical encoding"
  let address ← validateContentAddressV5 library request supplied input.proofProgramId
    input.policyHash coldTemplateJobDomainV5
  pure (input, request, supplied, address)

end Host

/-! ### What the guest reads -/

/-- The guest whose decoders are the strict ones of the host's formats. -/
def WitnessLibrary.guest (library : WitnessLibrary) (guest : GuestExternals) : GuestExternals :=
  { guest with
    decodeBatchInput := library.batchCodec.deserializeStrict
    decodeColdTemplateInput := library.coldTemplateCodec.deserializeStrict }

/-- The statement the host computes for a room batch. -/
def nativeRoomStatement (externals : Externals) (input : BatchInputV5) : Except StfError B256 :=
  (executeBatchV5 externals input).map (hashBatchJournalV5 externals.keccak256)

/-- The statement the host computes for a cold template; its genesis package is the witness. -/
def nativeColdTemplateStatement (primitives : Primitives) (input : ColdTemplateInputV5)
    (witness : Bytes) : Except StfError B256 :=
  executeColdTemplateV5 primitives input (primitives.keccak256 witness)

/-- The guest's run on a witness ends like the host's, with one message for all failures. -/
def CommitsNative (library : WitnessLibrary) (guest : GuestExternals) (witness : Bytes)
    (failure : String) (native : Except StfError B256) : Prop :=
  guestMain (library.guest guest) witness =
    (native.mapError fun _ => failure).map fun statement => ⟨statement, []⟩

section Accepted

variable {library : WitnessLibrary}

theorem stripMagic_append (magic encoded : Bytes) :
    stripMagic magic (magic ++ encoded) = some encoded := by
  rw [stripMagic, if_pos (List.prefix_append _ _), List.drop_left]

/-- What a room request that was accepted carries. -/
structure RoomWitness (library : WitnessLibrary) (input : BatchInputV5) (witness : Bytes)
    (address : ContentAddressV5) (request : Json.Value) : Prop where
  framed : ∃ encoded, witness = roomBatchMagicV6 ++ encoded ∧
    library.batchCodec.serialize { input with encodedWitnessBytes := 0 } = some encoded
  size : witness.length < 2 ^ 32
  recorded : input.encodedWitnessBytes = BitVec.ofNat 32 witness.length
  addressed : validateContentAddressV5 library request witness input.journal.proofProgramId
    input.journal.policyHash roomJobDomainV6 = .ok address

theorem roomWitnessFromStdin_spec {raw : String} {input : BatchInputV5} {request : Json.Value}
    {witness : Bytes} {address : ContentAddressV5}
    (accepted : roomWitnessFromStdin library raw = .ok (input, request, witness, address)) :
    RoomWitness library input witness address request := by
  obtain ⟨_, -, accepted⟩ := bind_eq_ok.mp accepted
  obtain ⟨supplied, -, accepted⟩ := bind_eq_ok.mp accepted
  obtain ⟨encoded, -, accepted⟩ := bind_eq_ok.mp accepted
  obtain ⟨decoded, -, accepted⟩ := bind_eq_ok.mp accepted
  obtain ⟨canonical, written, accepted⟩ := bind_eq_ok.mp accepted
  obtain ⟨same, accepted⟩ := refuse_bind_eq_ok.mp accepted
  obtain ⟨size, accepted⟩ := refuse_bind_eq_ok.mp accepted
  obtain ⟨checked, addressed, accepted⟩ := bind_eq_ok.mp accepted
  obtain ⟨bytes, serialized, framed⟩ := bind_eq_ok.mp written
  obtain ⟨rfl, rfl, rfl, rfl⟩ : _ ∧ _ ∧ _ ∧ _ := by
    simpa only [Prod.mk.injEq] using pure_eq_ok.mp accepted
  refine ⟨⟨bytes, ?_, orRefuse_eq_ok.mp serialized⟩, not_le.mp size, rfl, addressed⟩
  rw [pure_eq_ok.mp framed, not_not.mp same]

/-- What a template request that was accepted carries. -/
structure ColdTemplateWitness (library : WitnessLibrary) (input : ColdTemplateInputV5)
    (witness : Bytes) (address : ContentAddressV5) (request : Json.Value) : Prop where
  framed : ∃ encoded, witness = coldTemplateMagicV5 ++ encoded ∧
    library.coldTemplateCodec.serialize input = some encoded
  addressed : validateContentAddressV5 library request witness input.proofProgramId
    input.policyHash coldTemplateJobDomainV5 = .ok address

theorem coldTemplateWitnessFromStdin_spec {raw : String} {input : ColdTemplateInputV5}
    {request : Json.Value} {witness : Bytes} {address : ContentAddressV5}
    (accepted : coldTemplateWitnessFromStdin library raw =
      .ok (input, request, witness, address)) :
    ColdTemplateWitness library input witness address request := by
  obtain ⟨_, -, accepted⟩ := bind_eq_ok.mp accepted
  obtain ⟨supplied, -, accepted⟩ := bind_eq_ok.mp accepted
  obtain ⟨encoded, -, accepted⟩ := bind_eq_ok.mp accepted
  obtain ⟨decoded, -, accepted⟩ := bind_eq_ok.mp accepted
  obtain ⟨canonical, written, accepted⟩ := bind_eq_ok.mp accepted
  obtain ⟨same, accepted⟩ := refuse_bind_eq_ok.mp accepted
  obtain ⟨checked, addressed, accepted⟩ := bind_eq_ok.mp accepted
  obtain ⟨bytes, serialized, framed⟩ := bind_eq_ok.mp written
  obtain ⟨rfl, rfl, rfl, rfl⟩ : _ ∧ _ ∧ _ ∧ _ := by
    simpa only [Prod.mk.injEq] using pure_eq_ok.mp accepted
  refine ⟨⟨bytes, ?_, orRefuse_eq_ok.mp serialized⟩, addressed⟩
  rw [pure_eq_ok.mp framed, not_not.mp same]

/-- The guest reads the host's input of a room. -/
theorem RoomWitness.guest_reads {input : BatchInputV5} {witness : Bytes}
    {address : ContentAddressV5} {request : Json.Value}
    (room : RoomWitness library input witness address request) :
    ∃ encoded decoded, stripMagic roomBatchMagicV6 witness = some encoded ∧
      library.batchCodec.deserializeStrict encoded = some decoded ∧
      { decoded with encodedWitnessBytes := BitVec.ofNat 32 witness.length } = input := by
  obtain ⟨encoded, framed, serialized⟩ := room.framed
  refine ⟨encoded, _, ?_, Codec.deserializeStrict_serialize serialized, ?_⟩
  · rw [framed, stripMagic_append]
  · rw [← room.recorded]

theorem ColdTemplateWitness.guest_reads {input : ColdTemplateInputV5} {witness : Bytes}
    {address : ContentAddressV5} {request : Json.Value}
    (template : ColdTemplateWitness library input witness address request) :
    ∃ encoded, stripMagic coldTemplateMagicV5 witness = some encoded ∧
      library.coldTemplateCodec.deserializeStrict encoded = some input := by
  obtain ⟨encoded, framed, serialized⟩ := template.framed
  refine ⟨encoded, ?_, Codec.deserializeStrict_serialize serialized⟩
  rw [framed, stripMagic_append]

theorem RoomWitness.commitsNative {input : BatchInputV5} {witness : Bytes}
    {address : ContentAddressV5} {request : Json.Value}
    (room : RoomWitness library input witness address request) (guest : GuestExternals) :
    CommitsNative library guest witness "v6 room batch STF execution failed"
      (nativeRoomStatement guest.toExternals input) := by
  obtain ⟨encoded, decoded, stripped, read, same⟩ := room.guest_reads
  unfold CommitsNative guestMain
  rw [stripped]
  show roomBatchStatement (library.guest guest) witness encoded = _
  refine bind_of_eq_ok (orRefuse_eq_ok.mpr read) ?_
  refine refuse_bind_of_not (not_le.mpr room.size) ?_
  rw [same]
  show ((executeBatchV5 guest.toExternals input).mapError _ >>= _) = _
  unfold nativeRoomStatement
  cases executeBatchV5 guest.toExternals input with
  | error failure => rfl
  | ok journal => rfl

theorem stripMagic_room_of_cold (encoded : Bytes) :
    stripMagic roomBatchMagicV6 (coldTemplateMagicV5 ++ encoded) = none := by
  refine if_neg fun framed => ?_
  have first := List.prefix_iff_eq_take.mp framed
  rw [List.take_append_of_le_length (by decide)] at first
  exact absurd first (by decide)

theorem ColdTemplateWitness.commitsNative {input : ColdTemplateInputV5} {witness : Bytes}
    {address : ContentAddressV5} {request : Json.Value}
    (template : ColdTemplateWitness library input witness address request)
    (guest : GuestExternals) :
    CommitsNative library guest witness "v5 cold-template validation failed"
      (nativeColdTemplateStatement guest.toPrimitives input witness) := by
  obtain ⟨encoded, stripped, read⟩ := template.guest_reads
  obtain ⟨bytes, framed, -⟩ := template.framed
  unfold CommitsNative guestMain
  rw [stripped, framed, stripMagic_room_of_cold, ← framed]
  show coldTemplateStatement (library.guest guest) witness encoded = _
  refine bind_of_eq_ok (orRefuse_eq_ok.mpr read) ?_
  show ((executeColdTemplateV5 guest.toPrimitives input (guest.keccak256 witness)).mapError _ >>=
    _) = _
  unfold nativeColdTemplateStatement
  cases executeColdTemplateV5 guest.toPrimitives input (guest.keccak256 witness) with
  | error failure => rfl
  | ok statement => rfl

/-- Whatever the host runs a room on, the guest does not commit to another statement. -/
theorem RoomWitness.committed_eq {input : BatchInputV5} {witness : Bytes}
    {address : ContentAddressV5} {request : Json.Value}
    (room : RoomWitness library input witness address request) {guest : GuestExternals}
    {native : Externals} (sameHash : native.keccak256 = guest.keccak256) {statement : B256}
    {output : GuestOutput} (computed : nativeRoomStatement native input = .ok statement)
    (committed : guestMain (library.guest guest) witness = .ok output) :
    output.committed = statement := by
  rw [room.commitsNative guest, map_eq_ok] at committed
  obtain ⟨other, run, rfl⟩ := committed
  obtain ⟨journal, executed, rfl⟩ := map_eq_ok.mp (mapError_eq_ok.mp run)
  obtain ⟨nativeJournal, nativeExecuted, rfl⟩ := map_eq_ok.mp computed
  rw [sameHash, ← (executeBatchV5_eq_ok.mp executed).1,
    ← (executeBatchV5_eq_ok.mp nativeExecuted).1]

theorem ColdTemplateWitness.committed_eq {input : ColdTemplateInputV5} {witness : Bytes}
    {address : ContentAddressV5} {request : Json.Value}
    (template : ColdTemplateWitness library input witness address request)
    {guest : GuestExternals} {native : Primitives}
    (sameHash : native.keccak256 = guest.keccak256) {statement : B256} {output : GuestOutput}
    (computed : nativeColdTemplateStatement native input witness = .ok statement)
    (committed : guestMain (library.guest guest) witness = .ok output) :
    output.committed = statement := by
  rw [template.commitsNative guest, map_eq_ok] at committed
  obtain ⟨other, run, rfl⟩ := committed
  rw [executeColdTemplateV5_eq (mapError_eq_ok.mp run), executeColdTemplateV5_eq computed,
    sameHash]

/-! ### What a job id names -/

inductive WitnessKind where
  | room
  | coldTemplate
deriving DecidableEq

def WitnessKind.jobDomain : WitnessKind → Bytes
  | .room => roomJobDomainV6
  | .coldTemplate => coldTemplateJobDomainV5

/-- An accepted request of either kind, with the hash of its policy. -/
structure AddressedJob where
  kind : WitnessKind
  witness : Bytes
  presetHash : B256
  address : ContentAddressV5

/-- Take in a request of a kind. -/
def addressedJob (library : WitnessLibrary) (raw : String) :
    WitnessKind → Except String AddressedJob
  | .room => (roomWitnessFromStdin library raw).map fun accepted =>
    ⟨.room, accepted.2.2.1, accepted.1.journal.policyHash, accepted.2.2.2⟩
  | .coldTemplate => (coldTemplateWitnessFromStdin library raw).map fun accepted =>
    ⟨.coldTemplate, accepted.2.2.1, accepted.1.policyHash, accepted.2.2.2⟩

def AddressedJob.preimage (library : WitnessLibrary) (job : AddressedJob) : Bytes :=
  jobPreimage job.kind.jobDomain (library.sha256 job.witness) library.embeddedProgramId
    job.presetHash job.address.proofMode

/-- What is hashed on the way to a job id. -/
def AddressedJob.messages (library : WitnessLibrary) (job : AddressedJob) : List Bytes :=
  [job.witness, job.preimage library]

/-- The job id is the hash of the preimage, and the proof mode one of the two. -/
structure AddressedJob.Valid (library : WitnessLibrary) (job : AddressedJob) : Prop where
  jobId : job.address.jobId = hex0x (wordBytes 32 (library.sha256 (job.preimage library)))
  proofMode : job.address.proofMode ∈ ["succinct", "groth16"]

theorem validateContentAddressV5_spec {request : Json.Value} {witness : Bytes}
    {programId presetHash : B256} {kind : WitnessKind} {address : ContentAddressV5}
    (addressed : validateContentAddressV5 library request witness programId presetHash
      kind.jobDomain = .ok address) :
    AddressedJob.Valid library ⟨kind, witness, presetHash, address⟩ := by
  obtain ⟨embedded, addressed⟩ := refuse_bind_eq_ok.mp addressed
  obtain ⟨mode, addressed⟩ := refuse_bind_eq_ok.mp addressed
  obtain ⟨⟨⟩, -, addressed⟩ := bind_eq_ok.mp addressed
  obtain ⟨⟨⟩, -, addressed⟩ := bind_eq_ok.mp addressed
  obtain rfl := not_not.mp embedded
  obtain rfl := pure_eq_ok.mp addressed
  exact ⟨rfl, not_not.mp mode⟩

theorem addressedJob_spec {raw : String} {kind : WitnessKind} {job : AddressedJob}
    (accepted : addressedJob library raw kind = .ok job) :
    job.kind = kind ∧ job.Valid library := by
  cases kind with
  | room =>
    obtain ⟨result, taken, rfl⟩ := map_eq_ok.mp accepted
    have room := roomWitnessFromStdin_spec taken
    exact ⟨rfl, validateContentAddressV5_spec room.addressed⟩
  | coldTemplate =>
    obtain ⟨result, taken, rfl⟩ := map_eq_ok.mp accepted
    have template := coldTemplateWitnessFromStdin_spec taken
    exact ⟨rfl, validateContentAddressV5_spec template.addressed⟩

/-- The two domains differ before either of them ends. -/
theorem kind_eq_of_jobDomain_append {first second : WitnessKind} {firstRest secondRest : Bytes}
    (same : first.jobDomain ++ firstRest = second.jobDomain ++ secondRest) : first = second := by
  have long (kind : WitnessKind) (rest : Bytes) :
      (kind.jobDomain ++ rest).take 9 = kind.jobDomain.take 9 := by
    refine List.take_append_of_le_length ?_
    cases kind with
    | room => decide
    | coldTemplate => decide
  have early := congrArg (List.take 9) same
  rw [long, long] at early
  revert early
  cases first <;> cases second <;> decide

theorem proofMode_eq_of_ascii {first second : String} (firstMode : first ∈ ["succinct", "groth16"])
    (secondMode : second ∈ ["succinct", "groth16"]) (same : ascii first = ascii second) :
    first = second := by
  simp only [List.mem_cons, List.not_mem_nil, or_false] at firstMode secondMode
  revert same
  obtain rfl | rfl := firstMode <;> obtain rfl | rfl := secondMode <;> decide

/-- The parts of two equal preimages. -/
theorem preimage_injective {first second : AddressedJob} (firstValid : first.Valid library)
    (secondValid : second.Valid library)
    (same : first.preimage library = second.preimage library) :
    first.kind = second.kind ∧
      library.sha256 first.witness = library.sha256 second.witness ∧
      first.address.proofMode = second.address.proofMode := by
  have kind := kind_eq_of_jobDomain_append same
  rw [AddressedJob.preimage, AddressedJob.preimage, jobPreimage, jobPreimage, kind] at same
  have words (left right : B256) : (wordBytes 32 left).length = (wordBytes 32 right).length := by
    rw [length_wordBytes, length_wordBytes]
  obtain ⟨digest, same⟩ := List.append_inj (List.append_cancel_left same) (words _ _)
  obtain ⟨-, same⟩ := List.append_inj same (words _ _)
  obtain ⟨-, same⟩ := List.append_inj same (words _ _)
  exact ⟨kind, wordBytes_injective (by decide) digest,
    proofMode_eq_of_ascii firstValid.proofMode secondValid.proofMode
      (List.append_cancel_left same)⟩

/-- Two jobs with one id are one job, unless strings that were hashed for them collide. -/
theorem eq_of_jobId_eq {first second : AddressedJob} (firstValid : first.Valid library)
    (secondValid : second.Valid library) (same : first.address.jobId = second.address.jobId)
    (clean : ¬ Collides library.sha256 (first.messages library ++ second.messages library)) :
    first.kind = second.kind ∧ first.witness = second.witness ∧
      first.address.proofMode = second.address.proofMode := by
  rw [firstValid.jobId, secondValid.jobId] at same
  have hashes := wordBytes_injective (by decide) (hex0x_injective same)
  have preimages : first.preimage library = second.preimage library :=
    eq_of_hash_eq clean (by simp [AddressedJob.messages]) (by simp [AddressedJob.messages]) hashes
  obtain ⟨kind, digests, mode⟩ := preimage_injective firstValid secondValid preimages
  refine ⟨kind, ?_, mode⟩
  exact eq_of_hash_eq clean (by simp [AddressedJob.messages]) (by simp [AddressedJob.messages])
    digests

end Accepted

/-- A witness the host took in is read by the guest as the input the host executes, and the
guest ends as the host does; run on other libraries, as on another word size, the two never
commit to different statements. And two requests with one job id are of one kind, witness and
proof mode, or strings that were hashed for them collide. -/
theorem job_id_addresses_proof (library : WitnessLibrary) (guest : GuestExternals) :
    (∀ raw input request witness address,
      roomWitnessFromStdin library raw = .ok (input, request, witness, address) →
      (∃ encoded decoded, stripMagic roomBatchMagicV6 witness = some encoded ∧
        (library.guest guest).decodeBatchInput encoded = some decoded ∧
        { decoded with encodedWitnessBytes := BitVec.ofNat 32 witness.length } = input) ∧
      CommitsNative library guest witness "v6 room batch STF execution failed"
        (nativeRoomStatement guest.toExternals input) ∧
      ∀ native : Externals, native.keccak256 = guest.keccak256 → ∀ statement output,
        nativeRoomStatement native input = .ok statement →
        guestMain (library.guest guest) witness = .ok output → output.committed = statement) ∧
    (∀ raw input request witness address,
      coldTemplateWitnessFromStdin library raw = .ok (input, request, witness, address) →
      (∃ encoded, stripMagic coldTemplateMagicV5 witness = some encoded ∧
        (library.guest guest).decodeColdTemplateInput encoded = some input) ∧
      CommitsNative library guest witness "v5 cold-template validation failed"
        (nativeColdTemplateStatement guest.toPrimitives input witness) ∧
      ∀ native : Primitives, native.keccak256 = guest.keccak256 → ∀ statement output,
        nativeColdTemplateStatement native input witness = .ok statement →
        guestMain (library.guest guest) witness = .ok output → output.committed = statement) ∧
    ∀ firstRaw firstKind first secondRaw secondKind second,
      addressedJob library firstRaw firstKind = .ok first →
      addressedJob library secondRaw secondKind = .ok second →
      first.address.jobId = second.address.jobId →
      (firstKind = secondKind ∧ first.witness = second.witness ∧
        first.address.proofMode = second.address.proofMode) ∨
      Collides library.sha256 (first.messages library ++ second.messages library) := by
  refine ⟨?_, ?_, ?_⟩
  · intro raw input request witness address accepted
    have room := roomWitnessFromStdin_spec accepted
    refine ⟨room.guest_reads, room.commitsNative guest, ?_⟩
    intro native sameHash statement output computed committed
    exact room.committed_eq sameHash computed committed
  · intro raw input request witness address accepted
    have template := coldTemplateWitnessFromStdin_spec accepted
    refine ⟨template.guest_reads, template.commitsNative guest, ?_⟩
    intro native sameHash statement output computed committed
    exact template.committed_eq sameHash computed committed
  · intro firstRaw firstKind first secondRaw secondKind second firstAccepted secondAccepted same
    refine or_iff_not_imp_right.mpr fun clean => ?_
    obtain ⟨firstKind_eq, firstValid⟩ := addressedJob_spec firstAccepted
    obtain ⟨secondKind_eq, secondValid⟩ := addressedJob_spec secondAccepted
    obtain ⟨kind, witness, mode⟩ := eq_of_jobId_eq firstValid secondValid same clean
    exact ⟨firstKind_eq ▸ secondKind_eq ▸ kind, witness, mode⟩

/-- A format that writes some fields of a value in a fixed number of bytes; the others are given. -/
def sampleCodec {Value : Type} [DecidableEq Value] (width : Nat) (fields : Value → Bytes)
    (fill : Bytes → Value) : Codec Value where
  serialize value :=
    if (fields value).length = width ∧ fill (fields value) = value then some (fields value)
    else none
  read bytes :=
    if width ≤ bytes.length then some (fill (bytes.take width), bytes.drop width) else none
  read_serialize := by
    intro value bytes written rest
    split_ifs at written with fits
    obtain ⟨length, filled⟩ := fits
    rw [← Option.some.inj written, if_pos (by rw [List.length_append]; omega),
      List.take_left' length, List.drop_left' length, filled]

/-- The sample batch, with a size and a room of its own. -/
def sampleMemberBatch (encodedWitnessBytes : U32) (roomId : U64) : BatchInputV5 :=
  let batch := sampleComposed sampleExitBatch
  { batch with encodedWitnessBytes, journal := { batch.journal with roomId } }

/-- A library for the sample batch and for templates that differ in their identifiers, with
hexadecimal in place of base64. -/
def sampleWitnessLibrary : WitnessLibrary where
  sha256 := sampleDigest
  fromStr := sampleTexts.fromStr
  b64Decode text := readHexDigits text.toList
  batchFromValue value := do
    let entries ← value.asObject?
    let size ← (getU64 entries "encodedWitnessBytes" "size").toOption
    let roomId ← (getU64 entries "roomId" "room").toOption
    some (sampleMemberBatch (size.setWidth 32) roomId)
  coldTemplateFromValue _ := none
  batchCodec := sampleCodec 12
    (fun batch => wordBytes 4 batch.encodedWitnessBytes ++ wordBytes 8 batch.journal.roomId)
    fun bytes => sampleMemberBatch (BitVec.ofNat 32 (ofBigEndian (bytes.take 4)))
      (BitVec.ofNat 64 (ofBigEndian (bytes.drop 4)))
  coldTemplateCodec := sampleCodec 64
    (fun template => encodeWords [template.templateId, template.policyHash])
    fun bytes => { (default : ColdTemplateInputV5) with
      templateId := BitVec.ofNat 256 (ofBigEndian (bytes.take 32))
      policyHash := BitVec.ofNat 256 (ofBigEndian (bytes.drop 32))
      proofProgramId := 1 }
  embeddedProgramId := 1

/-- The sample batch as JSON. -/
def spelledRequest : String :=
  "\x7b\"roomWitness\":\x7b\"encodedWitnessBytes\":77,\"roomId\":1\x7d\x7d"

/-- A witness in octets. -/
def encodedRequest (key : String) (witness : Bytes) : String :=
  "\x7b\"" ++ key ++ "\":\"" ++ String.ofList (hexDigits witness) ++ "\"\x7d"

/-- The sample batch in octets. -/
def encodedRoom : String :=
  encodedRequest "roomWitnessB64"
    (roomBatchMagicV6 ++ wordBytes 4 (0 : U32) ++ wordBytes 8 (1 : U64))

/-- The batch is taken in and executed by the guest, as JSON and in octets it is one job, and a
template is taken in. -/
theorem job_id_addresses_proof_sample :
    (∃ input request witness address output,
      roomWitnessFromStdin sampleWitnessLibrary spelledRequest =
        .ok (input, request, witness, address) ∧
      input = sampleMemberBatch 20 1 ∧
      guestMain (sampleWitnessLibrary.guest sampleGuest) witness = .ok output ∧
      nativeRoomStatement sampleExternals input = .ok output.committed) ∧
    (∃ input request witness address,
      coldTemplateWitnessFromStdin sampleWitnessLibrary
          (encodedRequest "coldTemplateWitnessB64" (coldTemplateMagicV5 ++ encodeWords [5, 6])) =
        .ok (input, request, witness, address) ∧
      ∃ encoded, stripMagic coldTemplateMagicV5 witness = some encoded ∧
        (sampleWitnessLibrary.guest sampleGuest).decodeColdTemplateInput encoded = some input) ∧
    ∃ first second, addressedJob sampleWitnessLibrary spelledRequest .room = .ok first ∧
      addressedJob sampleWitnessLibrary encodedRoom .room = .ok second ∧
      ((WitnessKind.room = .room ∧ first.witness = second.witness ∧
        first.address.proofMode = second.address.proofMode) ∨
      Collides sampleDigest (first.messages sampleWitnessLibrary ++
        second.messages sampleWitnessLibrary)) := by
  obtain ⟨rooms, templates, jobs⟩ := job_id_addresses_proof sampleWitnessLibrary sampleGuest
  refine ⟨?_, ?_, ?_⟩
  · have taken : (roomWitnessFromStdin sampleWitnessLibrary spelledRequest).toOption.map
        (fun taken => (decide (taken.1 = sampleMemberBatch 20 1),
          (guestMain (sampleWitnessLibrary.guest sampleGuest) taken.2.2.1).toOption.isSome)) =
        some (true, true) := by decide +kernel
    obtain ⟨⟨input, request, witness, address⟩, accepted, seen⟩ := toOption_map_eq_some taken
    obtain ⟨same, ran⟩ := Prod.mk.inj seen
    obtain ⟨output, ran⟩ := exists_eq_ok_of_isSome ran
    have commits := (rooms _ _ _ _ _ accepted).2.1
    rw [CommitsNative, ran, eq_comm, map_eq_ok] at commits
    obtain ⟨statement, native, rfl⟩ := commits
    exact ⟨input, request, witness, address, _, accepted, of_decide_eq_true same, ran,
      mapError_eq_ok.mp native⟩
  · have accepted : (coldTemplateWitnessFromStdin sampleWitnessLibrary
        (encodedRequest "coldTemplateWitnessB64" (coldTemplateMagicV5 ++
          encodeWords [5, 6]))).toOption.isSome = true := by decide +kernel
    obtain ⟨⟨input, request, witness, address⟩, accepted⟩ := exists_eq_ok_of_isSome accepted
    exact ⟨input, request, witness, address, accepted, (templates _ _ _ _ _ accepted).1⟩
  · have ids : (addressedJob sampleWitnessLibrary spelledRequest .room).toOption.map
          (fun job => job.address.jobId) =
        (addressedJob sampleWitnessLibrary encodedRoom .room).toOption.map
          fun job => job.address.jobId := by decide +kernel
    have first : (addressedJob sampleWitnessLibrary spelledRequest .room).toOption.isSome =
        true := by decide +kernel
    obtain ⟨first, firstAccepted⟩ := exists_eq_ok_of_isSome first
    rw [firstAccepted] at ids
    obtain ⟨second, secondAccepted, same⟩ := toOption_map_eq_some ids.symm
    exact ⟨first, second, firstAccepted, secondAccepted,
      jobs _ _ _ _ _ _ firstAccepted secondAccepted same.symm⟩

end Zkdeal

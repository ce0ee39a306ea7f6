/-
This file is the view of the room state the interpreter reads through, and the
proof that the cache of prepared runtime code cannot be seen through it.

The cache is two maps: analysed code by its hash, and the hash expected at an
address. Commits remove addresses from the second map and never touch the first,
so what the first one holds stays what the installation put there: legacy code
under the hash of its own bytes. A lookup by address compares the bytes again; a
lookup by hash does not, and there the cached code can differ from the code of an
account only if the two collide.
-/

import Zkdeal.Continuation

namespace Zkdeal

open Words Binding Guard Maps

/-! ### Reads -/

/-- An account as the interpreter loads it. -/
structure AccountInfo where
  balance : U256
  nonce : U64
  codeHash : B256
  code : Bytecode
deriving DecidableEq

/-- Drop the prepared code. -/
def StateMap.clearPreparedRuntimeCode (state : StateMap) : StateMap :=
  { state with preparedCode := ∅, preparedCodeAddresses := ∅ }

section Reads

variable (primitives : Primitives) (newRaw : Bytes → Bytecode) (defaultCode : Bytecode)

/-- Load an account: the prepared code if it is still the code of the account, and otherwise
the code analysed without a check. -/
def StateMap.basic (state : StateMap) (address : Address) :
    Except StfDbError (Option AccountInfo) × StateMap :=
  let counted := { state with
    accessMetrics := { state.accessMetrics with
      accountReads := saturatingAdd state.accessMetrics.accountReads 1 } }
  let loaded := if state.declaresAccount address then
      .ok (state.accounts[address]?.map fun account =>
        let prepared := state.validatedPreparedCode address account
        { balance := account.balance
          nonce := account.nonce
          codeHash := (prepared.map Prod.fst).getD (account.codeHash primitives)
          code := (prepared.map Prod.snd).getD (newRaw account.code) })
    else .error (.undeclaredAccount address)
  (loaded, counted)

/-- Load code by its hash: from the cache, then from the first account that has it. -/
def StateMap.codeByHash (state : StateMap) (codeHash : B256) : Bytecode × StateMap :=
  let counted := { state with
    accessMetrics := { state.accessMetrics with
      codeReads := saturatingAdd state.accessMetrics.codeReads 1 } }
  let loaded := match state.preparedCode[codeHash]? with
    | some code => code
    | none =>
      match state.accounts.toList.find? fun entry =>
          !entry.2.code.isEmpty && entry.2.codeHash primitives == codeHash with
      | some entry => newRaw entry.2.code
      | none => defaultCode
  (loaded, counted)

/-- Load one storage slot. -/
def StateMap.storage (state : StateMap) (address : Address) (slot : U256) :
    Except StfDbError U256 × StateMap :=
  let counted := { state with
    accessMetrics := { state.accessMetrics with
      storageReads := saturatingAdd state.accessMetrics.storageReads 1 } }
  let loaded := if state.declaresStorage address slot then .ok (state.storageAt address slot)
    else .error (.undeclaredStorage address slot)
  (loaded, counted)

/-- Load a block hash; a number outside the installed history reads zero. -/
def StateMap.blockHash (state : StateMap) (number : U64) : B256 × StateMap :=
  (state.blockHashes.getD number 0, { state with
    accessMetrics := { state.accessMetrics with
      blockHashReads := saturatingAdd state.accessMetrics.blockHashReads 1 } })

end Reads

/-! ### What the cache holds -/

/-- The runtime code of every account. -/
def StateMap.codes (state : StateMap) : List Bytes :=
  state.accounts.toList.map fun entry => entry.2.code

/-- Cached code is legacy code that was checked, under the hash of its bytes. -/
structure PreparedFrom (primitives : Primitives) (codes : List Bytes) (codeHash : B256)
    (bytecode : Bytecode) : Prop where
  nonempty : bytecode.originalBytes ≠ []
  legacy : bytecode.kind = .legacy
  checked : primitives.newRawChecked bytecode.originalBytes = some bytecode
  hashed : primitives.keccak256 bytecode.originalBytes = codeHash
  source : bytecode.originalBytes ∈ codes

/-- Everything in the cache was prepared from one of the listed codes. -/
def CachePrepared (primitives : Primitives) (codes : List Bytes)
    (cache : BTreeMap B256 Bytecode) : Prop :=
  ∀ (codeHash : B256) bytecode, cache[codeHash]? = some bytecode →
    PreparedFrom primitives codes codeHash bytecode

section Cache

variable {primitives : Primitives}

theorem mem_codes {state : StateMap} {address : Address} {account : AccountRecord}
    (found : state.accounts[address]? = some account) : account.code ∈ state.codes :=
  List.mem_map.mpr ⟨(address, account),
    Std.ExtTreeMap.mem_toList_iff_getElem?_eq_some.mpr found, rfl⟩

theorem codeHash_of_nonempty {account : AccountRecord} (nonempty : account.code ≠ []) :
    account.codeHash primitives = primitives.keccak256 account.code := by
  rw [AccountRecord.codeHash, if_neg (by simpa using nonempty)]

theorem prepareRuntimeCode_prepared {state : StateMap}
    {before after : PreparedCodeCacheReport × BTreeMap B256 Bytecode} {frozen : Address × B256}
    (prepared : prepareRuntimeCode primitives state.accounts before frozen = .ok after)
    (holds : CachePrepared primitives state.codes before.2) :
    CachePrepared primitives state.codes after.2 := by
  obtain ⟨account, found, prepared⟩ := bind_eq_ok.mp prepared
  obtain ⟨-, prepared⟩ := refuse_bind_eq_ok.mp prepared
  dsimp only at prepared
  split at prepared
  · cases pure_eq_ok.mp prepared
    exact holds
  · rename_i filled
    have nonempty : account.code ≠ [] := by simpa using filled
    split at prepared
    · rename_i code checked
      have original : code = account.code := by
        unfold Primitives.newRawChecked at checked
        obtain ⟨kind, -, equal⟩ := Option.map_eq_some_iff.mp checked
        cases equal
        rfl
      cases pure_eq_ok.mp prepared
      cases original
      exact forall_getElem?_insert holds ⟨nonempty, rfl, checked,
        (codeHash_of_nonempty nonempty).symm, mem_codes (orRefuse_eq_ok.mp found)⟩
    · cases pure_eq_ok.mp prepared
      exact holds

theorem installPreparedRuntimeCode_prepared {state installed : StateMap}
    {frozenCodeHashes : BTreeMap Address B256} {report : PreparedCodeCacheReport}
    (accepted : state.installPreparedRuntimeCode primitives frozenCodeHashes =
      .ok (installed, report)) :
    CachePrepared primitives state.codes installed.preparedCode := by
  obtain ⟨prepared, ran, accepted⟩ := bind_eq_ok.mp accepted
  cases pure_eq_ok.mp accepted
  refine foldlM_preserves (fun prepared => CachePrepared primitives state.codes prepared.2)
    ran (fun codeHash bytecode found => by simp at found) ?_
  exact fun _ _ _ _ holds stepped => prepareRuntimeCode_prepared stepped holds

/-- A commit never touches the analysed code. -/
theorem preparedCode_commitAccount (state : StateMap) (change : Address × EvmAccount) :
    (state.commitAccount primitives change).preparedCode = state.preparedCode := by
  unfold StateMap.commitAccount
  split
  · dsimp only
    split <;> rfl
  · rfl

/-- Code that is served for an address is checked legacy code with the bytes of the account. -/
theorem validatedPreparedCode_eq_some {codes : List Bytes} {state : StateMap} {address : Address}
    {account : AccountRecord} {codeHash : B256} {bytecode : Bytecode}
    (holds : CachePrepared primitives codes state.preparedCode)
    (served : state.validatedPreparedCode address account = some (codeHash, bytecode)) :
    PreparedFrom primitives codes codeHash bytecode ∧ bytecode.originalBytes = account.code := by
  unfold StateMap.validatedPreparedCode at served
  split at served
  · cases served
  · split at served
    · cases served
    · rename_i cached
      split at served
      · rename_i same
        cases served
        exact ⟨holds _ _ cached, same⟩
      · cases served

/-- With the cache cleared nothing is served for an address. -/
@[simp]
theorem validatedPreparedCode_clear (state : StateMap) (address : Address)
    (account : AccountRecord) :
    state.clearPreparedRuntimeCode.validatedPreparedCode address account = none := by
  unfold StateMap.validatedPreparedCode StateMap.clearPreparedRuntimeCode
  rw [Std.ExtTreeMap.getElem?_empty]

end Cache

/-! ### Transparency -/

/-- Two states that answer every read alike: by address, by slot, and by the hash of any
non-empty code in the first of them. -/
structure ReadsAlike (primitives : Primitives) (newRaw : Bytes → Bytecode) (defaultCode : Bytecode)
    (first second : StateMap) : Prop where
  basic : ∀ address, (first.basic primitives newRaw address).1 =
    (second.basic primitives newRaw address).1
  storage : ∀ address slot, (first.storage address slot).1 = (second.storage address slot).1
  codeByHash : ∀ (address : Address) account, first.accounts[address]? = some account →
    account.code ≠ [] →
      (first.codeByHash primitives newRaw defaultCode (account.codeHash primitives)).1 =
        (second.codeByHash primitives newRaw defaultCode (account.codeHash primitives)).1
  stateRoot : first.stateRoot primitives = second.stateRoot primitives
  sparseStateRoot : first.sparseStateRootV5 primitives = second.sparseStateRootV5 primitives

/-- Legacy code is analysed alike with and without a check. -/
def ConstructorsAgree (primitives : Primitives) (newRaw : Bytes → Bytecode) : Prop :=
  ∀ code bytecode, primitives.newRawChecked code = some bytecode → bytecode.kind = .legacy →
    newRaw code = bytecode

section Transparency

variable {primitives : Primitives} {newRaw : Bytes → Bytecode} {codes : List Bytes}
  {state : StateMap}

/-- The hash served for an account is the hash of its code. -/
theorem served_codeHash (holds : CachePrepared primitives codes state.preparedCode)
    (address : Address) (account : AccountRecord) :
    ((state.validatedPreparedCode address account).map Prod.fst).getD
      (account.codeHash primitives) = account.codeHash primitives := by
  cases served : state.validatedPreparedCode address account with
  | none => rfl
  | some entry =>
    obtain ⟨prepared, same⟩ := validatedPreparedCode_eq_some holds served
    have nonempty : account.code ≠ [] := same ▸ prepared.nonempty
    rw [Option.map_some, Option.getD_some, codeHash_of_nonempty nonempty, ← same,
      prepared.hashed]

/-- The code served for an account is what analysing its bytes gives. -/
theorem served_code (holds : CachePrepared primitives codes state.preparedCode)
    (agrees : ConstructorsAgree primitives newRaw) (address : Address) (account : AccountRecord) :
    ((state.validatedPreparedCode address account).map Prod.snd).getD (newRaw account.code) =
      newRaw account.code := by
  cases served : state.validatedPreparedCode address account with
  | none => rfl
  | some entry =>
    obtain ⟨prepared, same⟩ := validatedPreparedCode_eq_some holds served
    rw [Option.map_some, Option.getD_some, ← same]
    exact (agrees _ _ prepared.checked prepared.legacy).symm

theorem basic_clear (holds : CachePrepared primitives codes state.preparedCode)
    (agrees : ConstructorsAgree primitives newRaw) (address : Address) :
    (state.basic primitives newRaw address).1 =
      (state.clearPreparedRuntimeCode.basic primitives newRaw address).1 := by
  unfold StateMap.basic
  dsimp only
  simp only [served_codeHash holds, served_code holds agrees, validatedPreparedCode_clear,
    Option.map_none, Option.getD_none]
  rfl

theorem stateRoot_clear (holds : CachePrepared primitives codes state.preparedCode) :
    state.stateRoot primitives = state.clearPreparedRuntimeCode.stateRoot primitives := by
  unfold StateMap.stateRoot
  simp only [served_codeHash holds, validatedPreparedCode_clear, Option.map_none,
    Option.getD_none]
  rfl

/-- Code that is served for the hash of an account's code is that code, unless the two collide. -/
theorem codeByHash_clear {address : Address} {account : AccountRecord} (defaultCode : Bytecode)
    (holds : CachePrepared primitives codes state.preparedCode)
    (agrees : ConstructorsAgree primitives newRaw)
    (clean : ¬ Collides primitives.keccak256 (codes ++ state.codes))
    (found : state.accounts[address]? = some account) (nonempty : account.code ≠ []) :
    (state.codeByHash primitives newRaw defaultCode (account.codeHash primitives)).1 =
      (state.clearPreparedRuntimeCode.codeByHash primitives newRaw defaultCode
        (account.codeHash primitives)).1 := by
  unfold StateMap.codeByHash
  dsimp only [StateMap.clearPreparedRuntimeCode]
  rw [Std.ExtTreeMap.getElem?_empty]
  cases cached : state.preparedCode[account.codeHash primitives]? with
  | none => rfl
  | some bytecode =>
    have prepared := holds _ _ cached
    dsimp only
    split
    · rename_i entry first
      have listed := List.mem_of_find?_eq_some first
      have chosen := List.find?_some first
      simp only [Bool.and_eq_true, Bool.not_eq_true', List.isEmpty_eq_false_iff, beq_iff_eq]
        at chosen
      have same : bytecode.originalBytes = entry.2.code := by
        refine eq_of_hash_eq clean (List.mem_append_left _ prepared.source)
          (List.mem_append_right _ (List.mem_map.mpr ⟨entry, listed, rfl⟩)) ?_
        rw [prepared.hashed, ← chosen.2, codeHash_of_nonempty chosen.1]
      rw [← same]
      exact (agrees _ _ prepared.checked prepared.legacy).symm
    · rename_i absent
      have own := List.find?_eq_none.mp absent (address, account)
        (Std.ExtTreeMap.mem_toList_iff_getElem?_eq_some.mpr found)
      simp [nonempty] at own

end Transparency

/-- After an installation and any number of commits, every read and both commitments are those
of the state without the cache, or two codes collide. -/
theorem preparedCode_transparent (primitives : Primitives) (newRaw : Bytes → Bytecode)
    (defaultCode : Bytecode) (agrees : ConstructorsAgree primitives newRaw)
    (state installed : StateMap) (frozenCodeHashes : BTreeMap Address B256)
    (report : PreparedCodeCacheReport)
    (accepted : state.installPreparedRuntimeCode primitives frozenCodeHashes =
      .ok (installed, report))
    (changes : List AccountChanges) :
    ReadsAlike primitives newRaw defaultCode (changes.foldl (StateMap.commit primitives) installed)
        (changes.foldl (StateMap.commit primitives) installed).clearPreparedRuntimeCode ∨
      Collides primitives.keccak256
        (state.codes ++ (changes.foldl (StateMap.commit primitives) installed).codes) := by
  have holds : CachePrepared primitives state.codes
      (changes.foldl (StateMap.commit primitives) installed).preparedCode := by
    refine StateMap.commits_preserve
      (fun reached => CachePrepared primitives state.codes reached.preparedCode) ?_
      (installPreparedRuntimeCode_prepared accepted) changes
    intro reached change prepared
    rw [preparedCode_commitAccount]
    exact prepared
  by_cases collision : Collides primitives.keccak256
      (state.codes ++ (changes.foldl (StateMap.commit primitives) installed).codes)
  · exact .inr collision
  · exact .inl {
      basic := basic_clear holds agrees
      storage := fun _ _ => rfl
      codeByHash := fun _ _ found nonempty =>
        codeByHash_clear defaultCode holds agrees collision found nonempty
      stateRoot := stateRoot_clear holds
      sparseStateRoot := rfl }

/-- The sample room with the code of two contracts prepared. -/
def samplePrepared : Except StfError (StateMap × StateMap × PreparedCodeCacheReport) := do
  let opening ← verifyCompactStateV4 samplePrimitives (sampleCompactState 0 sampleEmptyQueue)
  let installed ← (opening.installPreparedRuntimeCode samplePrimitives
    ((∅ : BTreeMap Address B256).insert 11 (sampleDigest [11]) |>.insert 12
      (sampleDigest [12]))).mapError .certifiedPolicy
  pure (opening, installed)

theorem preparedCode_transparent_sample :
    ∃ opening installed report, samplePrepared = .ok (opening, installed, report) ∧
      ReadsAlike samplePrimitives (fun code => ⟨code, .legacy⟩) ⟨[], .legacy⟩
        (installed.commit samplePrimitives sampleChanges)
        (installed.commit samplePrimitives sampleChanges).clearPreparedRuntimeCode := by
  have evaluated : (samplePrepared.toOption.map fun states =>
      let codes := states.1.codes ++ (states.2.1.commit samplePrimitives sampleChanges).codes
      codes.all fun first => codes.all fun second =>
        first == second || sampleDigest first != sampleDigest second) = some true := by
    decide +kernel
  obtain ⟨⟨opening, installed, report⟩, ran, separate⟩ := toOption_map_eq_some evaluated
  refine ⟨opening, installed, report, ran, ?_⟩
  obtain ⟨_, -, ran⟩ := bind_eq_ok.mp ran
  obtain ⟨_, accepted, ran⟩ := bind_eq_ok.mp ran
  cases pure_eq_ok.mp ran
  have agrees : ConstructorsAgree samplePrimitives fun code => ⟨code, .legacy⟩ := by
    rintro code ⟨_, _⟩ checked -
    cases checked
    rfl
  refine (preparedCode_transparent samplePrimitives _ ⟨[], .legacy⟩ agrees opening installed _
    report (mapError_eq_ok.mp accepted) [sampleChanges]).resolve_right ?_
  rintro ⟨first, firstListed, second, secondListed, different, same⟩
  simp only [List.all_eq_true, Bool.or_eq_true, beq_iff_eq, bne_iff_ne] at separate
  exact (separate first firstListed second secondListed).elim different fun other => other same

end Zkdeal

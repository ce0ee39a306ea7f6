/-
This file is about the block hashes the blocks of one batch can read.

Every block brings its own list of earlier block hashes. The list is checked for
its length, its order and the window below the block, and replaces what the block
before had installed; nothing compares it with that. The blocks of a batch see one
history as long as no two of them list the same number.
-/

import Zkdeal.Database

namespace Zkdeal

open Words Guard Maps

/-! ### One installation -/

/-- The installed history is the list, entry by entry. -/
theorem installBlockHashes_spec {state installed : StateMap} {currentNumber : U64}
    {history : List (U64 × B256)}
    (ran : state.installBlockHashes currentNumber history = .ok installed) (number : U64)
    (hash : B256) : installed.blockHashes[number]? = some hash ↔ (number, hash) ∈ history := by
  obtain ⟨-, ran⟩ := refuse_bind_eq_ok.mp ran
  obtain ⟨last, ran, finished⟩ := bind_eq_ok.mp ran
  rw [← pure_eq_ok.mp finished]
  have listed := foldlM_invariant (fun consumed (last : Option U64 × BTreeMap U64 B256) =>
    Increasing Prod.fst consumed last.1 ∧
      ∀ number hash, last.2[number]? = some hash ↔ (number, hash) ∈ consumed) ran
    ⟨increasing_nil, fun number hash => by simp⟩ ?_
  · exact listed.2 number hash
  · rintro consumed entry before after ⟨increasing, holds⟩ stepped
    obtain ⟨-, stepped⟩ := refuse_bind_eq_ok.mp stepped
    obtain ⟨above, stepped⟩ := refuse_bind_eq_ok.mp stepped
    have beyond : ∀ previous, before.1 = some previous → previous < entry.1 := by
      intro previous known
      rw [known, Option.any_some, decide_eq_true_eq, BitVec.not_le] at above
      exact above
    rw [← pure_eq_ok.mp stepped]
    refine ⟨increasing.concat beyond, getElem?_insert_iff_mem holds fun other member same => ?_⟩
    exact absurd (same ▸ increasing.above beyond other member) (BitVec.lt_irrefl _)

theorem installInputBlockHashes_spec {state installed : StateMap} {input : StfInput}
    (ran : installInputBlockHashes state input = .ok installed) (number : U64) (hash : B256) :
    installed.blockHashes[number]? = some hash ↔ ⟨number, hash⟩ ∈ input.blockHashes := by
  rw [installBlockHashes_spec (mapError_eq_ok.mp ran) number hash, List.mem_map]
  constructor
  · rintro ⟨entry, member, same⟩
    obtain ⟨rfl, rfl⟩ := Prod.mk.inj same
    exact member
  · exact fun member => ⟨_, member, rfl⟩

/-! ### The installations of a batch -/

section Batch

variable {externals : Externals}

/-- The state a block of a batch is executed on, with the block hashes it may read. -/
def AcceptedBatch.Installs (batch : AcceptedBatch externals) (block : BatchBlockV5)
    (installed : StateMap) : Prop :=
  ∃ earlier index later progress,
    batch.input.blocks.zipIdx = earlier ++ (block, index) :: later ∧
      earlier.foldlM (executeBatchBlock externals batch.input batch.opened) batch.opened.start =
        .ok progress ∧
      installInputBlockHashes progress.state
        (blockInput batch.input progress.currentRoot block) = .ok installed

/-- Every block of an accepted batch is executed on some state. -/
theorem AcceptedBatch.exists_installs (batch : AcceptedBatch externals) {block : BatchBlockV5}
    (member : block ∈ batch.input.blocks) : ∃ installed, batch.Installs block installed := by
  obtain ⟨index, listed⟩ := exists_mem_zipIdx member
  obtain ⟨earlier, later, parts⟩ := List.append_of_mem listed
  have runs := batch.runs
  unfold executeBlocks at runs
  rw [parts, List.foldlM_append] at runs
  obtain ⟨progress, reached, runs⟩ := bind_eq_ok.mp runs
  obtain ⟨next, stepped, -⟩ := foldlM_cons_eq_ok.mp runs
  obtain ⟨-, -, stepped⟩ := bind_eq_ok.mp stepped
  obtain ⟨outcome, executed, -⟩ := bind_eq_ok.mp stepped
  obtain ⟨-, executed⟩ := refuse_bind_eq_ok.mp executed
  obtain ⟨installed, installs, -⟩ := bind_eq_ok.mp executed
  exact ⟨installed, earlier, index, later, progress, parts, reached, installs⟩

/-- What a block may read is its own list. -/
theorem AcceptedBatch.Installs.getElem? {batch : AcceptedBatch externals} {block : BatchBlockV5}
    {installed : StateMap} (installs : batch.Installs block installed) :
    block ∈ batch.input.blocks ∧ ∀ number hash,
      installed.blockHashes[number]? = some hash ↔ ⟨number, hash⟩ ∈ block.blockHashes := by
  obtain ⟨earlier, index, later, progress, parts, -, ran⟩ := installs
  have listed : (block, index) ∈ batch.input.blocks.zipIdx := by
    rw [parts]
    exact List.mem_append_right _ List.mem_cons_self
  exact ⟨List.fst_mem_of_mem_zipIdx listed, installInputBlockHashes_spec ran⟩

/-- Two blocks of the batch that know the hash of one number know the same. -/
def AcceptedBatch.OneHistory (batch : AcceptedBatch externals) : Prop :=
  ∀ firstBlock secondBlock first second, batch.Installs firstBlock first →
    batch.Installs secondBlock second → ∀ (number : U64) (firstHash secondHash : B256),
      first.blockHashes[number]? = some firstHash →
        second.blockHashes[number]? = some secondHash → firstHash = secondHash

end Batch

/-- The numbers of the block hashes a block lists. -/
def BatchBlockV5.listedNumbers (block : BatchBlockV5) : List U64 :=
  block.blockHashes.map HistoricalBlockHash.number

/-- Where no number is listed by two blocks of an accepted batch, its blocks have one history,
and no block hash reads as two different values. -/
theorem oneHistory_of_disjoint {externals : Externals} (batch : AcceptedBatch externals)
    (disjoint : batch.input.blocks.Pairwise fun first second =>
      first.listedNumbers.Disjoint second.listedNumbers) :
    batch.OneHistory ∧ ∀ firstBlock secondBlock first second,
      batch.Installs firstBlock first → batch.Installs secondBlock second → ∀ number,
        (first.blockHash number).1 ≠ 0 → (second.blockHash number).1 ≠ 0 →
          (first.blockHash number).1 = (second.blockHash number).1 := by
  have agree : batch.OneHistory := by
    intro firstBlock secondBlock first second firstInstalls secondInstalls number firstHash
      secondHash firstKnown secondKnown
    obtain ⟨firstMember, firstLists⟩ := firstInstalls.getElem?
    obtain ⟨secondMember, secondLists⟩ := secondInstalls.getElem?
    have listed := (firstLists number firstHash).mp firstKnown
    by_cases same : firstBlock = secondBlock
    · rw [same, ← secondLists, secondKnown] at listed
      exact (Option.some.inj listed).symm
    · have : Std.Symm fun first second : BatchBlockV5 =>
          first.listedNumbers.Disjoint second.listedNumbers := ⟨fun _ _ apart => apart.symm⟩
      have apart := disjoint.forall firstMember secondMember same
      have again := (secondLists number secondHash).mp secondKnown
      exact (apart (List.mem_map_of_mem listed) (List.mem_map.mpr ⟨_, again, rfl⟩)).elim
  refine ⟨agree, ?_⟩
  intro firstBlock secondBlock first second firstInstalls secondInstalls number firstRead
    secondRead
  have known : ∀ state : StateMap, (state.blockHash number).1 ≠ 0 →
      state.blockHashes[number]? = some (state.blockHash number).1 := by
    intro state read
    rw [StateMap.blockHash, Std.ExtTreeMap.getD_eq_getD_getElem?] at read ⊢
    cases found : state.blockHashes[number]? with
    | none =>
      rw [found] at read
      exact absurd rfl read
    | some hash => rfl
  exact agree firstBlock secondBlock first second firstInstalls secondInstalls number _ _
    (known first firstRead) (known second secondRead)

/-- The exit batch of the sample room, each of its two blocks with one earlier block hash. -/
def sampleHistoryBatch (first second : HistoricalBlockHash) : BatchInputV5 :=
  { sampleExitBatch with
    blocks :=
      [{ sampleBlock 1 [sampleCall 0 3 7 1] with blockHashes := [first] },
        { sampleBlock 2 [] with blockHashes := [second] }] }

/-- Two blocks that list two numbers have one history. -/
theorem oneHistory_of_disjoint_sample :
    ∃ batch : AcceptedBatch sampleExternals,
      batch.input = sampleComposed (sampleHistoryBatch ⟨0, 17⟩ ⟨1, 18⟩) ∧ batch.OneHistory := by
  obtain ⟨batch, same, -, -⟩ := exists_sampleBatch (sampleHistoryBatch ⟨0, 17⟩ ⟨1, 18⟩)
    (fun _ _ => true) (by decide +kernel)
  have lists : batch.input.blocks.map BatchBlockV5.listedNumbers = [[0], [1]] := by
    rw [same]
    decide +kernel
  refine ⟨batch, same, (oneHistory_of_disjoint batch ?_).1⟩
  rw [← @List.pairwise_map _ _ BatchBlockV5.listedNumbers List.Disjoint, lists]
  simp

/-- An accepted batch whose blocks read two hashes of one block. -/
theorem oneHistory_forked :
    ∃ batch : AcceptedBatch sampleExternals,
      batch.input = sampleComposed (sampleHistoryBatch ⟨0, 17⟩ ⟨0, 18⟩) ∧ ¬ batch.OneHistory := by
  obtain ⟨batch, same, -, -⟩ := exists_sampleBatch (sampleHistoryBatch ⟨0, 17⟩ ⟨0, 18⟩)
    (fun _ _ => true) (by decide +kernel)
  have lists : batch.input.blocks.map (fun block => block.blockHashes) =
      [[⟨0, 17⟩], [⟨0, 18⟩]] := by
    rw [same]
    decide +kernel
  have reads : ∀ hash, [⟨0, hash⟩] ∈ batch.input.blocks.map (fun block => block.blockHashes) →
      ∃ block installed, batch.Installs block installed ∧
        installed.blockHashes[(0 : U64)]? = some hash := by
    intro hash listed
    obtain ⟨block, member, own⟩ := List.mem_map.mp listed
    obtain ⟨installed, installs⟩ := batch.exists_installs member
    refine ⟨block, installed, installs, (installs.getElem?.2 0 hash).mpr ?_⟩
    rw [own]
    exact List.mem_singleton_self _
  obtain ⟨firstBlock, first, firstInstalls, firstRead⟩ := reads 17 (by rw [lists]; simp)
  obtain ⟨secondBlock, second, secondInstalls, secondRead⟩ := reads 18 (by rw [lists]; simp)
  refine ⟨batch, same, fun agree => ?_⟩
  have equal := agree firstBlock secondBlock first second firstInstalls secondInstalls 0 17 18
    firstRead secondRead
  exact absurd equal (by decide)

end Zkdeal

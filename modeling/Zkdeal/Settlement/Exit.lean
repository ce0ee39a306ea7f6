/-
This file derives the terminal settlement of a seven-member room: the balances of
the members and their shares of every pro-rata position, the exit claims asset by
asset with the accounting they must conserve, and the claims root. It also holds the
two checks that tie a settlement to the one before it: the authentication of the
previous claims against their root, and the continuity of retired exits.
-/

import Zkdeal.Settlement.Program

namespace Zkdeal

open Words Guard

/-- A pair of octets as one key, in the order of the pairs. -/
def pairKey (first second : U8) : U16 := first ++ second

instance instTransOrdU16 : Std.TransOrd U16 := BitVec.instTransOrd

structure DerivedSettlementV4 where
  exitAllocations : List ExitAllocationV4
  accounting : List AssetAccountingV4
  assetTotalsHash : B256
  exitTotalsHash : B256
  feeTotalsHash : B256
  exitRoot : B256
deriving DecidableEq

/-- The members a settlement pays: everyone who ever used a slot. -/
def usedMembers (roster : List MemberSlotWitnessV4) : List MemberSlotWitnessV4 :=
  roster.filter fun slot => slot.state != memberUnused

section Derivation

variable (keccak256 : Bytes → B256)

/-! ### Totals and balances -/

/-- Enter the funded total of one asset; the totals run through the assets of the program. -/
def enterTotal (entered : BTreeMap U8 U256) (item : AssetTotalWitnessV4 × ExitAssetV4) :
    Except Message (BTreeMap U8 U256) := do
  refuse (item.1.assetId ≠ item.2.assetId ∨ entered.contains item.1.assetId)
    "asset totals must be sorted and exactly match exit-program assets"
  pure (entered.insert item.1.assetId item.1.total)

def memberBalance (state : StateMap) (slot : MemberSlotWitnessV4) (asset : ExitAssetV4) :
    Except Message U256 :=
  match asset.kind with
  | .native => .ok ((state.accounts[slot.account]?.map AccountRecord.balance).getD 0)
  | .erc20 token balanceSlot _ =>
    readStorage state token (mappingSlot keccak256 slot.account balanceSlot)
      "member ERC-20 exit balance"

def enterBalance (state : StateMap) (amounts : BTreeMap U16 U256)
    (item : MemberSlotWitnessV4 × ExitAssetV4) : Except Message (BTreeMap U16 U256) := do
  let balance ← memberBalance keccak256 state item.1 item.2
  pure (amounts.insert (pairKey item.1.slot item.2.assetId) balance)

/-- Every member with every asset, members first. -/
def membersByAsset (used : List MemberSlotWitnessV4) (assets : List ExitAssetV4) :
    List (MemberSlotWitnessV4 × ExitAssetV4) :=
  used.flatMap fun slot => assets.map fun asset => (slot, asset)

/-- Enter the choice of who takes one residual. -/
def enterResidual (program : ExitProgramV4) (entered : BTreeMap U16 U8 × Option U16)
    (residual : ResidualAllocationV4) : Except Message (BTreeMap U16 U8 × Option U16) := do
  let key := pairKey residual.position residual.assetId
  refuse (program.positions.length ≤ residual.position.toNat ∨
      maxMembers ≤ residual.recipientSlot.toNat ∨
      (entered.2.any fun previous => key ≤ previous) ∨ entered.1.contains key)
    "residual allocations must be sorted, unique and in range"
  pure (entered.1.insert key residual.recipientSlot, some key)

/-! ### Positions -/

/-- What the positions have given out: the amounts so far and the residuals consumed. -/
structure Unwound where
  amounts : BTreeMap U16 U256
  consumed : BTreeSet U16

/-- Add to the amount of a member in an asset. -/
def addAmount (amounts : BTreeMap U16 U256) (slot assetId : U8) (amount : U256)
    (label : String) : Except Message (BTreeMap U16 U256) := do
  let sum ← addU256 (amounts.getD (pairKey slot assetId) 0) amount label
  pure (amounts.insert (pairKey slot assetId) sum)

/-- The shares of one member, added to the attributed supply. -/
def attributeShares (state : StateMap) (position : ProRataPositionV4)
    (attributed : U256 × List (U8 × U256)) (slot : MemberSlotWitnessV4) :
    Except Message (U256 × List (U8 × U256)) := do
  let shares ← readStorage state position.contract
    (mappingSlot keccak256 slot.account position.shareBalanceSlot) "member position shares"
  let supply ← addU256 attributed.1 shares "position share attribution"
  pure (supply, attributed.2 ++ [(slot.slot, shares)])

def attributeExcluded (state : StateMap) (position : ProRataPositionV4) (attributed : U256)
    (account : Address) : Except Message U256 := do
  let shares ← readStorage state position.contract
    (mappingSlot keccak256 account position.shareBalanceSlot) "excluded position shares"
  addU256 attributed shares "position excluded shares"

/-- The claim of one member on a backing, rounded down. -/
def shareBacking (assetId : U8) (backingBalance totalSupply : U256)
    (shared : BTreeMap U16 U256 × U256) (member : U8 × U256) :
    Except Message (BTreeMap U16 U256 × U256) := do
  let claim ← mulDivFloor backingBalance member.2 totalSupply "position pro-rata claim"
  let amounts ← addAmount shared.1 member.1 assetId claim "position exit allocation"
  let distributed ← addU256 shared.2 claim "position distributed total"
  pure (amounts, distributed)

/-- The claims of all members on a backing, with their total. -/
def distribute (assetId : U8) (backingBalance totalSupply : U256)
    (memberShares : List (U8 × U256)) (amounts : BTreeMap U16 U256) :
    Except Message (BTreeMap U16 U256 × U256) :=
  if totalSupply = 0 then .ok (amounts, 0)
  else memberShares.foldlM (shareBacking assetId backingBalance totalSupply) (amounts, 0)

/-- The token balance behind a position, which its reserve must agree with. -/
def backingBalance (program : ExitProgramV4) (state : StateMap) (position : ProRataPositionV4)
    (index : Nat) (backing : PositionBackingV4) : Except Message U256 := do
  let asset ← program.asset backing.assetId
  match asset.kind with
  | .native => .error "pro-rata backing must be ERC-20"
  | .erc20 token balanceSlot _ =>
    let balance ← readStorage state token (mappingSlot keccak256 position.contract balanceSlot)
      "position token backing"
    match backing.reserveSlot with
    | none => pure balance
    | some reserveSlot =>
      let reserve ← readStorage state position.contract reserveSlot "position reserve"
      refuse (reserve ≠ balance)
        [.text "position ", .decimal index, .text " asset ", .decimal backing.assetId.toNat,
          .text " reserve is not synchronized to token balance"]
      pure balance

/-- Give the residual of a backing to the member chosen for it. The key of a choice is the
position's number cut to an octet. -/
def settleResidual (roster : List MemberSlotWitnessV4) (choices : BTreeMap U16 U8) (index : Nat)
    (assetId : U8) (residual : U256) (unwound : Unwound) : Except Message Unwound :=
  let key := pairKey (BitVec.ofNat 8 index) assetId
  let label : Message :=
    [.text "position ", .decimal index, .text " asset ", .decimal assetId.toNat]
  match decide (residual = 0), choices[key]? with
  | true, none => .ok unwound
  | true, some _ => .error (label ++ [.text " declares a zero residual"])
  | false, none => .error (label ++ [.text " has an unallocated residual"])
  | false, some slot => do
    let recipient ← orRefuse
      (roster[slot.toNat]?.filter fun member => member.state != memberUnused)
      [.text "position ", .decimal index, .text " residual recipient slot is unused"]
    let amounts ← addAmount unwound.amounts recipient.slot assetId residual
      "position residual allocation"
    pure ⟨amounts, unwound.consumed.insert key⟩

def settleBacking (program : ExitProgramV4) (state : StateMap)
    (roster : List MemberSlotWitnessV4) (choices : BTreeMap U16 U8)
    (position : ProRataPositionV4) (index : Nat) (totalSupply : U256)
    (memberShares : List (U8 × U256)) (unwound : Unwound) (backing : PositionBackingV4) :
    Except Message Unwound := do
  let balance ← backingBalance keccak256 program state position index backing
  refuse (totalSupply = 0 ∧ balance ≠ 0)
    [.text "position ", .decimal index, .text " has backing with zero share supply"]
  let shared ← distribute backing.assetId balance totalSupply memberShares unwound.amounts
  let residual ← orRefuse (checkedSub balance shared.2) "position distribution exceeds backing"
  settleResidual roster choices index backing.assetId residual ⟨shared.1, unwound.consumed⟩

/-- Unwind one position over the members and the excluded accounts. -/
def settlePosition (program : ExitProgramV4) (state : StateMap)
    (roster : List MemberSlotWitnessV4) (choices : BTreeMap U16 U8) (unwound : Unwound)
    (item : ProRataPositionV4 × Nat) : Except Message Unwound := do
  let position := item.1
  let totalSupply ← readStorage state position.contract position.totalSupplySlot
    "position totalSupply"
  let attributed ← (usedMembers roster).foldlM (attributeShares keccak256 state position) (0, [])
  let supply ← position.excludedShareAccounts.foldlM
    (attributeExcluded keccak256 state position) attributed.1
  refuse (supply ≠ totalSupply)
    [.text "position ", .decimal item.2,
      .text " has shares outside used members and explicitly excluded accounts"]
  position.backings.foldlM (settleBacking keccak256 program state roster choices position item.2
    totalSupply attributed.2) unwound

/-! ### Claims -/

/-- The claim of one member in an asset; a zero amount gets no claim. -/
def claimAmount (amounts : BTreeMap U16 U256) (assetId : U8)
    (claimed : U256 × List ExitAllocationV4) (slot : MemberSlotWitnessV4) :
    Except Message (U256 × List ExitAllocationV4) :=
  let amount := amounts.getD (pairKey slot.slot assetId) 0
  if amount = 0 then .ok claimed
  else do
    let total ← addU256 claimed.1 amount "asset exit total"
    pure (total, claimed.2 ++ [⟨slot.slot, assetId, slot.account, amount⟩])

/-- The room supply of a token is its funded total. -/
def checkSupply (state : StateMap) (asset : ExitAssetV4) (funded : U256) : Except Message Unit :=
  match asset.kind with
  | .native => .ok ()
  | .erc20 token _ totalSupplySlot => do
    let supply ← readStorage state token totalSupplySlot "exit asset totalSupply"
    refuse (supply ≠ funded)
      [.text "asset ", .decimal asset.assetId.toNat, .text " room token supply ",
        .decimal supply.toNat, .text " does not match L1-funded total ", .decimal funded.toNat]

/-- The claims and the accounting of one asset. -/
def claimAsset (state : StateMap) (used : List MemberSlotWitnessV4) (totals : BTreeMap U8 U256)
    (amounts : BTreeMap U16 U256) (asset : ExitAssetV4) :
    Except Message (List ExitAllocationV4 × AssetAccountingV4) := do
  let total := totals.getD asset.assetId 0
  checkSupply state asset total
  let claimed ← used.foldlM (claimAmount amounts asset.assetId) (0, [])
  refuse (claimed.1 ≠ total)
    [.text "asset ", .decimal asset.assetId.toNat, .text " is not exactly conserved: exits ",
      .decimal claimed.1.toNat, .text ", funded ", .decimal total.toNat]
  pure (claimed.2, ⟨asset.assetId, total, claimed.1, 0⟩)

/-- The canonical order of claims. -/
def sortClaims (allocations : List ExitAllocationV4) : List ExitAllocationV4 :=
  allocations.insertionSort fun first second =>
    pairKey first.slot first.assetId ≤ pairKey second.slot second.assetId

def deriveSettlementV4 (program : ExitProgramV4) (state : StateMap)
    (roster : List MemberSlotWitnessV4) (totals : List AssetTotalWitnessV4)
    (residualAllocations : List ResidualAllocationV4) (deploymentId : B256) (roomId : U64) :
    Except Message DerivedSettlementV4 := do
  refuse (totals.length ≠ program.assets.length)
    "asset totals must exactly cover the exit-program asset set"
  let totalMap ← (totals.zip program.assets).foldlM enterTotal ∅
  let used := usedMembers roster
  refuse (used = []) "settlement requires at least one lifetime-used member"
  let balances ← (membersByAsset used program.assets).foldlM (enterBalance keccak256 state) ∅
  let choices ← residualAllocations.foldlM (enterResidual program) (∅, none)
  let unwound ← program.positions.zipIdx.foldlM
    (settlePosition keccak256 program state roster choices.1) ⟨balances, ∅⟩
  refuse (unwound.consumed.size ≠ choices.1.size)
    "a residual allocation does not identify a nonzero derived residual"
  let claims ← program.assets.mapM (claimAsset state used totalMap unwound.amounts)
  let exitAllocations := sortClaims (claims.flatMap Prod.fst)
  let accounting := claims.map Prod.snd
  pure {
    exitAllocations := exitAllocations
    accounting := accounting
    assetTotalsHash := hashAssetTotalsV4 keccak256 accounting
    exitTotalsHash := hashExitTotalsV4 keccak256 accounting
    feeTotalsHash := hashFeeTotalsV4 keccak256 accounting
    exitRoot := claimMerkleRootV4 keccak256 deploymentId roomId exitAllocations }

/-! ### The settlement before -/

/-- The sort key of a claim. -/
def claimKey (allocation : ExitAllocationV4) : U16 :=
  allocation.slot.setWidth 16 * BitVec.ofNat 16 maxAssets + allocation.assetId.setWidth 16

/-- Authenticate one claim against the roster; keys are strictly increasing. -/
def authenticateClaim (program : ExitProgramV4) (roster : List MemberSlotWitnessV4)
    (usedMask : U8) (previousKey : Option U16) (allocation : ExitAllocationV4) :
    Except Message (Option U16) := do
  refuse (maxMembers ≤ allocation.slot.toNat ∨ maxAssets ≤ allocation.assetId.toNat ∨
      (program.asset allocation.assetId).toOption = none ∨ allocation.amount = 0)
    "previous exit allocations contain an out-of-range or zero leaf"
  let member ← orRefuse
    (roster[allocation.slot.toNat]?.filter fun member =>
      member.slot == allocation.slot && member.state != memberUnused)
    "previous exit allocation references an unused roster slot"
  refuse (usedMask &&& ((1 : U8) <<< allocation.slot.toNat) = 0 ∨
      allocation.recipient ≠ member.account)
    "previous exit allocation recipient/slot does not match pre-roster"
  refuse (previousKey.any fun previous => claimKey allocation ≤ previous)
    "previous exit allocations must be sorted and unique"
  pure (some (claimKey allocation))

def authenticatePreviousExitAllocationsV4 (program : ExitProgramV4)
    (roster : List MemberSlotWitnessV4) (usedMask : U8) (allocations : List ExitAllocationV4)
    (expectedRoot deploymentId : B256) (roomId : U64) : Except Message Unit := do
  refuse (maxMembers * program.assets.length < allocations.length)
    "previous exit allocation list exceeds room dimensions"
  let _ ← allocations.foldlM (authenticateClaim program roster usedMask) none
  let computed := claimMerkleRootV4 keccak256 deploymentId roomId allocations
  refuse (computed ≠ expectedRoot)
    [.text "previous exit allocation root ", .digest computed,
      .text " does not match previousExitRoot ", .digest expectedRoot]

/-- The amounts of a list of claims. -/
def claimAmounts (allocations : List ExitAllocationV4) : BTreeMap U16 U256 :=
  allocations.foldl (fun amounts allocation =>
    amounts.insert (pairKey allocation.slot allocation.assetId) allocation.amount) ∅

/-- The slots that were retired before the batch. -/
def alreadyRetired (preUsedMask preActiveMask : U8) : U8 := preUsedMask &&& ~~~preActiveMask &&& 127

def enforceRetiredExitContinuityV4 (previous current : List ExitAllocationV4)
    (preUsedMask preActiveMask : U8) : Except Message Unit :=
  let retired := alreadyRetired preUsedMask preActiveMask
  if retired = 0 then .ok ()
  else
    let previousAmounts := claimAmounts previous
    let currentAmounts := claimAmounts current
    forEach (Std.ExtTreeSet.ofList (previousAmounts.keys ++ currentAmounts.keys) compare).toList
      fun key =>
        let slot : U8 := key.extractLsb' 8 8
        let assetId : U8 := key.extractLsb' 0 8
        let before := previousAmounts.getD key 0
        let after := currentAmounts.getD key 0
        refuse (retired &&& ((1 : U8) <<< slot.toNat) ≠ 0 ∧ before ≠ after)
          [.text "retired slot ", .decimal slot.toNat, .text " asset ", .decimal assetId.toNat,
            .text " exit changed from ", .decimal before.toNat, .text " to ",
            .decimal after.toNat]

end Derivation

end Zkdeal

/-
This file is the exit program of a seven-member room: the assets it settles and the
pro-rata positions it unwinds, the parser that authenticates it against the preset,
and the credit of an inbox deposit to the room-local state.
-/

import Zkdeal.Settlement.Preset

namespace Zkdeal

open Words Guard

/-! ### The program -/

inductive ExitAssetKindV4 where
  | native
  | erc20 (token : Address) (balanceSlot totalSupplySlot : U256)
deriving DecidableEq

structure ExitAssetV4 where
  assetId : U8
  kind : ExitAssetKindV4
deriving DecidableEq

structure PositionBackingV4 where
  assetId : U8
  reserveSlot : Option U256
deriving DecidableEq

structure ProRataPositionV4 where
  contract : Address
  shareBalanceSlot : U256
  totalSupplySlot : U256
  excludedShareAccounts : List Address
  backings : List PositionBackingV4
deriving DecidableEq

structure ExitProgramV4 where
  assets : List ExitAssetV4
  positions : List ProRataPositionV4
deriving DecidableEq

/-! ### State access -/

def mappingSlot (keccak256 : Bytes → B256) (account : Address) (slot : U256) : U256 :=
  keccak256 (wordBytes 32 (addressWord account) ++ wordBytes 32 slot)

/-- The text of an access outside the envelope. -/
def outsideEnvelope (label : String) (address : Address) (slot : U256) : Message :=
  [.text label, .text ": storage ", .address address, .text "[", .hex slot,
    .text "] is outside the complete compact-state envelope"]

def readStorage (state : StateMap) (address : Address) (slot : U256) (label : String) :
    Except Message U256 := do
  refuse (state.declaresStorage address slot = false) (outsideEnvelope label address slot)
  pure (state.storageAt address slot)

def writeStorage (state : StateMap) (address : Address) (slot value : U256) (label : String) :
    Except Message StateMap := do
  refuse (state.declaresStorage address slot = false) (outsideEnvelope label address slot)
  let account ← orRefuse state.accounts[address]?
    [.text label, .text ": token account ", .address address, .text " is absent"]
  let written := { account with storage := writeSlot account.storage (slot, value) }
  pure { state with accounts := state.accounts.insert address written }

def addU256 (left right : U256) (label : String) : Except Message U256 :=
  orRefuse (checkedAdd left right) [.text label, .text ": uint256 addition overflow"]

def mulDivFloor (value numerator denominator : U256) (label : String) : Except Message U256 := do
  refuse (denominator = 0) [.text label, .text ": division by zero"]
  let product ← orRefuse (checkedMul value numerator)
    [.text label, .text ": uint256 multiplication overflow"]
  pure (product / denominator)

/-! ### Parsing -/

section Parsing

variable (json : JsonLibrary)

/-- A text that has to be present. -/
def requireText (text : Option String) (failure : String) : Except Message String :=
  orRefuse text failure

def parseAssetKind (policy : PresetPolicyV4) (index : Nat) (asset : ExitAssetJsonV4) :
    Except Message ExitAssetKindV4 :=
  let label := fieldLabel "assets" index
  if asset.kind = "native" then do
    refuse (asset.assetId ≠ 0 ∨ asset.token.isSome ∨ asset.balanceSlot.isSome ∨
        asset.totalSupplySlot.isSome)
      "native exit asset must be id 0 and have no token/slots"
    pure .native
  else if asset.kind = "erc20" then do
    let tokenText ← requireText asset.token "erc20 exit asset has no token"
    let token ← json.parseAddress tokenText (label ".token")
    let balanceText ← requireText asset.balanceSlot "erc20 exit asset has no balanceSlot"
    let balanceSlot ← parseDecimalU256 balanceText (label ".balanceSlot")
    let supplyText ← requireText asset.totalSupplySlot "erc20 exit asset has no totalSupplySlot"
    let totalSupplySlot ← parseDecimalU256 supplyText (label ".totalSupplySlot")
    refuse (policy.certified ∧ ¬ policy.codeHashes.contains token)
      [.text "exit asset token ", .address token, .text " is not code-hash pinned"]
    pure (.erc20 token balanceSlot totalSupplySlot)
  else .error (label ": unsupported exit asset kind " ++ [.text asset.kind])

/-- One asset of the program; the identifiers are strictly increasing. -/
def parseAsset (policy : PresetPolicyV4) (parsed : List ExitAssetV4 × Option U8)
    (item : ExitAssetJsonV4 × Nat) : Except Message (List ExitAssetV4 × Option U8) := do
  refuse (parsed.2.any fun previous => item.1.assetId ≤ previous)
    "exit program assets must be sorted by unique assetId"
  let kind ← parseAssetKind json policy item.2 item.1
  pure (parsed.1 ++ [⟨item.1.assetId, kind⟩], some item.1.assetId)

def parseExcludedAccount (position : Nat) (parsed : List Address × Option Address)
    (item : String × Nat) : Except Message (List Address × Option Address) := do
  let account ← json.parseAddress item.1
    (fieldLabel "positions" position ".excludedShareAccounts" ++ fieldLabel "" item.2 "")
  refuse (account = 0 ∨ parsed.2.any fun previous => account ≤ previous)
    (fieldLabel "positions" position " excluded accounts must be sorted, unique and nonzero")
  pure (parsed.1 ++ [account], some account)

def parseBacking (assets : List ExitAssetV4) (position : Nat)
    (parsed : List PositionBackingV4 × Option U8) (item : PositionBackingJsonV4 × Nat) :
    Except Message (List PositionBackingV4 × Option U8) := do
  let backing := item.1
  let label := fieldLabel "positions" position ".backings" ++ fieldLabel "" item.2 ""
  let unknown : Message :=
    fieldLabel "positions" position " backings must be sorted unique known assets"
  refuse (parsed.2.any fun previous => backing.assetId ≤ previous) unknown
  let asset ← orRefuse (assets.find? fun asset => asset.assetId == backing.assetId) unknown
  refuse (asset.kind = .native) (label ++ [.text " must be ERC-20"])
  let reserveSlot ← match backing.reserveSlot with
    | some value => (parseDecimalU256 value (label ++ [.text ".reserveSlot"])).map some
    | none => .ok none
  pure (parsed.1 ++ [⟨backing.assetId, reserveSlot⟩], some backing.assetId)

def parsePosition (policy : PresetPolicyV4) (assets : List ExitAssetV4)
    (parsed : List ProRataPositionV4) (item : ProRataPositionJsonV4 × Nat) :
    Except Message (List ProRataPositionV4) := do
  let position := item.1
  let label := fieldLabel "positions" item.2
  refuse (position.kind ≠ "pro-rata") (label ": unsupported kind " ++ [.text position.kind])
  let contract ← json.parseAddress position.contract (label ".contract")
  refuse (∃ other ∈ parsed, other.contract = contract)
    "exit positions must use unique contract addresses"
  refuse (policy.certified ∧ ¬ policy.codeHashes.contains contract)
    [.text "exit position ", .address contract, .text " is not code-hash pinned"]
  let shareBalanceSlot ← parseDecimalU256 position.shareBalanceSlot (label ".shareBalanceSlot")
  let totalSupplySlot ← parseDecimalU256 position.totalSupplySlot (label ".totalSupplySlot")
  refuse (position.backings = []) (label " has no backing assets")
  let excluded ← position.excludedShareAccounts.zipIdx.foldlM
    (parseExcludedAccount json item.2) ([], none)
  let backings ← position.backings.zipIdx.foldlM (parseBacking assets item.2) ([], none)
  pure (parsed ++ [⟨contract, shareBalanceSlot, totalSupplySlot, excluded.1, backings.1⟩])

def ExitProgramV4.parse (keccak256 : Bytes → B256) (canonicalJson : Bytes)
    (policy : PresetPolicyV4) : Except Message ExitProgramV4 := do
  let value ← json.readCanonical canonicalJson "exit program"
  refuse (keccak256 canonicalJson ≠ policy.exitProgramId)
    "canonical exit program JSON does not hash to preset.exitProgramId"
  let parsed ← (json.exitProgram value).mapError fun error =>
    .text "exit program schema: " :: error
  refuse (parsed.version ≠ 4) "exit program version must be 4"
  refuse (parsed.assets = [] ∨ maxAssets < parsed.assets.length)
    "exit program needs 1..16 assets"
  let assets ← parsed.assets.zipIdx.foldlM (parseAsset json policy) ([], none)
  forEach policy.presetAssetIds fun presetAsset =>
    refuse (¬ ∃ asset ∈ assets.1, asset.assetId = presetAsset)
      [.text "preset asset ", .decimal presetAsset.toNat,
        .text " is absent from exit program"]
  let positions ← parsed.positions.zipIdx.foldlM (parsePosition json policy assets.1) []
  pure ⟨assets.1, positions⟩

/-- What a parsed program passed, and where its assets and positions come from. -/
theorem ExitProgramV4.parse_eq_ok {json : JsonLibrary} {keccak256 : Bytes → B256}
    {canonicalJson : Bytes} {policy : PresetPolicyV4} {program : ExitProgramV4}
    (parsed : ExitProgramV4.parse json keccak256 canonicalJson policy = .ok program) :
    ∃ value document last,
      json.readCanonical canonicalJson "exit program" = .ok value ∧
      keccak256 canonicalJson = policy.exitProgramId ∧
      json.exitProgram value = .ok document ∧
      document.version = 4 ∧
      (document.assets ≠ [] ∧ document.assets.length ≤ maxAssets) ∧
      document.assets.zipIdx.foldlM (parseAsset json policy) ([], none) =
        .ok (program.assets, last) ∧
      (∀ presetAsset ∈ policy.presetAssetIds, ∃ asset ∈ program.assets,
        asset.assetId = presetAsset) ∧
      document.positions.zipIdx.foldlM (parsePosition json policy program.assets) [] =
        .ok program.positions := by
  obtain ⟨value, read, parsed⟩ := bind_eq_ok.mp parsed
  obtain ⟨hashed, parsed⟩ := refuse_bind_eq_ok.mp parsed
  obtain ⟨document, decoded, parsed⟩ := bind_eq_ok.mp parsed
  obtain ⟨version, parsed⟩ := refuse_bind_eq_ok.mp parsed
  obtain ⟨counted, parsed⟩ := refuse_bind_eq_ok.mp parsed
  obtain ⟨assets, collected, parsed⟩ := bind_eq_ok.mp parsed
  obtain ⟨⟨⟩, presets, parsed⟩ := bind_eq_ok.mp parsed
  obtain ⟨positions, placed, done⟩ := bind_eq_ok.mp parsed
  cases pure_eq_ok.mp done
  rw [not_or, Nat.not_lt] at counted
  refine ⟨value, document, assets.2, read, not_not.mp hashed, mapError_eq_ok.mp decoded,
    not_not.mp version, counted, collected, fun presetAsset listed => ?_, placed⟩
  exact not_not.mp (forEach_refuse_eq_ok.mp presets presetAsset listed)

end Parsing

/-! ### Lookups and credits -/

def ExitProgramV4.asset (program : ExitProgramV4) (assetId : U8) : Except Message ExitAssetV4 :=
  orRefuse (program.assets.find? fun asset => asset.assetId == assetId)
    [.text "asset ", .decimal assetId.toNat, .text " is not declared by the exit program"]

/-- Credit one deposit to its recipient. -/
def ExitProgramV4.credit (keccak256 : Bytes → B256) (program : ExitProgramV4) (state : StateMap)
    (assetId : U8) (recipient : Address) (amount : U256) : Except Message StateMap := do
  refuse (amount = 0) "inbox deposit amount must be positive"
  let asset ← program.asset assetId
  match asset.kind with
  | .native => do
    refuse (state.declaresAccount recipient = false)
      [.text "inbox recipient ", .address recipient,
        .text " is outside the complete compact-state envelope"]
    let account := state.accounts.getD recipient default
    let balance ← addU256 account.balance amount "native inbox credit"
    pure { state with
      accounts := state.accounts.insert recipient { account with balance := balance } }
  | .erc20 token balanceSlot totalSupplySlot => do
    let recipientSlot := mappingSlot keccak256 recipient balanceSlot
    let current ← readStorage state token recipientSlot "ERC-20 inbox balance"
    let balance ← addU256 current amount "ERC-20 inbox balance"
    let credited ← writeStorage state token recipientSlot balance "ERC-20 inbox balance"
    let supply ← readStorage credited token totalSupplySlot "ERC-20 totalSupply"
    let raised ← addU256 supply amount "ERC-20 totalSupply"
    writeStorage credited token totalSupplySlot raised "ERC-20 totalSupply"

end Zkdeal

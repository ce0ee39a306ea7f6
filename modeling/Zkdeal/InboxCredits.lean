/-
This file is about the credits of an inbox segment of a seven-member room, before it
is asked which entries they come from.

A credit raises the native balance of its recipient, or the balance slot of the
recipient and the supply slot of the token. Credits one after the other raise every
slot by the sum of what each of them adds to it. As long as the slots are all
different, these sums are those of the assets.
-/

import Zkdeal.DepositCredits
import Zkdeal.ExitClaims

namespace Zkdeal

open Words Guard Maps

/-! ### Credits -/

/-- One deposit that is credited to an account. -/
structure InboxCredit where
  assetId : U8
  recipient : Address
  amount : U256
deriving DecidableEq

/-- The only native asset has the identifier zero. -/
theorem parseAssetKind_native {json : JsonLibrary} {policy : PresetPolicyV4} {index : Nat}
    {asset : ExitAssetJsonV4} (parsed : parseAssetKind json policy index asset = .ok .native) :
    asset.assetId = 0 := by
  unfold parseAssetKind at parsed
  dsimp only at parsed
  split_ifs at parsed
  · obtain ⟨formed, -⟩ := refuse_bind_eq_ok.mp parsed
    exact not_not.mp fun other => formed (.inl other)
  · obtain ⟨tokenText, -, parsed⟩ := bind_eq_ok.mp parsed
    obtain ⟨token, -, parsed⟩ := bind_eq_ok.mp parsed
    obtain ⟨balanceText, -, parsed⟩ := bind_eq_ok.mp parsed
    obtain ⟨balanceSlot, -, parsed⟩ := bind_eq_ok.mp parsed
    obtain ⟨supplyText, -, parsed⟩ := bind_eq_ok.mp parsed
    obtain ⟨supplySlot, -, parsed⟩ := bind_eq_ok.mp parsed
    obtain ⟨-, parsed⟩ := refuse_bind_eq_ok.mp parsed
    cases pure_eq_ok.mp parsed

section Credits

variable (keccak256 : Bytes → B256) (program : ExitProgramV4)

def applyCredit (state : StateMap) (credit : InboxCredit) : Except Message StateMap :=
  program.credit keccak256 state credit.assetId credit.recipient credit.amount

/-- What a credit adds to the native balance of an account. -/
def nativeRise (account : Address) (credit : InboxCredit) : Nat :=
  match program.kind? credit.assetId with
  | some .native => if credit.recipient = account then credit.amount.toNat else 0
  | _ => 0

/-- The storage slot of an account's balance of a token. -/
def balanceCell? (assetId : U8) (account : Address) : Option (Address × U256) :=
  match program.kind? assetId with
  | some (.erc20 token balanceSlot _) => some (token, mappingSlot keccak256 account balanceSlot)
  | _ => none

/-- The storage slot of the supply of a token. -/
def supplyCell? (assetId : U8) : Option (Address × U256) :=
  match program.kind? assetId with
  | some (.erc20 token _ totalSupplySlot) => some (token, totalSupplySlot)
  | _ => none

/-- What a credit adds to a storage slot: the balance slot of the recipient rises, and the supply
slot of the token with it. -/
def storageRise (contract : Address) (slot : U256) (credit : InboxCredit) : Nat :=
  (if balanceCell? keccak256 program credit.assetId credit.recipient = some (contract, slot) then
      credit.amount.toNat else 0) +
    if supplyCell? program credit.assetId = some (contract, slot) then credit.amount.toNat else 0

/-- What some credits do to a state. -/
structure RaisedBy (credits : List InboxCredit) (before after : StateMap) : Prop where
  native : ∀ account, (after.nativeBalance account).toNat =
    (before.nativeBalance account).toNat + (credits.map (nativeRise program account)).sum
  storage : ∀ contract slot, (after.storageAt contract slot).toNat =
    (before.storageAt contract slot).toNat +
      (credits.map (storageRise keccak256 program contract slot)).sum
  identities : before.SameIdentities after

variable {keccak256 program}

/-- Replacing one record leaves the balance of every other account alone. -/
theorem StateMap.nativeBalance_insert (state : StateMap) (address account : Address)
    (record : AccountRecord) :
    StateMap.nativeBalance { state with accounts := state.accounts.insert address record }
        account =
      if address = account then record.balance else state.nativeBalance account := by
  unfold StateMap.nativeBalance
  rw [Std.ExtTreeMap.getD_eq_getD_getElem?, Std.ExtTreeMap.getD_eq_getD_getElem?,
    getElem?_insert_eq]
  split
  case isTrue => rfl
  case isFalse => rfl

theorem writeStorage_nativeBalance {state after : StateMap} {address : Address}
    {slot value : U256} {label : String}
    (written : writeStorage state address slot value label = .ok after) (account : Address) :
    after.nativeBalance account = state.nativeBalance account := by
  obtain ⟨-, written⟩ := refuse_bind_eq_ok.mp written
  obtain ⟨record, present, written⟩ := bind_eq_ok.mp written
  have stored := orRefuse_eq_ok.mp present
  rw [← pure_eq_ok.mp written, StateMap.nativeBalance_insert]
  split
  case isTrue same =>
    rw [StateMap.nativeBalance, ← same, Std.ExtTreeMap.getD_eq_getD_getElem?, stored]
    rfl
  case isFalse => rfl

theorem writeStorage_storageAt {state after : StateMap} {address : Address}
    {slot value : U256} {label : String}
    (written : writeStorage state address slot value label = .ok after) (contract : Address)
    (other : U256) :
    after.storageAt contract other =
      if address = contract ∧ slot = other then value else state.storageAt contract other := by
  obtain ⟨-, written⟩ := refuse_bind_eq_ok.mp written
  obtain ⟨record, present, written⟩ := bind_eq_ok.mp written
  have stored := orRefuse_eq_ok.mp present
  rw [← pure_eq_ok.mp written, StateMap.storageAt_insert, AccountRecord.slot_writeSlot]
  by_cases same : address = contract
  · have before : state.storageAt contract other = record.slot other := by
      rw [StateMap.storageAt, ← same, stored]
    rw [if_pos same, before]
    simp only [same, true_and]
  · rw [if_neg same, if_neg fun both => same both.1]

theorem writeStorage_identities {state after : StateMap} {address : Address}
    {slot value : U256} {label : String}
    (written : writeStorage state address slot value label = .ok after) :
    state.SameIdentities after := by
  obtain ⟨-, written⟩ := refuse_bind_eq_ok.mp written
  obtain ⟨record, present, written⟩ := bind_eq_ok.mp written
  have stored : state.accounts.getD address default = record := by
    rw [Std.ExtTreeMap.getD_eq_getD_getElem?, orRefuse_eq_ok.mp present]
    rfl
  rw [← pure_eq_ok.mp written]
  exact StateMap.sameIdentities_insert (by rw [stored]) (by rw [stored])

/-- A write of a checked sum raises one slot by what was added. -/
theorem raise_storageAt {state after : StateMap} {address : Address} {slot current sum : U256}
    {amount : U256} {label readLabel sumLabel : String}
    (read : readStorage state address slot readLabel = .ok current)
    (added : addU256 current amount sumLabel = .ok sum)
    (written : writeStorage state address slot sum label = .ok after) (contract : Address)
    (other : U256) :
    (after.storageAt contract other).toNat = (state.storageAt contract other).toNat +
      if address = contract ∧ slot = other then amount.toNat else 0 := by
  obtain ⟨-, value⟩ := refuse_bind_eq_ok.mp read
  have total := checkedAdd_eq_some.mp (orRefuse_eq_ok.mp added)
  rw [writeStorage_storageAt written contract other]
  split
  case isTrue same =>
    rw [← total, ← pure_eq_ok.mp value, same.1, same.2]
  case isFalse => rw [Nat.add_zero]

/-- A single credit. -/
theorem applyCredit_raisedBy {before after : StateMap} {credit : InboxCredit}
    (ran : applyCredit keccak256 program before credit = .ok after) :
    RaisedBy keccak256 program [credit] before after := by
  obtain ⟨-, ran⟩ := refuse_bind_eq_ok.mp ran
  obtain ⟨⟨assetId, kind⟩, found, ran⟩ := bind_eq_ok.mp ran
  have known := asset_eq_ok found
  dsimp only at known ran
  cases kind with
  | native =>
    obtain ⟨-, ran⟩ := refuse_bind_eq_ok.mp ran
    obtain ⟨balance, added, ran⟩ := bind_eq_ok.mp ran
    have total := checkedAdd_eq_some.mp (orRefuse_eq_ok.mp added)
    rw [← pure_eq_ok.mp ran]
    refine ⟨fun account => ?_, fun contract slot => ?_, StateMap.sameIdentities_insert rfl rfl⟩
    · rw [List.map_singleton, List.sum_singleton, nativeRise, known,
        StateMap.nativeBalance_insert]
      dsimp only
      by_cases same : credit.recipient = account
      · rw [if_pos same, if_pos same, ← total, ← same, StateMap.nativeBalance]
      · rw [if_neg same, if_neg same, Nat.add_zero]
    · rw [List.map_singleton, List.sum_singleton, storageRise, balanceCell?, supplyCell?, known,
        StateMap.storageAt_insert]
      simp only [reduceCtorEq, if_false, Nat.add_zero]
      split
      case isTrue same =>
        rw [← same, StateMap.storageAt_eq_getD]
        rfl
      case isFalse => rfl
  | erc20 token balanceSlot totalSupplySlot =>
    obtain ⟨current, read, ran⟩ := bind_eq_ok.mp ran
    obtain ⟨balance, added, ran⟩ := bind_eq_ok.mp ran
    obtain ⟨middle, written, ran⟩ := bind_eq_ok.mp ran
    obtain ⟨supply, readSupply, ran⟩ := bind_eq_ok.mp ran
    obtain ⟨raised, addedSupply, ran⟩ := bind_eq_ok.mp ran
    refine ⟨fun account => ?_, fun contract slot => ?_,
      (writeStorage_identities written).trans (writeStorage_identities ran)⟩
    · rw [List.map_singleton, List.sum_singleton, nativeRise, known, Nat.add_zero,
        writeStorage_nativeBalance ran, writeStorage_nativeBalance written]
    · rw [List.map_singleton, List.sum_singleton, storageRise, balanceCell?, supplyCell?, known,
        raise_storageAt readSupply addedSupply ran, raise_storageAt read added written,
        Nat.add_assoc]
      simp only [Option.some.injEq, Prod.mk.injEq]

/-- Credits, one after the other. -/
theorem applyCredits_raisedBy {credits : List InboxCredit} {before after : StateMap}
    (ran : credits.foldlM (applyCredit keccak256 program) before = .ok after) :
    RaisedBy keccak256 program credits before after := by
  induction credits generalizing before with
  | nil =>
    rw [foldlM_nil_eq_ok] at ran
    rw [ran]
    exact ⟨fun _ => rfl, fun _ _ => rfl, .refl _⟩
  | cons credit rest inductionHypothesis =>
    obtain ⟨next, stepped, remaining⟩ := foldlM_cons_eq_ok.mp ran
    have step := applyCredit_raisedBy stepped
    have tail := inductionHypothesis remaining
    refine ⟨fun account => ?_, fun contract slot => ?_, step.identities.trans tail.identities⟩
    · rw [tail.native, step.native, List.map_singleton, List.sum_singleton, List.map_cons,
        List.sum_cons, Nat.add_assoc]
    · rw [tail.storage, step.storage, List.map_singleton, List.sum_singleton, List.map_cons,
        List.sum_cons, Nat.add_assoc]

/-! ### Totals of one asset -/

/-- The amounts of an asset that go to an account. -/
def accountTotal (assetId : U8) (account : Address) (credits : List InboxCredit) : Nat :=
  (credits.map fun credit =>
    if credit.assetId = assetId ∧ credit.recipient = account then credit.amount.toNat else 0).sum

/-- The amounts of an asset. -/
def assetTotal (assetId : U8) (credits : List InboxCredit) : Nat :=
  (credits.map fun credit => if credit.assetId = assetId then credit.amount.toNat else 0).sum

/-- The accounts an asset goes to. -/
def recipients (assetId : U8) (credits : List InboxCredit) : Finset Address :=
  ((credits.filter fun credit => credit.assetId == assetId).map InboxCredit.recipient).toFinset

theorem sum_accountTotal {assetId : U8} {credits : List InboxCredit} {accounts : Finset Address}
    (all : ∀ credit ∈ credits, credit.assetId = assetId → credit.recipient ∈ accounts) :
    ∑ account ∈ accounts, accountTotal assetId account credits = assetTotal assetId credits := by
  unfold accountTotal assetTotal
  induction credits with
  | nil => simp
  | cons credit rest inductionHypothesis =>
    obtain ⟨own, others⟩ := List.forall_mem_cons.mp all
    simp only [List.map_cons, List.sum_cons]
    rw [Finset.sum_add_distrib, inductionHypothesis others]
    congr 1
    split
    case isTrue named =>
      simp only [named, true_and]
      rw [Finset.sum_ite_eq, if_pos (own named)]
    case isFalse other =>
      simp only [other, false_and, if_false, Finset.sum_const_zero]

theorem sum_accountTotal_recipients (assetId : U8) (credits : List InboxCredit) :
    ∑ account ∈ recipients assetId credits, accountTotal assetId account credits =
      assetTotal assetId credits := by
  refine sum_accountTotal fun credit member named => List.mem_toFinset.mpr ?_
  exact List.mem_map_of_mem (List.mem_filter.mpr ⟨member, by rw [named, beq_self_eq_true]⟩)

variable (keccak256 program)

/-- The balance slots that are touched and the supply slots are all different. -/
structure CellsApart (credits : List InboxCredit) : Prop where
  balances : ∀ first ∈ credits, ∀ second ∈ credits, ∀ cell,
    balanceCell? keccak256 program first.assetId first.recipient = some cell →
      balanceCell? keccak256 program second.assetId second.recipient = some cell →
        first.assetId = second.assetId ∧ first.recipient = second.recipient
  supplies : ∀ first second cell, supplyCell? program first = some cell →
    supplyCell? program second = some cell → first = second
  mixed : ∀ credit ∈ credits, ∀ assetId cell,
    balanceCell? keccak256 program credit.assetId credit.recipient = some cell →
      supplyCell? program assetId ≠ some cell

variable {keccak256 program}

/-- The supply slot of an asset rises by all of its amounts. -/
theorem sum_storageRise_supply {credits : List InboxCredit}
    (apart : CellsApart keccak256 program credits) {assetId : U8} {contract : Address}
    {slot : U256} (cell : supplyCell? program assetId = some (contract, slot)) :
    (credits.map (storageRise keccak256 program contract slot)).sum =
      assetTotal assetId credits := by
  refine congrArg List.sum (List.map_congr_left fun credit member => ?_)
  have balance : ¬ balanceCell? keccak256 program credit.assetId credit.recipient =
      some (contract, slot) := fun touched => apart.mixed credit member assetId _ touched cell
  have supply : supplyCell? program credit.assetId = some (contract, slot) ↔
      credit.assetId = assetId :=
    ⟨fun same => apart.supplies _ _ _ same cell, fun same => same ▸ cell⟩
  rw [storageRise, if_neg balance, Nat.zero_add]
  exact if_congr supply rfl rfl

/-- The balance slot of an account an asset goes to rises by the amounts that go there. -/
theorem sum_storageRise_balance {credits : List InboxCredit}
    (apart : CellsApart keccak256 program credits) {assetId : U8} {account contract : Address}
    {slot : U256} (goes : account ∈ recipients assetId credits)
    (cell : balanceCell? keccak256 program assetId account = some (contract, slot)) :
    (credits.map (storageRise keccak256 program contract slot)).sum =
      accountTotal assetId account credits := by
  obtain ⟨touching, listed, named⟩ := List.mem_map.mp (List.mem_toFinset.mp goes)
  obtain ⟨touchingMember, asset⟩ := List.mem_filter.mp listed
  rw [beq_iff_eq] at asset
  rw [← asset, ← named] at cell
  refine congrArg List.sum (List.map_congr_left fun credit member => ?_)
  have supply : ¬ supplyCell? program credit.assetId = some (contract, slot) :=
    apart.mixed touching touchingMember credit.assetId _ cell
  have balance : balanceCell? keccak256 program credit.assetId credit.recipient =
      some (contract, slot) ↔ credit.assetId = assetId ∧ credit.recipient = account := by
    rw [← asset, ← named]
    refine ⟨fun same => apart.balances _ member _ touchingMember _ same cell, fun same => ?_⟩
    rw [same.1, same.2]
    exact cell
  rw [storageRise, if_neg supply, Nat.add_zero]
  exact if_congr balance rfl rfl

variable (program) in
/-- At most one asset is native. -/
def OneNative : Prop :=
  ∀ first second, program.kind? first = some .native → program.kind? second = some .native →
    first = second

/-- The parser only accepts asset zero as native. -/
theorem oneNative_of_parse {json : JsonLibrary} {canonicalJson : Bytes}
    {policy : PresetPolicyV4}
    (parsed : ExitProgramV4.parse json keccak256 canonicalJson policy = .ok program) :
    OneNative program := by
  obtain ⟨value, document, last, -, -, -, -, -, collected, -, -⟩ :=
    ExitProgramV4.parse_eq_ok parsed
  have zero : ∀ asset ∈ program.assets, asset.kind = .native → asset.assetId = 0 := by
    refine foldlM_preserves
      (fun entered : List ExitAssetV4 × Option U8 =>
        ∀ asset ∈ entered.1, asset.kind = .native → asset.assetId = 0)
      collected (fun asset member => absurd member List.not_mem_nil) ?_
    intro item _ before after earlier stepped asset member native
    obtain ⟨-, stepped⟩ := refuse_bind_eq_ok.mp stepped
    obtain ⟨kind, read, stepped⟩ := bind_eq_ok.mp stepped
    cases pure_eq_ok.mp stepped
    rcases List.mem_append.mp member with member | member
    · exact earlier asset member native
    · cases List.mem_singleton.mp member
      exact parseAssetKind_native (read.trans (congrArg _ native))
  have named : ∀ assetId, program.kind? assetId = some .native → assetId = 0 := by
    intro assetId known
    obtain ⟨asset, found, native⟩ := Option.map_eq_some_iff.mp known
    have same := List.find?_some found
    rw [beq_iff_eq] at same
    rw [← same]
    exact zero asset (List.mem_of_find?_eq_some found) native
  exact fun first second one other => (named first one).trans (named second other).symm

/-- The native balance of an account rises by the amounts of the one native asset. -/
theorem sum_nativeRise {credits : List InboxCredit} {assetId : U8}
    (native : program.kind? assetId = some .native) (only : OneNative program)
    (account : Address) :
    (credits.map (nativeRise program account)).sum = accountTotal assetId account credits := by
  refine congrArg List.sum (List.map_congr_left fun credit _ => ?_)
  unfold nativeRise
  by_cases same : credit.assetId = assetId
  · rw [same, native]
    simp only [true_and]
  · split
    case h_1 kind => exact absurd (only _ _ kind native) same
    case h_2 => rw [if_neg fun both => same both.1]

variable (program) in
/-- The credits of the native asset, as they show in the balances. -/
def NativeRaised (credits : List InboxCredit) (before after : StateMap) : Prop :=
  ∀ assetId, program.kind? assetId = some .native →
    (∀ account, (after.nativeBalance account).toNat =
      (before.nativeBalance account).toNat + accountTotal assetId account credits) ∧
    ∑ account ∈ recipients assetId credits, (after.nativeBalance account).toNat =
      ∑ account ∈ recipients assetId credits, (before.nativeBalance account).toNat +
        assetTotal assetId credits

variable (keccak256 program) in
/-- The credits of each asset, as they show in the state. -/
structure AssetsRaised (credits : List InboxCredit) (before after : StateMap) : Prop where
  native : OneNative program → NativeRaised program credits before after
  token : CellsApart keccak256 program credits → ∀ assetId token balanceSlot totalSupplySlot,
    program.kind? assetId = some (.erc20 token balanceSlot totalSupplySlot) →
    (∀ account ∈ recipients assetId credits,
      (after.storageAt token (mappingSlot keccak256 account balanceSlot)).toNat =
        (before.storageAt token (mappingSlot keccak256 account balanceSlot)).toNat +
          accountTotal assetId account credits) ∧
    (∑ account ∈ recipients assetId credits,
        (after.storageAt token (mappingSlot keccak256 account balanceSlot)).toNat =
      ∑ account ∈ recipients assetId credits,
        (before.storageAt token (mappingSlot keccak256 account balanceSlot)).toNat +
          assetTotal assetId credits) ∧
    (after.storageAt token totalSupplySlot).toNat =
      (before.storageAt token totalSupplySlot).toNat + assetTotal assetId credits

/-- Balances that each rise by what goes to their account rise together by the total. -/
theorem sum_recipients_eq {credits : List InboxCredit} {assetId : U8}
    {before after : Address → Nat} (each : ∀ account ∈ recipients assetId credits,
      after account = before account + accountTotal assetId account credits) :
    ∑ account ∈ recipients assetId credits, after account =
      ∑ account ∈ recipients assetId credits, before account + assetTotal assetId credits := by
  rw [Finset.sum_congr rfl each, Finset.sum_add_distrib, sum_accountTotal_recipients]

theorem RaisedBy.assetsRaised {credits : List InboxCredit} {before after : StateMap}
    (raised : RaisedBy keccak256 program credits before after) :
    AssetsRaised keccak256 program credits before after := by
  refine ⟨fun only assetId native => ?_, fun apart assetId token balanceSlot totalSupplySlot kind
    => ?_⟩
  · have each : ∀ account, (after.nativeBalance account).toNat =
        (before.nativeBalance account).toNat + accountTotal assetId account credits := by
      intro account
      rw [raised.native, sum_nativeRise native only]
    exact ⟨each, sum_recipients_eq fun account _ => each account⟩
  · have supply : supplyCell? program assetId = some (token, totalSupplySlot) := by
      rw [supplyCell?, kind]
    have each : ∀ account ∈ recipients assetId credits,
        (after.storageAt token (mappingSlot keccak256 account balanceSlot)).toNat =
          (before.storageAt token (mappingSlot keccak256 account balanceSlot)).toNat +
            accountTotal assetId account credits := by
      intro account goes
      have balance : balanceCell? keccak256 program assetId account =
          some (token, mappingSlot keccak256 account balanceSlot) := by
        rw [balanceCell?, kind]
      rw [raised.storage, sum_storageRise_balance apart goes balance]
    refine ⟨each, sum_recipients_eq each, ?_⟩
    rw [raised.storage, sum_storageRise_supply apart supply]

end Credits

end Zkdeal

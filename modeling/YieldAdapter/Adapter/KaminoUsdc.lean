import YieldAdapter.Adapter.Common

/-!
# The Kamino adapter

USDC in a klend reserve. The position owns a collateral token account; shares
are the collateral tokens a deposit brings in, and the value is read from the
reserve after refreshing it. The klend program is pinned as the reserve's owner.
-/

set_option autoImplicit false

namespace YieldAdapter.KaminoUsdc

open Solana

/-! ### klend calls -/

def klendRefreshReserve : Bytes := [2, 218, 138, 235, 79, 201, 25, 102]

def klendDepositReserveLiquidity : Bytes := [169, 201, 30, 126, 6, 205, 102, 68]

def klendRedeemReserveCollateral : Bytes := [234, 117, 181, 125, 185, 142, 220, 29]

/-- `last_update.slot : u64` of a reserve. -/
def offLastUpdateSlot : Nat := 16

/-- `liquidity.total_available_amount : u64`. -/
def offTotalAvailable : Nat := 224

/-- `liquidity.borrowed_amount_sf : u128`, scaled by 2^60. -/
def offBorrowedSf : Nat := 232

/-- `collateral.mint_total_supply : u64`. -/
def offCollateralSupply : Nat := 2592

def sfShift : Nat := 60

def readU64 (data : Bytes) (off : Nat) : Except Error Nat := readField 8 data off

def readU128 (data : Bytes) (off : Nat) : Except Error Nat := readField 16 data off

/-- The slot a reserve was last refreshed at. -/
def reserveLastUpdateSlot (reserveData : Bytes) : Except Error UInt64 := do
  let slot ← readU64 reserveData offLastUpdateSlot
  pure (UInt64.ofNat slot)

/-- `shares × total_liquidity / collateral_supply` on a refreshed reserve. -/
def collateralValueUsdc (reserveData : Bytes) (shares : UInt64) : Except Error UInt64 := do
  let available ← readU64 reserveData offTotalAvailable
  let borrowedSf ← readU128 reserveData offBorrowedSf
  let borrowed := borrowedSf >>> sfShift
  let collateralSupply ← readU64 reserveData offCollateralSupply
  -- all three fields are read before the shares are looked at
  if shares = 0 then
    pure 0
  else do
    check (collateralSupply ≠ 0) AdapterError.mathOverflow
    -- `available.checked_add(borrowed)` on `u128`
    check (available + borrowed < 2 ^ 128) AdapterError.mathOverflow
    mulDivU64 shares.toNat (available + borrowed) collateralSupply

/-- The accounts forwarded to klend. -/
structure KlendAccounts where
  klendProgram : AccountInfo
  owner : AccountInfo
  reserve : AccountInfo
  lendingMarket : AccountInfo
  lendingMarketAuthority : AccountInfo
  reserveLiquidityMint : AccountInfo
  reserveLiquiditySupply : AccountInfo
  reserveCollateralMint : AccountInfo
  userLiquidity : AccountInfo
  userCollateral : AccountInfo
  collateralTokenProgram : AccountInfo
  liquidityTokenProgram : AccountInfo
  instructionSysvar : AccountInfo
  scopePrices : AccountInfo

section Calls

variable (curve : Curve) (exec : Callee ProgramState Event) (ctx : Context)

/-- `refresh_reserve`; the klend program stands in for the absent oracles. -/
def refreshReserve (klendProgram reserve lendingMarket scopePrices : AccountInfo) :
    Exec Chain Unit :=
  invoke curve exec ctx
    { programId := klendProgram.key
      accounts := [
        .new reserve.key false,
        .newReadonly lendingMarket.key false,
        -- pyth, switchboard price and switchboard twap are absent
        .newReadonly klendProgram.key false,
        .newReadonly klendProgram.key false,
        .newReadonly klendProgram.key false,
        .newReadonly scopePrices.key false]
      data := .bytes klendRefreshReserve }
    AdapterError.cpiFailed

/-- `deposit_reserve_liquidity`: USDC in, collateral tokens out. -/
def depositReserveLiquidity (a : KlendAccounts) (liquidityAmount : UInt64) : Exec Chain Unit :=
  invoke curve exec ctx
    { programId := a.klendProgram.key
      accounts := [
        .newReadonly a.owner.key true,
        .new a.reserve.key false,
        .newReadonly a.lendingMarket.key false,
        .newReadonly a.lendingMarketAuthority.key false,
        .newReadonly a.reserveLiquidityMint.key false,
        .new a.reserveLiquiditySupply.key false,
        .new a.reserveCollateralMint.key false,
        .new a.userLiquidity.key false,
        .new a.userCollateral.key false,
        .newReadonly a.collateralTokenProgram.key false,
        .newReadonly a.liquidityTokenProgram.key false,
        .newReadonly a.instructionSysvar.key false]
      data := .bytes (klendDepositReserveLiquidity ++ leBytes64 liquidityAmount) }
    AdapterError.cpiFailed

/-- `redeem_reserve_collateral`: collateral tokens in, USDC out. -/
def redeemReserveCollateral (a : KlendAccounts) (collateralAmount : UInt64) : Exec Chain Unit :=
  invoke curve exec ctx
    { programId := a.klendProgram.key
      accounts := [
        .newReadonly a.owner.key true,
        .newReadonly a.lendingMarket.key false,
        .new a.reserve.key false,
        .newReadonly a.lendingMarketAuthority.key false,
        .newReadonly a.reserveLiquidityMint.key false,
        .new a.reserveCollateralMint.key false,
        .new a.reserveLiquiditySupply.key false,
        .new a.userCollateral.key false,
        .new a.userLiquidity.key false,
        .newReadonly a.collateralTokenProgram.key false,
        .newReadonly a.liquidityTokenProgram.key false,
        .newReadonly a.instructionSysvar.key false]
      data := .bytes (klendRedeemReserveCollateral ++ leBytes64 collateralAmount) }
    AdapterError.cpiFailed

end Calls

/-! ### Accounts -/

/-- The accounts of `adapter_deposit`, and of `adapter_withdraw`, whose layout is the same. -/
structure AdapterDeposit extends FundPrefix AdapterState where
  reserve : AccountInfo
  lendingMarket : AccountInfo
  lendingMarketAuthority : AccountInfo
  reserveLiquidityMint : AccountInfo
  reserveLiquiditySupply : AccountInfo
  reserveCollateralMint : AccountInfo
  collateralVault : Loaded TokenAccount
  collateralTokenProgram : AccountInfo
  liquidityTokenProgram : AccountInfo
  scopePrices : AccountInfo
  klendProgram : AccountInfo

abbrev AdapterWithdraw := AdapterDeposit

structure AdapterCurrentValue extends ValuePrefix AdapterState where
  reserve : AccountInfo
  lendingMarket : AccountInfo
  scopePrices : AccountInfo
  klendProgram : AccountInfo

structure AdapterInitialize extends InitPrefix where
  reserve : AccountInfo
  reserveCollateralMint : Loaded Mint
  collateralVault : AccountInfo

section Programs

variable (curve : Curve) (exec : Callee ProgramState Event) (ctx : Context)

/-- `constraint = reserve.owner == klend_program.key`, and `executable`. -/
def checkKlendProgram (w : Chain) (reserve klendProgram : AccountInfo) : Except Error Unit := do
  check (w.ownedBy klendProgram.key reserve.key = true) AdapterError.unauthorized
  checkExecutable w klendProgram

def AdapterDeposit.tryAccounts (w : Chain) : Except Error AdapterDeposit := do
  match ctx.accounts with
  | instructionsSysvar :: position :: positionUsdcPool :: adapterState :: reserve ::
      lendingMarket :: lendingMarketAuthority :: reserveLiquidityMint ::
      reserveLiquiditySupply :: reserveCollateralMint :: collateralVault ::
      collateralTokenProgram :: liquidityTokenProgram :: scopePrices :: klendProgram :: _ =>
    let slots ← FundPrefix.load w instructionsSysvar position positionUsdcPool adapterState
    let collateralVault ← loadToken w collateralVault
    -- all accounts are loaded before the first constraint is checked
    slots.constraints curve ctx
    checkMut reserve
    checkAddress slots.adapterState.data.kaminoReserve reserve AdapterError.unauthorized
    checkMut reserveLiquiditySupply
    checkMut reserveCollateralMint
    checkMut collateralVault.info
    checkAddress slots.adapterState.data.collateralVault collateralVault.info
      AdapterError.unauthorized
    checkKlendProgram w reserve klendProgram
    pure { toFundPrefix := slots, reserve, lendingMarket, lendingMarketAuthority,
           reserveLiquidityMint, reserveLiquiditySupply, reserveCollateralMint, collateralVault,
           collateralTokenProgram, liquidityTokenProgram, scopePrices, klendProgram }
  | _ => throw (.anchor .accountNotEnoughKeys)

def AdapterCurrentValue.tryAccounts (w : Chain) : Except Error AdapterCurrentValue := do
  match ctx.accounts with
  | instructionsSysvar :: position :: adapterState :: reserve :: lendingMarket :: scopePrices ::
      klendProgram :: _ =>
    let slots ← ValuePrefix.load w instructionsSysvar position adapterState
    slots.constraints curve ctx
    checkMut reserve
    checkAddress slots.adapterState.data.kaminoReserve reserve AdapterError.unauthorized
    checkKlendProgram w reserve klendProgram
    pure { toValuePrefix := slots, reserve, lendingMarket, scopePrices, klendProgram }
  | _ => throw (.anchor .accountNotEnoughKeys)

def AdapterInitialize.tryAccounts : Exec Chain AdapterInitialize := do
  match ctx.accounts with
  | instructionsSysvar :: position :: adapterState :: rentPayer :: systemProgram :: reserve ::
      reserveCollateralMint :: collateralVault :: tokenProgram :: associatedTokenProgram :: _ =>
    let w ← Exec.read
    Exec.ofExcept (checkSigner rentPayer)
    Exec.ofExcept (checkProgram w systemProgramId systemProgram)
    let reserveCollateralMint ← Exec.ofExcept (loadMint w reserveCollateralMint)
    Exec.ofExcept (checkProgram w tokenProgramId tokenProgram)
    Exec.ofExcept (checkProgram w associatedTokenProgramId associatedTokenProgram)
    -- `init` of the two accounts comes before the remaining constraints
    let slots ← InitPrefix.create curve ctx programId instructionsSysvar position adapterState
      rentPayer systemProgram
    initAssociatedToken curve ctx rentPayer position reserveCollateralMint.info collateralVault
    Exec.ofExcept slots.constraints
    pure { toInitPrefix := slots, reserve, reserveCollateralMint, collateralVault }
  | _ => Exec.fail (.anchor .accountNotEnoughKeys)

/-- The bundle both fund-moving handlers forward to klend. -/
def AdapterDeposit.klend (accounts : AdapterDeposit) : KlendAccounts where
  klendProgram := accounts.klendProgram
  owner := accounts.position
  reserve := accounts.reserve
  lendingMarket := accounts.lendingMarket
  lendingMarketAuthority := accounts.lendingMarketAuthority
  reserveLiquidityMint := accounts.reserveLiquidityMint
  reserveLiquiditySupply := accounts.reserveLiquiditySupply
  reserveCollateralMint := accounts.reserveCollateralMint
  userLiquidity := accounts.positionUsdcPool.info
  userCollateral := accounts.collateralVault.info
  collateralTokenProgram := accounts.collateralTokenProgram
  liquidityTokenProgram := accounts.liquidityTokenProgram
  instructionSysvar := accounts.instructionsSysvar
  scopePrices := accounts.scopePrices

/-! ### Handlers -/

def adapterInitialize (adapterData : Bytes) : Exec Chain Unit := do
  let accounts ← AdapterInitialize.tryAccounts curve ctx
  initializeWith ctx accounts.toInitPrefix adapterData (pure ()) fun header =>
    ({ header
       kaminoReserve := accounts.reserve.key
       collateralVault := accounts.collateralVault.key
       bump := accounts.bump } : AdapterState)

/-- Refresh, deposit, and measure what the collateral vault gained since it was loaded. -/
def mintShares (accounts : AdapterDeposit) (amount : UInt64) : Exec Chain UInt64 := do
  refreshReserve curve exec ctx accounts.klendProgram accounts.reserve accounts.lendingMarket
    accounts.scopePrices
  depositReserveLiquidity curve exec ctx accounts.klend amount
  measureToken accounts.collateralVault.info accounts.collateralVault.data.amount

def adapterDeposit (amount : UInt64) (adapterData : Bytes) : Exec Chain Unit := do
  let w ← Exec.read
  let accounts ← Exec.ofExcept (AdapterDeposit.tryAccounts curve ctx w)
  depositWith ctx accounts.toFundPrefix amount adapterData
    (mintShares curve exec ctx accounts amount)

/-- Refresh, redeem, and measure what the USDC pool gained since it was loaded. -/
def redeemShares (accounts : AdapterWithdraw) (shares : UInt64) : Exec Chain UInt64 := do
  refreshReserve curve exec ctx accounts.klendProgram accounts.reserve accounts.lendingMarket
    accounts.scopePrices
  redeemReserveCollateral curve exec ctx accounts.klend shares
  measureToken accounts.positionUsdcPool.info accounts.positionUsdcPool.data.amount

def adapterWithdraw (shares : UInt64) (adapterData : Bytes) : Exec Chain Unit := do
  let w ← Exec.read
  let accounts ← Exec.ofExcept (AdapterDeposit.tryAccounts curve ctx w)
  Exec.ofExcept (withdrawGuards ctx accounts.toFundPrefix shares adapterData)
  withdrawWith ctx accounts.toFundPrefix shares
    (checkedSub accounts.adapterState.data.header.totalShares shares)
    (redeemShares curve exec ctx accounts shares)

variable (layout : Layout ProgramState)

/-- Value the tracked shares on the refreshed reserve, as of the older of the
clock's and the reserve's slot. -/
def priceShares (accounts : AdapterCurrentValue) : Exec Chain (UInt64 × UInt64) := do
  refreshReserve curve exec ctx accounts.klendProgram accounts.reserve accounts.lendingMarket
    accounts.scopePrices
  let w ← Exec.read
  let data := w.bytes layout accounts.reserve.key
  let value ← Exec.ofExcept
    (collateralValueUsdc data accounts.adapterState.data.header.totalShares)
  let reserveSlot ← Exec.ofExcept (reserveLastUpdateSlot data)
  pure (value, min w.clock.slot reserveSlot)

def adapterCurrentValue (adapterData : Bytes) : Exec Chain Unit := do
  let w ← Exec.read
  let accounts ← Exec.ofExcept (AdapterCurrentValue.tryAccounts curve ctx w)
  reportValueWith ctx accounts.toValuePrefix adapterData
    (priceShares curve exec ctx layout accounts)

/-- The program's entry point. -/
def entry (data : Bytes) : Exec Chain Unit := do
  match ← Exec.ofExcept (AdapterInstruction.decode data) with
  | .init adapterData => adapterInitialize curve ctx adapterData
  | .deposit amount adapterData => adapterDeposit curve exec ctx amount adapterData
  | .withdraw shares adapterData => adapterWithdraw curve exec ctx shares adapterData
  | .currentValue adapterData => adapterCurrentValue curve exec ctx layout adapterData

end Programs

/-! ### What the handlers establish -/

section Rules

variable {curve : Curve} {exec : Callee ProgramState Event} {ctx : Context} {w w' : Chain}
variable {layout : Layout ProgramState}

theorem checkKlendProgram_ok {reserve klendProgram : AccountInfo} {u : Unit} :
    checkKlendProgram w reserve klendProgram = .ok u ↔
      w.ownedBy klendProgram.key reserve.key = true ∧ w.executable klendProgram.key = true := by
  simp [checkKlendProgram, except_bind_ok]

/-- An accepted list for moving funds names the pinned reserve and its owner. -/
theorem AdapterDeposit.tryAccounts_ok {accounts : AdapterDeposit}
    (h : AdapterDeposit.tryAccounts curve ctx w = .ok accounts) :
    (∃ tail, ctx.accounts = accounts.instructionsSysvar :: accounts.position ::
      accounts.positionUsdcPool.info :: accounts.adapterState.info :: tail) ∧
    accounts.toFundPrefix.Accepted curve ctx w ∧
    accounts.reserve.key = accounts.adapterState.data.kaminoReserve ∧
    w.ownedBy accounts.klendProgram.key accounts.reserve.key = true := by
  unfold AdapterDeposit.tryAccounts at h
  split at h
  · rename_i hlist
    simp only [except_bind_ok, FundPrefix.load_ok, loadToken_ok, checkMut_ok, checkAddress_ok,
      checkKlendProgram_ok] at h
    obtain ⟨slots, ⟨rfl, rfl, ⟨rfl, hpool⟩, rfl, hstate⟩, vault, ⟨rfl, -⟩, _, hslots, _, -, _,
      hreserve, _, -, _, -, _, -, _, -, _, ⟨howner, -⟩, hpure⟩ := h
    obtain rfl := Except.ok.inj hpure
    exact ⟨⟨_, hlist⟩, FundPrefix.accepted_of_constraints hpool hstate hslots, hreserve, howner⟩
  · simp [throw, throwThe, MonadExceptOf.throw] at h

theorem AdapterCurrentValue.tryAccounts_ok {accounts : AdapterCurrentValue}
    (h : AdapterCurrentValue.tryAccounts curve ctx w = .ok accounts) :
    (∃ tail, ctx.accounts = accounts.instructionsSysvar :: accounts.position ::
      accounts.adapterState.info :: tail) ∧
    accounts.toValuePrefix.Accepted curve ctx w ∧
    accounts.reserve.key = accounts.adapterState.data.kaminoReserve ∧
    w.ownedBy accounts.klendProgram.key accounts.reserve.key = true := by
  unfold AdapterCurrentValue.tryAccounts at h
  split at h
  · rename_i hlist
    simp only [except_bind_ok, ValuePrefix.load_ok, checkMut_ok, checkAddress_ok,
      checkKlendProgram_ok] at h
    obtain ⟨slots, ⟨rfl, rfl, rfl, hstate⟩, _, hslots, _, -, _, hreserve, _, ⟨howner, -⟩,
      hpure⟩ := h
    obtain rfl := Except.ok.inj hpure
    exact ⟨⟨_, hlist⟩, ValuePrefix.accepted_of_constraints hstate hslots, hreserve, howner⟩
  · simp [throw, throwThe, MonadExceptOf.throw] at h

theorem AdapterInitialize.tryAccounts_leaves {R : Chain → Chain → Prop} [Quiet R]
    (hcreates : Creates R curve ctx programId) :
    Exec.Leaves R (AdapterInitialize.tryAccounts curve ctx) w := by
  unfold AdapterInitialize.tryAccounts
  split
  · rename_i hlist
    refine Exec.Leaves.bind_read ?_
    refine Exec.Leaves.bind_ofExcept fun _ _ => ?_
    refine Exec.Leaves.bind_ofExcept fun _ _ => ?_
    refine Exec.Leaves.bind_ofExcept fun _ _ => ?_
    refine Exec.Leaves.bind_ofExcept fun _ _ => ?_
    refine Exec.Leaves.bind_ofExcept fun _ _ => ?_
    have hposition := congrArg (·[1]?) hlist
    refine Exec.Leaves.bind (InitPrefix.create_leaves hcreates hposition) fun _ _ _ => ?_
    refine Exec.Leaves.bind hcreates.associated fun _ _ _ => ?_
    exact Exec.Leaves.bind_ofExcept fun _ _ => Exec.leaves_pure _
  · exact refl_of R w

theorem AdapterInitialize.tryAccounts_ok {accounts : AdapterInitialize}
    (h : AdapterInitialize.tryAccounts curve ctx w = (.ok accounts, w')) :
    (∃ tail, ctx.accounts = accounts.instructionsSysvar :: accounts.position ::
      accounts.adapterState :: accounts.rentPayer :: accounts.systemProgram :: tail) ∧
    findProgramAddress curve ctx.programId (adapterStateSeeds programId accounts.position.key) =
      some (accounts.adapterState.key, accounts.bump) ∧
    w.accounts accounts.adapterState.key = none := by
  generalize hx : AdapterInitialize.tryAccounts curve ctx = x at h
  unfold AdapterInitialize.tryAccounts at hx
  split at hx <;> subst hx
  · rename_i hlist
    simp only [Exec.bind_ok, Exec.read_ok, Exec.ofExcept_ok, Exec.pure_ok] at h
    obtain ⟨_, _, ⟨rfl, rfl⟩, _, _, ⟨-, rfl⟩, _, _, ⟨-, rfl⟩, _, _, ⟨-, rfl⟩, _, _, ⟨-, rfl⟩,
      _, _, ⟨-, rfl⟩, slots, _, hcreate, _, _, -, _, _, -, rfl, -⟩ := h
    obtain ⟨⟨rfl, rfl, rfl, rfl, rfl⟩, hseeds, hvacant⟩ := InitPrefix.create_ok hcreate
    exact ⟨⟨_, hlist⟩, hseeds, hvacant⟩
  · simp at h

theorem mintShares_leaves {R : Chain → Chain → Prop} [Quiet R] {accounts : AdapterDeposit}
    {amount : UInt64}
    (hexec : Respects R ctx ctx.Signer exec) :
    Exec.Leaves R (mintShares curve exec ctx accounts amount) w := by
  refine Exec.Leaves.bind (invoke_leaves hexec fun _ => id) fun _ _ _ => ?_
  refine Exec.Leaves.bind (invoke_leaves hexec fun _ => id) fun _ _ _ => ?_
  exact measureToken_leaves

theorem redeemShares_leaves {R : Chain → Chain → Prop} [Quiet R] {accounts : AdapterWithdraw}
    {shares : UInt64}
    (hexec : Respects R ctx ctx.Signer exec) :
    Exec.Leaves R (redeemShares curve exec ctx accounts shares) w := by
  refine Exec.Leaves.bind (invoke_leaves hexec fun _ => id) fun _ _ _ => ?_
  refine Exec.Leaves.bind (invoke_leaves hexec fun _ => id) fun _ _ _ => ?_
  exact measureToken_leaves

theorem priceShares_leaves {R : Chain → Chain → Prop} [Quiet R] {accounts : AdapterCurrentValue}
    (hexec : Respects R ctx ctx.Signer exec) :
    Exec.Leaves R (priceShares curve exec ctx layout accounts) w := by
  refine Exec.Leaves.bind (invoke_leaves hexec fun _ => id) fun _ _ _ => ?_
  refine Exec.Leaves.bind_read ?_
  refine Exec.Leaves.bind_ofExcept fun _ _ => ?_
  exact Exec.Leaves.bind_ofExcept fun _ _ => Exec.leaves_pure _

theorem redeemShares_ok {accounts : AdapterWithdraw} {shares amountOut : UInt64}
    (h : redeemShares curve exec ctx accounts shares w = (.ok amountOut, w')) :
    ∃ pool, w'.token? accounts.positionUsdcPool.key = some pool ∧
      pool.amount.toNat = amountOut.toNat + accounts.positionUsdcPool.data.amount.toNat := by
  simp only [redeemShares, Exec.bind_ok, measureToken_ok] at h
  obtain ⟨_, w₁, -, _, w₂, -, hmeasured, rfl⟩ := h
  exact hmeasured

theorem adapterInitialize_completed {adapterData : Bytes}
    (h : adapterInitialize curve ctx adapterData w = (.ok (), w')) :
    Completed AdapterState checkedSub curve exec ctx w (.init adapterData) w' := by
  have hcreated : Exec.Leaves (Foreign exec ctx ctx.Signer)
      (AdapterInitialize.tryAccounts curve ctx) w :=
    AdapterInitialize.tryAccounts_leaves .of_benign
  exact .of_initializing AdapterInitialize.tryAccounts_ok hcreated
    (fun _ => Exec.leaves_pure _) (fun _ _ => rfl) (fun _ _ => rfl) h

theorem adapterDeposit_completed {amount : UInt64} {adapterData : Bytes}
    (h : adapterDeposit curve exec ctx amount adapterData w = (.ok (), w')) :
    Completed AdapterState checkedSub curve exec ctx w (.deposit amount adapterData) w' := by
  refine .of_depositing (fun haccounts => ?_) (fun _ => mintShares_leaves Foreign.respects) h
  exact (AdapterDeposit.tryAccounts_ok haccounts).imp_right And.left

theorem adapterWithdraw_completed {shares : UInt64} {adapterData : Bytes}
    (h : adapterWithdraw curve exec ctx shares adapterData w = (.ok (), w')) :
    Completed AdapterState checkedSub curve exec ctx w (.withdraw shares adapterData) w' := by
  refine .of_withdrawing (fun haccounts => ?_) (fun _ => redeemShares_leaves Foreign.respects)
    redeemShares_ok h
  exact (AdapterDeposit.tryAccounts_ok haccounts).imp_right And.left

theorem adapterCurrentValue_completed {adapterData : Bytes}
    (h : adapterCurrentValue curve exec ctx layout adapterData w = (.ok (), w')) :
    Completed AdapterState checkedSub curve exec ctx w (.currentValue adapterData) w' := by
  refine .of_valuing (fun haccounts => ?_) (fun _ => priceShares_leaves Foreign.respects) h
  exact (AdapterCurrentValue.tryAccounts_ok haccounts).imp_right And.left

/-- Whatever the program does, completed or not, moves along what its calls respect. -/
theorem entry_leaves {R : Chain → Chain → Prop} [Writes ctx.programId R] {data : Bytes}
    (hexec : Respects R ctx ctx.Signer exec)
    (hcreates : ∀ adapterData, AdapterInstruction.decode data = .ok (.init adapterData) →
      Creates R curve ctx programId) :
    Exec.Leaves R (entry curve exec ctx layout data) w := by
  refine Exec.Leaves.bind_ofExcept fun ix hdecode => ?_
  cases ix with
  | init adapterData =>
    exact initializing_leaves (AdapterInitialize.tryAccounts_leaves (hcreates _ hdecode))
      fun _ => Exec.leaves_pure _
  | deposit amount adapterData => exact depositing_leaves fun _ => mintShares_leaves hexec
  | withdraw shares adapterData => exact withdrawing_leaves fun _ => redeemShares_leaves hexec
  | currentValue adapterData => exact valuing_leaves fun _ => priceShares_leaves hexec

/-- Every instruction the program completes has one of the shared outcomes. -/
theorem entry_completed {data : Bytes}
    (h : entry curve exec ctx layout data w = (.ok (), w')) :
    ∃ ix, AdapterInstruction.decode data = .ok ix ∧
      Completed AdapterState checkedSub curve exec ctx w ix w' := by
  simp only [entry, Exec.bind_ok, Exec.ofExcept_ok] at h
  obtain ⟨ix, _, ⟨hdecode, rfl⟩, hrun⟩ := h
  refine ⟨ix, hdecode, ?_⟩
  cases ix with
  | init adapterData => exact adapterInitialize_completed hrun
  | deposit amount adapterData => exact adapterDeposit_completed hrun
  | withdraw shares adapterData => exact adapterWithdraw_completed hrun
  | currentValue adapterData => exact adapterCurrentValue_completed hrun

end Rules

end YieldAdapter.KaminoUsdc

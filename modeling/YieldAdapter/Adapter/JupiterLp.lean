import YieldAdapter.Adapter.Common

/-!
# The Jupiter LP adapter

USDC in the Jupiter Perpetuals pool. The position owns a JLP token account;
shares are the JLP a deposit brings in. The value prices the raw JLP balance of
that account, not the ledger.
-/

set_option autoImplicit false

namespace YieldAdapter.JupiterLp

open Solana

/-! ### Account data -/

def jupAddLiquidity2 : Bytes := [228, 162, 78, 28, 70, 219, 116, 115]

def jupRemoveLiquidity2 : Bytes := [230, 215, 82, 127, 241, 101, 227, 146]

/-- `Pool.aumUsd : u128`. -/
def poolAumUsd : Nat := 180

/-- `supply : u64` of a mint. -/
def mintSupply : Nat := 36

/-- `amount : u64` of a token account. -/
def tokenAmountOff : Nat := 64

def readU128 (data : Bytes) (off : Nat) : Except Error Nat := readField 16 data off

def readU64 (data : Bytes) (off : Nat) : Except Error Nat := readField 8 data off

def tokenAmount (tokenAccountData : Bytes) : Except Error UInt64 := do
  let amount ← readU64 tokenAccountData tokenAmountOff
  pure (UInt64.ofNat amount)

/-- `lp_balance × pool.aumUsd / lp_supply`. -/
def lpValueUsdc (poolData lpMintData : Bytes) (lpBalance : UInt64) : Except Error UInt64 :=
  if lpBalance = 0 then
    pure 0
  else do
    -- the pool is read before the mint
    let aum ← readU128 poolData poolAumUsd
    let supply ← readU64 lpMintData mintSupply
    check (supply ≠ 0) AdapterError.mathOverflow
    mulDivU64 lpBalance.toNat aum supply

/-! ### Jupiter calls -/

/-- The accounts that adding and removing liquidity share. -/
structure LiquidityAccounts where
  program : AccountInfo
  owner : AccountInfo
  tokenAccount : AccountInfo
  lpTokenAccount : AccountInfo
  transferAuthority : AccountInfo
  perpetuals : AccountInfo
  pool : AccountInfo
  custody : AccountInfo
  dovesPrice : AccountInfo
  pythnetPrice : AccountInfo
  custodyTokenAccount : AccountInfo
  lpTokenMint : AccountInfo
  tokenProgram : AccountInfo
  eventAuthority : AccountInfo

def LiquidityAccounts.metas (a : LiquidityAccounts) : List AccountMeta := [
  .newReadonly a.owner.key true,
  .new a.tokenAccount.key false,
  .new a.lpTokenAccount.key false,
  .newReadonly a.transferAuthority.key false,
  .newReadonly a.perpetuals.key false,
  .new a.pool.key false,
  .new a.custody.key false,
  .newReadonly a.dovesPrice.key false,
  .newReadonly a.pythnetPrice.key false,
  .new a.custodyTokenAccount.key false,
  .new a.lpTokenMint.key false,
  .newReadonly a.tokenProgram.key false,
  .newReadonly a.eventAuthority.key false,
  .newReadonly a.program.key false]

/-- The pool's AUM accounts, forwarded from the caller as read-only. -/
def appendExtra (metas : List AccountMeta) (extra : List AccountInfo) : List AccountMeta :=
  metas ++ extra.map fun acc => .newReadonly acc.key false

section Calls

variable (curve : Curve) (exec : Callee ProgramState Event) (ctx : Context)

/-- `add_liquidity2`, any amount of JLP out. -/
def addLiquidity (a : LiquidityAccounts) (tokenAmountIn : UInt64) (aumAccounts : List AccountInfo) :
    Exec Chain Unit :=
  invoke curve exec ctx
    { programId := a.program.key
      accounts := appendExtra a.metas aumAccounts
      data := .bytes (jupAddLiquidity2 ++ leBytes64 tokenAmountIn ++ leBytes64 0 ++ [0]) }
    AdapterError.cpiFailed

/-- `remove_liquidity2`, any amount of USDC out. -/
def removeLiquidity (a : LiquidityAccounts) (lpAmountIn : UInt64) (aumAccounts : List AccountInfo) :
    Exec Chain Unit :=
  invoke curve exec ctx
    { programId := a.program.key
      accounts := appendExtra a.metas aumAccounts
      data := .bytes (jupRemoveLiquidity2 ++ leBytes64 lpAmountIn ++ leBytes64 0) }
    AdapterError.cpiFailed

end Calls

/-! ### Accounts -/

/-- The accounts of `adapter_deposit`, and of `adapter_withdraw`, whose layout is
the same, with the remaining accounts. -/
structure AdapterDeposit extends FundPrefix AdapterState where
  jupiterProgram : AccountInfo
  transferAuthority : AccountInfo
  perpetuals : AccountInfo
  pool : AccountInfo
  custody : AccountInfo
  dovesPrice : AccountInfo
  pythnetPrice : AccountInfo
  custodyTokenAccount : AccountInfo
  lpTokenMint : AccountInfo
  lpTokenAccount : Loaded TokenAccount
  tokenProgram : AccountInfo
  eventAuthority : AccountInfo
  remainingAccounts : List AccountInfo

abbrev AdapterWithdraw := AdapterDeposit

structure AdapterCurrentValue extends ValuePrefix AdapterState where
  lpTokenAccount : AccountInfo
  pool : AccountInfo
  lpTokenMint : AccountInfo

structure AdapterInitialize extends InitPrefix where
  lpTokenMint : Loaded Mint
  lpTokenAccount : AccountInfo
  pool : AccountInfo
  custody : AccountInfo

section Programs

variable (curve : Curve) (exec : Callee ProgramState Event) (ctx : Context)

def AdapterDeposit.tryAccounts (w : Chain) : Except Error AdapterDeposit := do
  match ctx.accounts with
  | instructionsSysvar :: position :: positionUsdcPool :: adapterState :: jupiterProgram ::
      transferAuthority :: perpetuals :: pool :: custody :: dovesPrice :: pythnetPrice ::
      custodyTokenAccount :: lpTokenMint :: lpTokenAccount :: tokenProgram ::
      eventAuthority :: remainingAccounts =>
    let slots ← FundPrefix.load w instructionsSysvar position positionUsdcPool adapterState
    let lpTokenAccount ← loadToken w lpTokenAccount
    slots.constraints curve ctx
    checkExecutable w jupiterProgram
    checkMut pool
    checkAddress slots.adapterState.data.pool pool AdapterError.unauthorized
    checkMut custody
    checkAddress slots.adapterState.data.custody custody AdapterError.unauthorized
    checkMut custodyTokenAccount
    checkMut lpTokenMint
    checkMut lpTokenAccount.info
    checkAddress slots.adapterState.data.lpTokenAccount lpTokenAccount.info
      AdapterError.unauthorized
    pure { toFundPrefix := slots, jupiterProgram, transferAuthority, perpetuals, pool, custody,
           dovesPrice, pythnetPrice, custodyTokenAccount, lpTokenMint, lpTokenAccount,
           tokenProgram, eventAuthority, remainingAccounts }
  | _ => throw (.anchor .accountNotEnoughKeys)

def AdapterCurrentValue.tryAccounts (w : Chain) : Except Error AdapterCurrentValue := do
  match ctx.accounts with
  | instructionsSysvar :: position :: adapterState :: lpTokenAccount :: pool :: lpTokenMint :: _ =>
    let slots ← ValuePrefix.load w instructionsSysvar position adapterState
    slots.constraints curve ctx
    checkAddress slots.adapterState.data.lpTokenAccount lpTokenAccount AdapterError.unauthorized
    checkAddress slots.adapterState.data.pool pool AdapterError.unauthorized
    checkAddress slots.adapterState.data.lpMint lpTokenMint AdapterError.unauthorized
    pure { toValuePrefix := slots, lpTokenAccount, pool, lpTokenMint }
  | _ => throw (.anchor .accountNotEnoughKeys)

def AdapterInitialize.tryAccounts : Exec Chain AdapterInitialize := do
  match ctx.accounts with
  | instructionsSysvar :: position :: adapterState :: rentPayer :: systemProgram ::
      lpTokenMint :: lpTokenAccount :: pool :: custody :: tokenProgram ::
      associatedTokenProgram :: _ =>
    let w ← Exec.read
    Exec.ofExcept (checkSigner rentPayer)
    Exec.ofExcept (checkProgram w systemProgramId systemProgram)
    let lpTokenMint ← Exec.ofExcept (loadMint w lpTokenMint)
    Exec.ofExcept (checkProgram w tokenProgramId tokenProgram)
    Exec.ofExcept (checkProgram w associatedTokenProgramId associatedTokenProgram)
    let slots ← InitPrefix.create curve ctx programId instructionsSysvar position adapterState
      rentPayer systemProgram
    initAssociatedToken curve ctx rentPayer position lpTokenMint.info lpTokenAccount
    Exec.ofExcept slots.constraints
    pure { toInitPrefix := slots, lpTokenMint, lpTokenAccount, pool, custody }
  | _ => Exec.fail (.anchor .accountNotEnoughKeys)

/-- The bundle both fund-moving handlers forward to Jupiter. -/
def AdapterDeposit.liquidity (accounts : AdapterDeposit) : LiquidityAccounts where
  program := accounts.jupiterProgram
  owner := accounts.position
  tokenAccount := accounts.positionUsdcPool.info
  lpTokenAccount := accounts.lpTokenAccount.info
  transferAuthority := accounts.transferAuthority
  perpetuals := accounts.perpetuals
  pool := accounts.pool
  custody := accounts.custody
  dovesPrice := accounts.dovesPrice
  pythnetPrice := accounts.pythnetPrice
  custodyTokenAccount := accounts.custodyTokenAccount
  lpTokenMint := accounts.lpTokenMint
  tokenProgram := accounts.tokenProgram
  eventAuthority := accounts.eventAuthority

/-! ### Handlers -/

def adapterInitialize (adapterData : Bytes) : Exec Chain Unit := do
  let accounts ← AdapterInitialize.tryAccounts curve ctx
  initializeWith ctx accounts.toInitPrefix adapterData (pure ()) fun header =>
    ({ header
       pool := accounts.pool.key
       custody := accounts.custody.key
       lpTokenAccount := accounts.lpTokenAccount.key
       lpMint := accounts.lpTokenMint.key
       bump := accounts.bump } : AdapterState)

/-- Add liquidity, and measure what the JLP account gained since it was loaded. -/
def mintShares (accounts : AdapterDeposit) (amount : UInt64) : Exec Chain UInt64 := do
  addLiquidity curve exec ctx accounts.liquidity amount accounts.remainingAccounts
  measureToken accounts.lpTokenAccount.info accounts.lpTokenAccount.data.amount

def adapterDeposit (amount : UInt64) (adapterData : Bytes) : Exec Chain Unit := do
  let w ← Exec.read
  let accounts ← Exec.ofExcept (AdapterDeposit.tryAccounts curve ctx w)
  depositWith ctx accounts.toFundPrefix amount adapterData
    (mintShares curve exec ctx accounts amount)

/-- Remove liquidity, and measure what the USDC pool gained since it was loaded. -/
def redeemShares (accounts : AdapterWithdraw) (shares : UInt64) : Exec Chain UInt64 := do
  removeLiquidity curve exec ctx accounts.liquidity shares accounts.remainingAccounts
  measureToken accounts.positionUsdcPool.info accounts.positionUsdcPool.data.amount

def adapterWithdraw (shares : UInt64) (adapterData : Bytes) : Exec Chain Unit := do
  let w ← Exec.read
  let accounts ← Exec.ofExcept (AdapterDeposit.tryAccounts curve ctx w)
  Exec.ofExcept (withdrawGuards ctx accounts.toFundPrefix shares adapterData)
  withdrawWith ctx accounts.toFundPrefix shares
    (checkedSub accounts.adapterState.data.header.totalShares shares)
    (redeemShares curve exec ctx accounts shares)

variable (layout : Layout ProgramState)

def priceShares (accounts : AdapterCurrentValue) : Exec Chain (UInt64 × UInt64) := do
  let w ← Exec.read
  let lpBalance ← Exec.ofExcept (tokenAmount (w.bytes layout accounts.lpTokenAccount.key))
  let value ← Exec.ofExcept (lpValueUsdc (w.bytes layout accounts.pool.key)
    (w.bytes layout accounts.lpTokenMint.key) lpBalance)
  pure (value, w.clock.slot)

def adapterCurrentValue (adapterData : Bytes) : Exec Chain Unit := do
  let w ← Exec.read
  let accounts ← Exec.ofExcept (AdapterCurrentValue.tryAccounts curve ctx w)
  reportValueWith ctx accounts.toValuePrefix adapterData (priceShares layout accounts)

/-- The program's entry point. -/
def entry (data : Bytes) : Exec Chain Unit := do
  match ← Exec.ofExcept (AdapterInstruction.decode data) with
  | .init adapterData => adapterInitialize curve ctx adapterData
  | .deposit amount adapterData => adapterDeposit curve exec ctx amount adapterData
  | .withdraw shares adapterData => adapterWithdraw curve exec ctx shares adapterData
  | .currentValue adapterData => adapterCurrentValue curve ctx layout adapterData

end Programs

/-! ### What the handlers establish -/

section Rules

variable {curve : Curve} {exec : Callee ProgramState Event} {ctx : Context} {w w' : Chain}
variable {layout : Layout ProgramState}

theorem AdapterDeposit.tryAccounts_ok {accounts : AdapterDeposit}
    (h : AdapterDeposit.tryAccounts curve ctx w = .ok accounts) :
    (∃ tail, ctx.accounts = accounts.instructionsSysvar :: accounts.position ::
      accounts.positionUsdcPool.info :: accounts.adapterState.info :: tail) ∧
    accounts.toFundPrefix.Accepted curve ctx w := by
  unfold AdapterDeposit.tryAccounts at h
  split at h
  · rename_i hlist
    simp only [except_bind_ok, FundPrefix.load_ok, loadToken_ok] at h
    obtain ⟨slots, ⟨rfl, rfl, ⟨rfl, hpool⟩, rfl, hstate⟩, _, -, _, hslots, _, -, _, -, _, -, _, -,
      _, -, _, -, _, -, _, -, _, -, hpure⟩ := h
    obtain rfl := Except.ok.inj hpure
    exact ⟨⟨_, hlist⟩, FundPrefix.accepted_of_constraints hpool hstate hslots⟩
  · simp [throw, throwThe, MonadExceptOf.throw] at h

/-- Every account the value is read from is pinned in the state. -/
theorem AdapterCurrentValue.tryAccounts_ok {accounts : AdapterCurrentValue}
    (h : AdapterCurrentValue.tryAccounts curve ctx w = .ok accounts) :
    (∃ tail, ctx.accounts = accounts.instructionsSysvar :: accounts.position ::
      accounts.adapterState.info :: tail) ∧
    accounts.toValuePrefix.Accepted curve ctx w ∧
    accounts.lpTokenAccount.key = accounts.adapterState.data.lpTokenAccount ∧
    accounts.pool.key = accounts.adapterState.data.pool ∧
    accounts.lpTokenMint.key = accounts.adapterState.data.lpMint := by
  unfold AdapterCurrentValue.tryAccounts at h
  split at h
  · rename_i hlist
    simp only [except_bind_ok, ValuePrefix.load_ok, checkAddress_ok] at h
    obtain ⟨slots, ⟨rfl, rfl, rfl, hstate⟩, _, hslots, _, hlp, _, hpool, _, hmint, hpure⟩ := h
    obtain rfl := Except.ok.inj hpure
    exact ⟨⟨_, hlist⟩, ValuePrefix.accepted_of_constraints hstate hslots, hlp, hpool, hmint⟩
  · simp [throw, throwThe, MonadExceptOf.throw] at h

theorem AdapterInitialize.tryAccounts_leaves {R : Chain → Chain → Prop} [Quiet R]
    (hcreates : Creates R curve ctx programId) :
    Exec.Leaves R (AdapterInitialize.tryAccounts curve ctx) w := by
  unfold AdapterInitialize.tryAccounts
  split
  · rename_i hlist
    refine Exec.Leaves.bind_read ?_
    refine Exec.Leaves.bind_ofExcept fun _ _ => ?_
    refine Exec.Leaves.bind_ofExcept fun _ _ => ?_
    refine Exec.Leaves.bind_ofExcept fun _ _ => ?_
    refine Exec.Leaves.bind_ofExcept fun _ _ => ?_
    refine Exec.Leaves.bind_ofExcept fun _ _ => ?_
    have hposition := congrArg (·[1]?) hlist
    refine Exec.Leaves.bind (InitPrefix.create_leaves hcreates hposition) fun _ _ _ => ?_
    refine Exec.Leaves.bind hcreates.associated fun _ _ _ => ?_
    exact Exec.Leaves.bind_ofExcept fun _ _ => Exec.leaves_pure _
  · exact refl_of R w

theorem AdapterInitialize.tryAccounts_ok {accounts : AdapterInitialize}
    (h : AdapterInitialize.tryAccounts curve ctx w = (.ok accounts, w')) :
    (∃ tail, ctx.accounts = accounts.instructionsSysvar :: accounts.position ::
      accounts.adapterState :: accounts.rentPayer :: accounts.systemProgram :: tail) ∧
    findProgramAddress curve ctx.programId (adapterStateSeeds programId accounts.position.key) =
      some (accounts.adapterState.key, accounts.bump) ∧
    w.accounts accounts.adapterState.key = none := by
  generalize hx : AdapterInitialize.tryAccounts curve ctx = x at h
  unfold AdapterInitialize.tryAccounts at hx
  split at hx <;> subst hx
  · rename_i hlist
    simp only [Exec.bind_ok, Exec.read_ok, Exec.ofExcept_ok, Exec.pure_ok] at h
    obtain ⟨_, _, ⟨rfl, rfl⟩, _, _, ⟨-, rfl⟩, _, _, ⟨-, rfl⟩, _, _, ⟨-, rfl⟩, _, _, ⟨-, rfl⟩,
      _, _, ⟨-, rfl⟩, slots, _, hcreate, _, _, -, _, _, -, rfl, -⟩ := h
    obtain ⟨⟨rfl, rfl, rfl, rfl, rfl⟩, hseeds, hvacant⟩ := InitPrefix.create_ok hcreate
    exact ⟨⟨_, hlist⟩, hseeds, hvacant⟩
  · simp at h

theorem mintShares_leaves {R : Chain → Chain → Prop} [Quiet R] {accounts : AdapterDeposit}
    {amount : UInt64}
    (hexec : Respects R ctx ctx.Signer exec) :
    Exec.Leaves R (mintShares curve exec ctx accounts amount) w :=
  Exec.Leaves.bind (invoke_leaves hexec fun _ => id) fun _ _ _ => measureToken_leaves

theorem redeemShares_leaves {R : Chain → Chain → Prop} [Quiet R] {accounts : AdapterWithdraw}
    {shares : UInt64}
    (hexec : Respects R ctx ctx.Signer exec) :
    Exec.Leaves R (redeemShares curve exec ctx accounts shares) w :=
  Exec.Leaves.bind (invoke_leaves hexec fun _ => id) fun _ _ _ => measureToken_leaves

theorem priceShares_leaves {R : Chain → Chain → Prop} [Quiet R] {accounts : AdapterCurrentValue} :
    Exec.Leaves R (priceShares layout accounts) w := by
  refine Exec.Leaves.bind_read ?_
  refine Exec.Leaves.bind_ofExcept fun _ _ => ?_
  exact Exec.Leaves.bind_ofExcept fun _ _ => Exec.leaves_pure _

theorem redeemShares_ok {accounts : AdapterWithdraw} {shares amountOut : UInt64}
    (h : redeemShares curve exec ctx accounts shares w = (.ok amountOut, w')) :
    ∃ pool, w'.token? accounts.positionUsdcPool.key = some pool ∧
      pool.amount.toNat = amountOut.toNat + accounts.positionUsdcPool.data.amount.toNat := by
  simp only [redeemShares, Exec.bind_ok, measureToken_ok] at h
  obtain ⟨_, w₁, -, hmeasured, rfl⟩ := h
  exact hmeasured

theorem adapterInitialize_completed {adapterData : Bytes}
    (h : adapterInitialize curve ctx adapterData w = (.ok (), w')) :
    Completed AdapterState checkedSub curve exec ctx w (.init adapterData) w' := by
  have hcreated : Exec.Leaves (Foreign exec ctx ctx.Signer)
      (AdapterInitialize.tryAccounts curve ctx) w :=
    AdapterInitialize.tryAccounts_leaves .of_benign
  exact .of_initializing AdapterInitialize.tryAccounts_ok hcreated
    (fun _ => Exec.leaves_pure _) (fun _ _ => rfl) (fun _ _ => rfl) h

theorem adapterDeposit_completed {amount : UInt64} {adapterData : Bytes}
    (h : adapterDeposit curve exec ctx amount adapterData w = (.ok (), w')) :
    Completed AdapterState checkedSub curve exec ctx w (.deposit amount adapterData) w' :=
  .of_depositing AdapterDeposit.tryAccounts_ok (fun _ => mintShares_leaves Foreign.respects) h

theorem adapterWithdraw_completed {shares : UInt64} {adapterData : Bytes}
    (h : adapterWithdraw curve exec ctx shares adapterData w = (.ok (), w')) :
    Completed AdapterState checkedSub curve exec ctx w (.withdraw shares adapterData) w' :=
  .of_withdrawing AdapterDeposit.tryAccounts_ok (fun _ => redeemShares_leaves Foreign.respects)
    redeemShares_ok h

theorem adapterCurrentValue_completed {adapterData : Bytes}
    (h : adapterCurrentValue curve ctx layout adapterData w = (.ok (), w')) :
    Completed AdapterState checkedSub curve exec ctx w (.currentValue adapterData) w' := by
  refine .of_valuing (fun haccounts => ?_) (fun _ => priceShares_leaves) h
  exact (AdapterCurrentValue.tryAccounts_ok haccounts).imp_right And.left

/-- Whatever the program does, completed or not, moves along what its calls respect. -/
theorem entry_leaves {R : Chain → Chain → Prop} [Writes ctx.programId R] {data : Bytes}
    (hexec : Respects R ctx ctx.Signer exec)
    (hcreates : ∀ adapterData, AdapterInstruction.decode data = .ok (.init adapterData) →
      Creates R curve ctx programId) :
    Exec.Leaves R (entry curve exec ctx layout data) w := by
  refine Exec.Leaves.bind_ofExcept fun ix hdecode => ?_
  cases ix with
  | init adapterData =>
    exact initializing_leaves (AdapterInitialize.tryAccounts_leaves (hcreates _ hdecode))
      fun _ => Exec.leaves_pure _
  | deposit amount adapterData => exact depositing_leaves fun _ => mintShares_leaves hexec
  | withdraw shares adapterData => exact withdrawing_leaves fun _ => redeemShares_leaves hexec
  | currentValue adapterData => exact valuing_leaves fun _ => priceShares_leaves

/-- Every instruction the program completes has one of the shared outcomes. -/
theorem entry_completed {data : Bytes}
    (h : entry curve exec ctx layout data w = (.ok (), w')) :
    ∃ ix, AdapterInstruction.decode data = .ok ix ∧
      Completed AdapterState checkedSub curve exec ctx w ix w' := by
  simp only [entry, Exec.bind_ok, Exec.ofExcept_ok] at h
  obtain ⟨ix, _, ⟨hdecode, rfl⟩, hrun⟩ := h
  refine ⟨ix, hdecode, ?_⟩
  cases ix with
  | init adapterData => exact adapterInitialize_completed hrun
  | deposit amount adapterData => exact adapterDeposit_completed hrun
  | withdraw shares adapterData => exact adapterWithdraw_completed hrun
  | currentValue adapterData => exact adapterCurrentValue_completed hrun

end Rules

end YieldAdapter.JupiterLp

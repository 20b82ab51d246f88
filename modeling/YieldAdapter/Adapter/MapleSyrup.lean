import YieldAdapter.Adapter.Common

/-!
# The Maple adapter

syrupUSDC bought and sold on an Orca whirlpool. The position owns a syrupUSDC
token account; shares are the syrupUSDC a deposit's swap brings in. The value
prices the raw balance of that account at the whirlpool's spot price.
-/

set_option autoImplicit false

namespace YieldAdapter.MapleSyrup

open Solana

/-! ### Account data -/

def orcaSwap : Bytes := [248, 198, 158, 145, 225, 117, 135, 200]

/-- The tick price bounds a swap does not cross. -/
def minSqrtPrice : Nat := 4295048016

def maxSqrtPrice : Nat := 79226673515401279992447579055

/-- `sqrt_price : u128` of a whirlpool. -/
def wpSqrtPrice : Nat := 65

/-- `amount : u64` of a token account. -/
def tokenAmountOff : Nat := 64

def readU128 (data : Bytes) (off : Nat) : Except Error Nat := readField 16 data off

def tokenAmount (data : Bytes) : Except Error UInt64 := do
  let amount ← readField 8 data tokenAmountOff
  pure (UInt64.ofNat amount)

/-- `balance × (sqrt_price / 2^64)²`, shifted after each of the two products. -/
def whirlpoolValueUsdc (wpData : Bytes) (syrupBalance : UInt64) : Except Error UInt64 :=
  if syrupBalance = 0 then
    pure 0
  else do
    let sp ← readU128 wpData wpSqrtPrice
    check (syrupBalance.toNat * sp < 2 ^ 128) AdapterError.mathOverflow
    -- the first product is cut to 64.64 before the second
    let step1 := (syrupBalance.toNat * sp) >>> 64
    check (step1 * sp < 2 ^ 128) AdapterError.mathOverflow
    (tryU64 ((step1 * sp) >>> 64)).elim (.error AdapterError.mathOverflow) .ok

/-! ### Orca calls -/

/-- The accounts of a swap; token A is syrupUSDC and token B is USDC. -/
structure SwapAccounts where
  program : AccountInfo
  tokenProgram : AccountInfo
  authority : AccountInfo
  whirlpool : AccountInfo
  tokenOwnerA : AccountInfo
  vaultA : AccountInfo
  tokenOwnerB : AccountInfo
  vaultB : AccountInfo
  tickArray0 : AccountInfo
  tickArray1 : AccountInfo
  tickArray2 : AccountInfo
  oracle : AccountInfo

/-- `swap` with `amount` as the exact input and any amount out. -/
def swap (curve : Curve) (exec : Callee ProgramState Event) (ctx : Context) (a : SwapAccounts)
    (amount : UInt64) (aToB : Bool) : Exec Chain Unit :=
  let sqrtPriceLimit := if aToB then minSqrtPrice else maxSqrtPrice
  invoke curve exec ctx
    { programId := a.program.key
      accounts := [
        .newReadonly a.tokenProgram.key false,
        .newReadonly a.authority.key true,
        .new a.whirlpool.key false,
        .new a.tokenOwnerA.key false,
        .new a.vaultA.key false,
        .new a.tokenOwnerB.key false,
        .new a.vaultB.key false,
        .new a.tickArray0.key false,
        .new a.tickArray1.key false,
        .new a.tickArray2.key false,
        .new a.oracle.key false]
      -- `other_amount_threshold` is 0, and the first flag says the input is exact
      data := .bytes (orcaSwap ++ leBytes64 amount ++ leBytes64 0 ++ leBytes 16 sqrtPriceLimit ++
        [1, if aToB then 1 else 0]) }
    AdapterError.cpiFailed

/-! ### Accounts -/

/-- The accounts of `adapter_deposit`, and of `adapter_withdraw`, whose layout is the same. -/
structure AdapterDeposit extends FundPrefix AdapterState where
  orcaProgram : AccountInfo
  whirlpool : AccountInfo
  syrupTokenAccount : Loaded TokenAccount
  vaultA : AccountInfo
  vaultB : AccountInfo
  tickArray0 : AccountInfo
  tickArray1 : AccountInfo
  tickArray2 : AccountInfo
  oracle : AccountInfo
  tokenProgram : AccountInfo

abbrev AdapterWithdraw := AdapterDeposit

structure AdapterCurrentValue extends ValuePrefix AdapterState where
  syrupTokenAccount : AccountInfo
  whirlpool : AccountInfo

structure AdapterInitialize extends InitPrefix where
  syrupMint : Loaded Mint
  syrupTokenAccount : AccountInfo
  whirlpool : AccountInfo

section Programs

variable (curve : Curve) (exec : Callee ProgramState Event) (ctx : Context)

def AdapterDeposit.tryAccounts (w : Chain) : Except Error AdapterDeposit := do
  match ctx.accounts with
  | instructionsSysvar :: position :: positionUsdcPool :: adapterState :: orcaProgram ::
      whirlpool :: syrupTokenAccount :: vaultA :: vaultB :: tickArray0 :: tickArray1 ::
      tickArray2 :: oracle :: tokenProgram :: _ =>
    let slots ← FundPrefix.load w instructionsSysvar position positionUsdcPool adapterState
    let syrupTokenAccount ← loadToken w syrupTokenAccount
    slots.constraints curve ctx
    checkExecutable w orcaProgram
    checkMut whirlpool
    checkAddress slots.adapterState.data.whirlpool whirlpool AdapterError.unauthorized
    checkMut syrupTokenAccount.info
    checkAddress slots.adapterState.data.syrupTokenAccount syrupTokenAccount.info
      AdapterError.unauthorized
    checkMut vaultA
    checkMut vaultB
    checkMut tickArray0
    checkMut tickArray1
    checkMut tickArray2
    checkMut oracle
    pure { toFundPrefix := slots, orcaProgram, whirlpool, syrupTokenAccount, vaultA, vaultB,
           tickArray0, tickArray1, tickArray2, oracle, tokenProgram }
  | _ => throw (.anchor .accountNotEnoughKeys)

def AdapterCurrentValue.tryAccounts (w : Chain) : Except Error AdapterCurrentValue := do
  match ctx.accounts with
  | instructionsSysvar :: position :: adapterState :: syrupTokenAccount :: whirlpool :: _ =>
    let slots ← ValuePrefix.load w instructionsSysvar position adapterState
    slots.constraints curve ctx
    checkAddress slots.adapterState.data.syrupTokenAccount syrupTokenAccount
      AdapterError.unauthorized
    checkAddress slots.adapterState.data.whirlpool whirlpool AdapterError.unauthorized
    pure { toValuePrefix := slots, syrupTokenAccount, whirlpool }
  | _ => throw (.anchor .accountNotEnoughKeys)

def AdapterInitialize.tryAccounts : Exec Chain AdapterInitialize := do
  match ctx.accounts with
  | instructionsSysvar :: position :: adapterState :: rentPayer :: systemProgram ::
      syrupMint :: syrupTokenAccount :: whirlpool :: tokenProgram ::
      associatedTokenProgram :: _ =>
    let w ← Exec.read
    Exec.ofExcept (checkSigner rentPayer)
    Exec.ofExcept (checkProgram w systemProgramId systemProgram)
    let syrupMint ← Exec.ofExcept (loadMint w syrupMint)
    Exec.ofExcept (checkProgram w tokenProgramId tokenProgram)
    Exec.ofExcept (checkProgram w associatedTokenProgramId associatedTokenProgram)
    let slots ← InitPrefix.create curve ctx programId instructionsSysvar position adapterState
      rentPayer systemProgram
    initAssociatedToken curve ctx rentPayer position syrupMint.info syrupTokenAccount
    Exec.ofExcept slots.constraints
    pure { toInitPrefix := slots, syrupMint, syrupTokenAccount, whirlpool }
  | _ => Exec.fail (.anchor .accountNotEnoughKeys)

/-- The bundle both fund-moving handlers forward to Orca. -/
def AdapterDeposit.swapAccounts (accounts : AdapterDeposit) : SwapAccounts where
  program := accounts.orcaProgram
  tokenProgram := accounts.tokenProgram
  authority := accounts.position
  whirlpool := accounts.whirlpool
  tokenOwnerA := accounts.syrupTokenAccount.info
  vaultA := accounts.vaultA
  tokenOwnerB := accounts.positionUsdcPool.info
  vaultB := accounts.vaultB
  tickArray0 := accounts.tickArray0
  tickArray1 := accounts.tickArray1
  tickArray2 := accounts.tickArray2
  oracle := accounts.oracle

/-! ### Handlers -/

def adapterInitialize (adapterData : Bytes) : Exec Chain Unit := do
  let accounts ← AdapterInitialize.tryAccounts curve ctx
  initializeWith ctx accounts.toInitPrefix adapterData (pure ()) fun header =>
    ({ header
       whirlpool := accounts.whirlpool.key
       syrupTokenAccount := accounts.syrupTokenAccount.key
       bump := accounts.bump } : AdapterState)

/-- Swap USDC in, and measure what the syrupUSDC account gained since it was loaded. -/
def mintShares (accounts : AdapterDeposit) (amount : UInt64) : Exec Chain UInt64 := do
  swap curve exec ctx accounts.swapAccounts amount false
  measureToken accounts.syrupTokenAccount.info accounts.syrupTokenAccount.data.amount

def adapterDeposit (amount : UInt64) (adapterData : Bytes) : Exec Chain Unit := do
  let w ← Exec.read
  let accounts ← Exec.ofExcept (AdapterDeposit.tryAccounts curve ctx w)
  depositWith ctx accounts.toFundPrefix amount adapterData
    (mintShares curve exec ctx accounts amount)

/-- Swap syrupUSDC in, and measure what the USDC pool gained since it was loaded. -/
def redeemShares (accounts : AdapterWithdraw) (shares : UInt64) : Exec Chain UInt64 := do
  swap curve exec ctx accounts.swapAccounts shares true
  measureToken accounts.positionUsdcPool.info accounts.positionUsdcPool.data.amount

def adapterWithdraw (shares : UInt64) (adapterData : Bytes) : Exec Chain Unit := do
  let w ← Exec.read
  let accounts ← Exec.ofExcept (AdapterDeposit.tryAccounts curve ctx w)
  Exec.ofExcept (withdrawGuards ctx accounts.toFundPrefix shares adapterData)
  withdrawWith ctx accounts.toFundPrefix shares
    (checkedSub accounts.adapterState.data.header.totalShares shares)
    (redeemShares curve exec ctx accounts shares)

variable (layout : Layout ProgramState)

def priceShares (accounts : AdapterCurrentValue) : Exec Chain (UInt64 × UInt64) := do
  let w ← Exec.read
  let balance ← Exec.ofExcept (tokenAmount (w.bytes layout accounts.syrupTokenAccount.key))
  let value ← Exec.ofExcept (whirlpoolValueUsdc (w.bytes layout accounts.whirlpool.key) balance)
  pure (value, w.clock.slot)

def adapterCurrentValue (adapterData : Bytes) : Exec Chain Unit := do
  let w ← Exec.read
  let accounts ← Exec.ofExcept (AdapterCurrentValue.tryAccounts curve ctx w)
  reportValueWith ctx accounts.toValuePrefix adapterData (priceShares layout accounts)

/-- The program's entry point. -/
def entry (data : Bytes) : Exec Chain Unit := do
  match ← Exec.ofExcept (AdapterInstruction.decode data) with
  | .init adapterData => adapterInitialize curve ctx adapterData
  | .deposit amount adapterData => adapterDeposit curve exec ctx amount adapterData
  | .withdraw shares adapterData => adapterWithdraw curve exec ctx shares adapterData
  | .currentValue adapterData => adapterCurrentValue curve ctx layout adapterData

end Programs

/-! ### What the handlers establish -/

section Rules

variable {curve : Curve} {exec : Callee ProgramState Event} {ctx : Context} {w w' : Chain}
variable {layout : Layout ProgramState}

theorem AdapterDeposit.tryAccounts_ok {accounts : AdapterDeposit}
    (h : AdapterDeposit.tryAccounts curve ctx w = .ok accounts) :
    (∃ tail, ctx.accounts = accounts.instructionsSysvar :: accounts.position ::
      accounts.positionUsdcPool.info :: accounts.adapterState.info :: tail) ∧
    accounts.toFundPrefix.Accepted curve ctx w := by
  unfold AdapterDeposit.tryAccounts at h
  split at h
  · rename_i hlist
    simp only [except_bind_ok, FundPrefix.load_ok, loadToken_ok] at h
    obtain ⟨slots, ⟨rfl, rfl, ⟨rfl, hpool⟩, rfl, hstate⟩, _, -, _, hslots, _, -, _, -, _, -, _, -,
      _, -, _, -, _, -, _, -, _, -, _, -, _, -, hpure⟩ := h
    obtain rfl := Except.ok.inj hpure
    exact ⟨⟨_, hlist⟩, FundPrefix.accepted_of_constraints hpool hstate hslots⟩
  · simp [throw, throwThe, MonadExceptOf.throw] at h

/-- Every account the value is read from is pinned in the state. -/
theorem AdapterCurrentValue.tryAccounts_ok {accounts : AdapterCurrentValue}
    (h : AdapterCurrentValue.tryAccounts curve ctx w = .ok accounts) :
    (∃ tail, ctx.accounts = accounts.instructionsSysvar :: accounts.position ::
      accounts.adapterState.info :: tail) ∧
    accounts.toValuePrefix.Accepted curve ctx w ∧
    accounts.syrupTokenAccount.key = accounts.adapterState.data.syrupTokenAccount ∧
    accounts.whirlpool.key = accounts.adapterState.data.whirlpool := by
  unfold AdapterCurrentValue.tryAccounts at h
  split at h
  · rename_i hlist
    simp only [except_bind_ok, ValuePrefix.load_ok, checkAddress_ok] at h
    obtain ⟨slots, ⟨rfl, rfl, rfl, hstate⟩, _, hslots, _, hsyrup, _, hwhirlpool, hpure⟩ := h
    obtain rfl := Except.ok.inj hpure
    exact ⟨⟨_, hlist⟩, ValuePrefix.accepted_of_constraints hstate hslots, hsyrup,
      hwhirlpool⟩
  · simp [throw, throwThe, MonadExceptOf.throw] at h

theorem AdapterInitialize.tryAccounts_leaves {R : Chain → Chain → Prop} [Quiet R]
    (hcreates : Creates R curve ctx programId) :
    Exec.Leaves R (AdapterInitialize.tryAccounts curve ctx) w := by
  unfold AdapterInitialize.tryAccounts
  split
  · rename_i hlist
    refine Exec.Leaves.bind_read ?_
    refine Exec.Leaves.bind_ofExcept fun _ _ => ?_
    refine Exec.Leaves.bind_ofExcept fun _ _ => ?_
    refine Exec.Leaves.bind_ofExcept fun _ _ => ?_
    refine Exec.Leaves.bind_ofExcept fun _ _ => ?_
    refine Exec.Leaves.bind_ofExcept fun _ _ => ?_
    have hposition := congrArg (·[1]?) hlist
    refine Exec.Leaves.bind (InitPrefix.create_leaves hcreates hposition) fun _ _ _ => ?_
    refine Exec.Leaves.bind hcreates.associated fun _ _ _ => ?_
    exact Exec.Leaves.bind_ofExcept fun _ _ => Exec.leaves_pure _
  · exact refl_of R w

theorem AdapterInitialize.tryAccounts_ok {accounts : AdapterInitialize}
    (h : AdapterInitialize.tryAccounts curve ctx w = (.ok accounts, w')) :
    (∃ tail, ctx.accounts = accounts.instructionsSysvar :: accounts.position ::
      accounts.adapterState :: accounts.rentPayer :: accounts.systemProgram :: tail) ∧
    findProgramAddress curve ctx.programId (adapterStateSeeds programId accounts.position.key) =
      some (accounts.adapterState.key, accounts.bump) ∧
    w.accounts accounts.adapterState.key = none := by
  generalize hx : AdapterInitialize.tryAccounts curve ctx = x at h
  unfold AdapterInitialize.tryAccounts at hx
  split at hx <;> subst hx
  · rename_i hlist
    simp only [Exec.bind_ok, Exec.read_ok, Exec.ofExcept_ok, Exec.pure_ok] at h
    obtain ⟨_, _, ⟨rfl, rfl⟩, _, _, ⟨-, rfl⟩, _, _, ⟨-, rfl⟩, _, _, ⟨-, rfl⟩, _, _, ⟨-, rfl⟩,
      _, _, ⟨-, rfl⟩, slots, _, hcreate, _, _, -, _, _, -, rfl, -⟩ := h
    obtain ⟨⟨rfl, rfl, rfl, rfl, rfl⟩, hseeds, hvacant⟩ := InitPrefix.create_ok hcreate
    exact ⟨⟨_, hlist⟩, hseeds, hvacant⟩
  · simp at h

theorem mintShares_leaves {R : Chain → Chain → Prop} [Quiet R] {accounts : AdapterDeposit}
    {amount : UInt64}
    (hexec : Respects R ctx ctx.Signer exec) :
    Exec.Leaves R (mintShares curve exec ctx accounts amount) w :=
  Exec.Leaves.bind (invoke_leaves hexec fun _ => id) fun _ _ _ => measureToken_leaves

theorem redeemShares_leaves {R : Chain → Chain → Prop} [Quiet R] {accounts : AdapterWithdraw}
    {shares : UInt64}
    (hexec : Respects R ctx ctx.Signer exec) :
    Exec.Leaves R (redeemShares curve exec ctx accounts shares) w :=
  Exec.Leaves.bind (invoke_leaves hexec fun _ => id) fun _ _ _ => measureToken_leaves

theorem priceShares_leaves {R : Chain → Chain → Prop} [Quiet R] {accounts : AdapterCurrentValue} :
    Exec.Leaves R (priceShares layout accounts) w := by
  refine Exec.Leaves.bind_read ?_
  refine Exec.Leaves.bind_ofExcept fun _ _ => ?_
  exact Exec.Leaves.bind_ofExcept fun _ _ => Exec.leaves_pure _

theorem redeemShares_ok {accounts : AdapterWithdraw} {shares amountOut : UInt64}
    (h : redeemShares curve exec ctx accounts shares w = (.ok amountOut, w')) :
    ∃ pool, w'.token? accounts.positionUsdcPool.key = some pool ∧
      pool.amount.toNat = amountOut.toNat + accounts.positionUsdcPool.data.amount.toNat := by
  simp only [redeemShares, Exec.bind_ok, measureToken_ok] at h
  obtain ⟨_, w₁, -, hmeasured, rfl⟩ := h
  exact hmeasured

theorem adapterInitialize_completed {adapterData : Bytes}
    (h : adapterInitialize curve ctx adapterData w = (.ok (), w')) :
    Completed AdapterState checkedSub curve exec ctx w (.init adapterData) w' := by
  have hcreated : Exec.Leaves (Foreign exec ctx ctx.Signer)
      (AdapterInitialize.tryAccounts curve ctx) w :=
    AdapterInitialize.tryAccounts_leaves .of_benign
  exact .of_initializing AdapterInitialize.tryAccounts_ok hcreated
    (fun _ => Exec.leaves_pure _) (fun _ _ => rfl) (fun _ _ => rfl) h

theorem adapterDeposit_completed {amount : UInt64} {adapterData : Bytes}
    (h : adapterDeposit curve exec ctx amount adapterData w = (.ok (), w')) :
    Completed AdapterState checkedSub curve exec ctx w (.deposit amount adapterData) w' :=
  .of_depositing AdapterDeposit.tryAccounts_ok (fun _ => mintShares_leaves Foreign.respects) h

theorem adapterWithdraw_completed {shares : UInt64} {adapterData : Bytes}
    (h : adapterWithdraw curve exec ctx shares adapterData w = (.ok (), w')) :
    Completed AdapterState checkedSub curve exec ctx w (.withdraw shares adapterData) w' :=
  .of_withdrawing AdapterDeposit.tryAccounts_ok (fun _ => redeemShares_leaves Foreign.respects)
    redeemShares_ok h

theorem adapterCurrentValue_completed {adapterData : Bytes}
    (h : adapterCurrentValue curve ctx layout adapterData w = (.ok (), w')) :
    Completed AdapterState checkedSub curve exec ctx w (.currentValue adapterData) w' := by
  refine .of_valuing (fun haccounts => ?_) (fun _ => priceShares_leaves) h
  exact (AdapterCurrentValue.tryAccounts_ok haccounts).imp_right And.left

/-- Whatever the program does, completed or not, moves along what its calls respect. -/
theorem entry_leaves {R : Chain → Chain → Prop} [Writes ctx.programId R] {data : Bytes}
    (hexec : Respects R ctx ctx.Signer exec)
    (hcreates : ∀ adapterData, AdapterInstruction.decode data = .ok (.init adapterData) →
      Creates R curve ctx programId) :
    Exec.Leaves R (entry curve exec ctx layout data) w := by
  refine Exec.Leaves.bind_ofExcept fun ix hdecode => ?_
  cases ix with
  | init adapterData =>
    exact initializing_leaves (AdapterInitialize.tryAccounts_leaves (hcreates _ hdecode))
      fun _ => Exec.leaves_pure _
  | deposit amount adapterData => exact depositing_leaves fun _ => mintShares_leaves hexec
  | withdraw shares adapterData => exact withdrawing_leaves fun _ => redeemShares_leaves hexec
  | currentValue adapterData => exact valuing_leaves fun _ => priceShares_leaves

/-- Every instruction the program completes has one of the shared outcomes. -/
theorem entry_completed {data : Bytes}
    (h : entry curve exec ctx layout data w = (.ok (), w')) :
    ∃ ix, AdapterInstruction.decode data = .ok ix ∧
      Completed AdapterState checkedSub curve exec ctx w ix w' := by
  simp only [entry, Exec.bind_ok, Exec.ofExcept_ok] at h
  obtain ⟨ix, _, ⟨hdecode, rfl⟩, hrun⟩ := h
  refine ⟨ix, hdecode, ?_⟩
  cases ix with
  | init adapterData => exact adapterInitialize_completed hrun
  | deposit amount adapterData => exact adapterDeposit_completed hrun
  | withdraw shares adapterData => exact adapterWithdraw_completed hrun
  | currentValue adapterData => exact adapterCurrentValue_completed hrun

end Rules

end YieldAdapter.MapleSyrup

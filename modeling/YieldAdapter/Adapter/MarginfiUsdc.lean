import YieldAdapter.Adapter.Common

/-!
# The MarginFi adapter

USDC in a MarginFi bank. The position holds a MarginFi account; the ledger books
the deposited principal, and the value is read from the account's shares and the
bank's share value. A withdrawal of the booked principal or more takes out the
whole balance and empties the ledger.
-/

set_option autoImplicit false

namespace YieldAdapter.MarginfiUsdc

open Solana

/-! ### Account data -/

def mfiInitPda : Bytes := [87, 177, 91, 80, 218, 119, 245, 31]

def mfiDeposit : Bytes := [171, 94, 235, 103, 82, 64, 212, 140]

def mfiWithdraw : Bytes := [36, 72, 74, 19, 210, 210, 192, 192]

/-- Where the 16 balances of a MarginFi account begin. -/
def balancesOff : Nat := 72

def balanceSize : Nat := 104

def balActive : Nat := 0

def balBankPk : Nat := 1

def balAssetShares : Nat := 40

/-- `asset_share_value` of a bank. -/
def bankAssetShareValueOff : Nat := 80

/-- A two's-complement `i128`. -/
def toI128 (n : Nat) : Int := if n < 2 ^ 127 then n else (n : Int) - 2 ^ 128

def readI128 (data : Bytes) (off : Nat) : Except Error Int := do
  let n ← readField 16 data off
  pure (toI128 n)

/-- The scan over the balance slots `slots`, in order. -/
def scanBalances (acctData bank : Bytes) : (slots : List Nat) → Except Error Int
  | [] => pure 0
  | i :: slots => do
      let base := balancesOff + i * balanceSize
      let active ← readField 1 acctData (base + balActive)
      if active = 0 then
        -- `continue`: what an inactive slot holds is not read
        scanBalances acctData bank slots
      else do
        check (base + balBankPk + 32 ≤ acctData.length) AdapterError.mathOverflow
        if (acctData.drop (base + balBankPk)).take 32 = bank then
          -- the first balance of the bank is the one returned
          readI128 acctData (base + balAssetShares)
        else
          scanBalances acctData bank slots

/-- The asset shares held in `bank`, or 0 without an active balance there. -/
def accountAssetShares (acctData bank : Bytes) : Except Error Int :=
  scanBalances acctData bank (List.range 16)

def bankAssetShareValue (bankData : Bytes) : Except Error Int :=
  readI128 bankData bankAssetShareValueOff

/-- `asset_shares · asset_share_value`, both I80F48 and both cut by 16 bits before
the `u128` product; the final `as u64` keeps the low 64 bits. -/
def sharesToUsdc (assetShares shareValue : Int) : Except Error UInt64 :=
  if assetShares ≤ 0 ∨ shareValue ≤ 0 then
    pure 0
  else do
    -- both are positive here, so `as u128` changes nothing
    let s := assetShares.toNat >>> 16
    let v := shareValue.toNat >>> 16
    check (s * v < 2 ^ 128) AdapterError.mathOverflow
    pure (UInt64.ofNat ((s * v) >>> 64))

/-! ### MarginFi calls -/

section Calls

variable (curve : Curve) (exec : Callee ProgramState Event) (ctx : Context)

/-- `marginfi_account_initialize_pda`, account index 0 and no third party. -/
def initAccountPda (program group marginfiAccount authority feePayer instructionsSysvar
    systemProgram : AccountInfo) : Exec Chain Unit :=
  invoke curve exec ctx
    { programId := program.key
      accounts := [
        .newReadonly group.key false,
        .new marginfiAccount.key false,
        .newReadonly authority.key true,
        .new feePayer.key true,
        .newReadonly instructionsSysvar.key false,
        .newReadonly systemProgram.key false]
      -- `account_index : u16`, and `None` for the third party
      data := .bytes (mfiInitPda ++ leBytes 2 0 ++ [0]) }
    AdapterError.cpiFailed

/-- `lending_account_deposit`. -/
def deposit (program group marginfiAccount authority bank signerTokenAccount liquidityVault
    tokenProgram : AccountInfo) (amount : UInt64) : Exec Chain Unit :=
  invoke curve exec ctx
    { programId := program.key
      accounts := [
        .newReadonly group.key false,
        .new marginfiAccount.key false,
        .newReadonly authority.key true,
        .new bank.key false,
        .new signerTokenAccount.key false,
        .new liquidityVault.key false,
        .newReadonly tokenProgram.key false]
      -- `deposit_up_to_limit` is `None`
      data := .bytes (mfiDeposit ++ leBytes64 amount ++ [0]) }
    AdapterError.cpiFailed

/-- `lending_account_withdraw`; bank and oracle are repeated for the health check. -/
def withdraw (program group marginfiAccount authority bank destinationTokenAccount
    bankLiquidityVaultAuthority liquidityVault tokenProgram oracle : AccountInfo)
    (amount : UInt64) (withdrawAll : Bool) : Exec Chain Unit :=
  invoke curve exec ctx
    { programId := program.key
      accounts := [
        .newReadonly group.key false,
        .new marginfiAccount.key false,
        .newReadonly authority.key true,
        .new bank.key false,
        .new destinationTokenAccount.key false,
        .newReadonly bankLiquidityVaultAuthority.key false,
        .new liquidityVault.key false,
        .newReadonly tokenProgram.key false,
        .newReadonly bank.key false,
        .newReadonly oracle.key false]
      -- `Some(withdraw_all)`
      data := .bytes (mfiWithdraw ++ leBytes64 amount ++ [1, if withdrawAll then 1 else 0]) }
    AdapterError.cpiFailed

end Calls

/-! ### Accounts -/

structure AdapterDeposit extends FundPrefix AdapterState where
  marginfiProgram : AccountInfo
  marginfiGroup : AccountInfo
  marginfiAccount : AccountInfo
  bank : AccountInfo
  liquidityVault : AccountInfo
  tokenProgram : AccountInfo

structure AdapterWithdraw extends FundPrefix AdapterState where
  marginfiProgram : AccountInfo
  marginfiGroup : AccountInfo
  marginfiAccount : AccountInfo
  bank : AccountInfo
  bankLiquidityVaultAuthority : AccountInfo
  liquidityVault : AccountInfo
  tokenProgram : AccountInfo
  oracle : AccountInfo

structure AdapterCurrentValue extends ValuePrefix AdapterState where
  marginfiAccount : AccountInfo
  bank : AccountInfo

structure AdapterInitialize extends InitPrefix where
  marginfiProgram : AccountInfo
  marginfiGroup : AccountInfo
  marginfiAccount : AccountInfo
  bank : AccountInfo

section Programs

variable (curve : Curve) (exec : Callee ProgramState Event) (ctx : Context)

def AdapterDeposit.tryAccounts (w : Chain) : Except Error AdapterDeposit := do
  match ctx.accounts with
  | instructionsSysvar :: position :: positionUsdcPool :: adapterState :: marginfiProgram ::
      marginfiGroup :: marginfiAccount :: bank :: liquidityVault :: tokenProgram :: _ =>
    let slots ← FundPrefix.load w instructionsSysvar position positionUsdcPool adapterState
    let state := slots.adapterState.data
    slots.constraints curve ctx
    checkExecutable w marginfiProgram
    checkAddress state.marginfiGroup marginfiGroup AdapterError.unauthorized
    checkMut marginfiAccount
    checkAddress state.marginfiAccount marginfiAccount AdapterError.unauthorized
    checkMut bank
    checkAddress state.bank bank AdapterError.unauthorized
    checkMut liquidityVault
    pure { toFundPrefix := slots, marginfiProgram, marginfiGroup, marginfiAccount, bank,
           liquidityVault, tokenProgram }
  | _ => throw (.anchor .accountNotEnoughKeys)

def AdapterWithdraw.tryAccounts (w : Chain) : Except Error AdapterWithdraw := do
  match ctx.accounts with
  | instructionsSysvar :: position :: positionUsdcPool :: adapterState :: marginfiProgram ::
      marginfiGroup :: marginfiAccount :: bank :: bankLiquidityVaultAuthority ::
      liquidityVault :: tokenProgram :: oracle :: _ =>
    let slots ← FundPrefix.load w instructionsSysvar position positionUsdcPool adapterState
    let state := slots.adapterState.data
    slots.constraints curve ctx
    checkExecutable w marginfiProgram
    checkAddress state.marginfiGroup marginfiGroup AdapterError.unauthorized
    checkMut marginfiAccount
    checkAddress state.marginfiAccount marginfiAccount AdapterError.unauthorized
    checkMut bank
    checkAddress state.bank bank AdapterError.unauthorized
    checkMut liquidityVault
    pure { toFundPrefix := slots, marginfiProgram, marginfiGroup, marginfiAccount, bank,
           bankLiquidityVaultAuthority, liquidityVault, tokenProgram, oracle }
  | _ => throw (.anchor .accountNotEnoughKeys)

def AdapterCurrentValue.tryAccounts (w : Chain) : Except Error AdapterCurrentValue := do
  match ctx.accounts with
  | instructionsSysvar :: position :: adapterState :: marginfiAccount :: bank :: _ =>
    let slots ← ValuePrefix.load w instructionsSysvar position adapterState
    slots.constraints curve ctx
    checkAddress slots.adapterState.data.marginfiAccount marginfiAccount AdapterError.unauthorized
    checkAddress slots.adapterState.data.bank bank AdapterError.unauthorized
    pure { toValuePrefix := slots, marginfiAccount, bank }
  | _ => throw (.anchor .accountNotEnoughKeys)

def AdapterInitialize.tryAccounts : Exec Chain AdapterInitialize := do
  match ctx.accounts with
  | instructionsSysvar :: position :: adapterState :: rentPayer :: systemProgram ::
      marginfiProgram :: marginfiGroup :: marginfiAccount :: bank :: _ =>
    let w ← Exec.read
    Exec.ofExcept (checkSigner rentPayer)
    Exec.ofExcept (checkProgram w systemProgramId systemProgram)
    let slots ← InitPrefix.create curve ctx programId instructionsSysvar position adapterState
      rentPayer systemProgram
    Exec.ofExcept slots.constraints
    Exec.ofExcept (checkExecutable w marginfiProgram)
    Exec.ofExcept (checkMut marginfiAccount)
    pure { toInitPrefix := slots, marginfiProgram, marginfiGroup, marginfiAccount, bank }
  | _ => Exec.fail (.anchor .accountNotEnoughKeys)

/-! ### Handlers -/

def adapterInitialize (adapterData : Bytes) : Exec Chain Unit := do
  let accounts ← AdapterInitialize.tryAccounts curve ctx
  initializeWith ctx accounts.toInitPrefix adapterData
    (initAccountPda curve exec ctx accounts.marginfiProgram accounts.marginfiGroup
      accounts.marginfiAccount accounts.position accounts.rentPayer accounts.instructionsSysvar
      accounts.systemProgram)
    fun header =>
      ({ header
         marginfiGroup := accounts.marginfiGroup.key
         marginfiAccount := accounts.marginfiAccount.key
         bank := accounts.bank.key
         bump := accounts.bump } : AdapterState)

/-- Deposit, and book the principal as the shares minted. -/
def mintShares (accounts : AdapterDeposit) (amount : UInt64) : Exec Chain UInt64 := do
  deposit curve exec ctx accounts.marginfiProgram accounts.marginfiGroup accounts.marginfiAccount
    accounts.position accounts.bank accounts.positionUsdcPool.info accounts.liquidityVault
    accounts.tokenProgram amount
  pure amount

def adapterDeposit (amount : UInt64) (adapterData : Bytes) : Exec Chain Unit := do
  let w ← Exec.read
  let accounts ← Exec.ofExcept (AdapterDeposit.tryAccounts curve ctx w)
  depositWith ctx accounts.toFundPrefix amount adapterData
    (mintShares curve exec ctx accounts amount)

/-- Withdraw, and measure what the USDC pool gained since it was loaded. -/
def redeemShares (accounts : AdapterWithdraw) (shares : UInt64) (withdrawAll : Bool) :
    Exec Chain UInt64 := do
  withdraw curve exec ctx accounts.marginfiProgram accounts.marginfiGroup accounts.marginfiAccount
    accounts.position accounts.bank accounts.positionUsdcPool.info
    accounts.bankLiquidityVaultAuthority accounts.liquidityVault accounts.tokenProgram
    accounts.oracle shares withdrawAll
  measureToken accounts.positionUsdcPool.info accounts.positionUsdcPool.data.amount

/-- The ledger after a withdrawal: emptied by `shares >= booked`. -/
def remainingShares (booked shares : UInt64) : Option UInt64 :=
  if booked ≤ shares then some 0 else checkedSub booked shares

def adapterWithdraw (shares : UInt64) (adapterData : Bytes) : Exec Chain Unit := do
  let w ← Exec.read
  let accounts ← Exec.ofExcept (AdapterWithdraw.tryAccounts curve ctx w)
  -- no comparison of `shares` with the ledger here, unlike the other adapters
  Exec.require (0 < shares) AdapterError.zeroAmount
  Exec.ofExcept (guardCall ctx accounts.instructionsSysvar adapterData)
  let booked := accounts.adapterState.data.header.totalShares
  withdrawWith ctx accounts.toFundPrefix shares (remainingShares booked shares)
    (redeemShares curve exec ctx accounts shares (booked ≤ shares))

variable (layout : Layout ProgramState)

def priceShares (accounts : AdapterCurrentValue) : Exec Chain (UInt64 × UInt64) := do
  let w ← Exec.read
  let shares ← Exec.ofExcept (accountAssetShares (w.bytes layout accounts.marginfiAccount.key)
    (layout.key accounts.adapterState.data.bank).toList)
  let shareValue ← Exec.ofExcept (bankAssetShareValue (w.bytes layout accounts.bank.key))
  let value ← Exec.ofExcept (sharesToUsdc shares shareValue)
  pure (value, w.clock.slot)

def adapterCurrentValue (adapterData : Bytes) : Exec Chain Unit := do
  let w ← Exec.read
  let accounts ← Exec.ofExcept (AdapterCurrentValue.tryAccounts curve ctx w)
  reportValueWith ctx accounts.toValuePrefix adapterData (priceShares layout accounts)

/-- The program's entry point. -/
def entry (data : Bytes) : Exec Chain Unit := do
  match ← Exec.ofExcept (AdapterInstruction.decode data) with
  | .init adapterData => adapterInitialize curve exec ctx adapterData
  | .deposit amount adapterData => adapterDeposit curve exec ctx amount adapterData
  | .withdraw shares adapterData => adapterWithdraw curve exec ctx shares adapterData
  | .currentValue adapterData => adapterCurrentValue curve ctx layout adapterData

end Programs

/-! ### What the handlers establish -/

section Rules

variable {curve : Curve} {exec : Callee ProgramState Event} {ctx : Context} {w w' : Chain}
variable {layout : Layout ProgramState}

/-- An accepted list for moving funds names an executable, any executable, as the
MarginFi program. -/
theorem AdapterDeposit.tryAccounts_ok {accounts : AdapterDeposit}
    (h : AdapterDeposit.tryAccounts curve ctx w = .ok accounts) :
    (∃ tail, ctx.accounts = accounts.instructionsSysvar :: accounts.position ::
      accounts.positionUsdcPool.info :: accounts.adapterState.info :: tail) ∧
    accounts.toFundPrefix.Accepted curve ctx w := by
  unfold AdapterDeposit.tryAccounts at h
  split at h
  · rename_i hlist
    simp only [except_bind_ok, FundPrefix.load_ok] at h
    obtain ⟨slots, ⟨rfl, rfl, ⟨rfl, hpool⟩, rfl, hstate⟩, _, hslots, _, -, _, -, _, -, _, -, _, -,
      _, -, _, -, hpure⟩ := h
    obtain rfl := Except.ok.inj hpure
    exact ⟨⟨_, hlist⟩, FundPrefix.accepted_of_constraints hpool hstate hslots⟩
  · simp [throw, throwThe, MonadExceptOf.throw] at h

theorem AdapterWithdraw.tryAccounts_ok {accounts : AdapterWithdraw}
    (h : AdapterWithdraw.tryAccounts curve ctx w = .ok accounts) :
    (∃ tail, ctx.accounts = accounts.instructionsSysvar :: accounts.position ::
      accounts.positionUsdcPool.info :: accounts.adapterState.info :: tail) ∧
    accounts.toFundPrefix.Accepted curve ctx w := by
  unfold AdapterWithdraw.tryAccounts at h
  split at h
  · rename_i hlist
    simp only [except_bind_ok, FundPrefix.load_ok] at h
    obtain ⟨slots, ⟨rfl, rfl, ⟨rfl, hpool⟩, rfl, hstate⟩, _, hslots, _, -, _, -, _, -, _, -, _, -,
      _, -, _, -, hpure⟩ := h
    obtain rfl := Except.ok.inj hpure
    exact ⟨⟨_, hlist⟩, FundPrefix.accepted_of_constraints hpool hstate hslots⟩
  · simp [throw, throwThe, MonadExceptOf.throw] at h

theorem AdapterCurrentValue.tryAccounts_ok {accounts : AdapterCurrentValue}
    (h : AdapterCurrentValue.tryAccounts curve ctx w = .ok accounts) :
    (∃ tail, ctx.accounts = accounts.instructionsSysvar :: accounts.position ::
      accounts.adapterState.info :: tail) ∧
    accounts.toValuePrefix.Accepted curve ctx w ∧
    accounts.marginfiAccount.key = accounts.adapterState.data.marginfiAccount ∧
    accounts.bank.key = accounts.adapterState.data.bank := by
  unfold AdapterCurrentValue.tryAccounts at h
  split at h
  · rename_i hlist
    simp only [except_bind_ok, ValuePrefix.load_ok, checkAddress_ok] at h
    obtain ⟨slots, ⟨rfl, rfl, rfl, hstate⟩, _, hslots, _, haccount, _, hbank, hpure⟩ := h
    obtain rfl := Except.ok.inj hpure
    exact ⟨⟨_, hlist⟩, ValuePrefix.accepted_of_constraints hstate hslots, haccount, hbank⟩
  · simp [throw, throwThe, MonadExceptOf.throw] at h

theorem AdapterInitialize.tryAccounts_leaves {R : Chain → Chain → Prop} [Quiet R]
    (hcreates : Creates R curve ctx programId) :
    Exec.Leaves R (AdapterInitialize.tryAccounts curve ctx) w := by
  unfold AdapterInitialize.tryAccounts
  split
  · rename_i hlist
    refine Exec.Leaves.bind_read ?_
    refine Exec.Leaves.bind_ofExcept fun _ _ => ?_
    refine Exec.Leaves.bind_ofExcept fun _ _ => ?_
    have hposition := congrArg (·[1]?) hlist
    refine Exec.Leaves.bind (InitPrefix.create_leaves hcreates hposition) fun _ _ _ => ?_
    refine Exec.Leaves.bind_ofExcept fun _ _ => ?_
    refine Exec.Leaves.bind_ofExcept fun _ _ => ?_
    exact Exec.Leaves.bind_ofExcept fun _ _ => Exec.leaves_pure _
  · exact refl_of R w

theorem AdapterInitialize.tryAccounts_ok {accounts : AdapterInitialize}
    (h : AdapterInitialize.tryAccounts curve ctx w = (.ok accounts, w')) :
    (∃ tail, ctx.accounts = accounts.instructionsSysvar :: accounts.position ::
      accounts.adapterState :: accounts.rentPayer :: accounts.systemProgram :: tail) ∧
    findProgramAddress curve ctx.programId (adapterStateSeeds programId accounts.position.key) =
      some (accounts.adapterState.key, accounts.bump) ∧
    w.accounts accounts.adapterState.key = none := by
  generalize hx : AdapterInitialize.tryAccounts curve ctx = x at h
  unfold AdapterInitialize.tryAccounts at hx
  split at hx <;> subst hx
  · rename_i hlist
    simp only [Exec.bind_ok, Exec.read_ok, Exec.ofExcept_ok, Exec.pure_ok] at h
    obtain ⟨_, _, ⟨rfl, rfl⟩, _, _, ⟨-, rfl⟩, _, _, ⟨-, rfl⟩, slots, _, hcreate, _, _, -, _, _, -,
      _, _, -, rfl, -⟩ := h
    obtain ⟨⟨rfl, rfl, rfl, rfl, rfl⟩, hseeds, hvacant⟩ := InitPrefix.create_ok hcreate
    exact ⟨⟨_, hlist⟩, hseeds, hvacant⟩
  · simp at h

/-- A withdrawal always leaves a ledger. -/
theorem remainingShares_eq (booked shares : UInt64) :
    remainingShares booked shares = some (if booked ≤ shares then 0 else booked - shares) := by
  unfold remainingShares
  split_ifs with hall
  · rfl
  · have hle : shares ≤ booked := UInt64.le_of_lt (UInt64.not_le.mp hall)
    simp [checkedSub, hle]

theorem mintShares_leaves {R : Chain → Chain → Prop} [Quiet R] {accounts : AdapterDeposit}
    {amount : UInt64}
    (hexec : Respects R ctx ctx.Signer exec) :
    Exec.Leaves R (mintShares curve exec ctx accounts amount) w :=
  Exec.Leaves.bind (invoke_leaves hexec fun _ => id) fun _ _ _ => Exec.leaves_pure _

theorem redeemShares_leaves {R : Chain → Chain → Prop} [Quiet R] {accounts : AdapterWithdraw}
    {shares : UInt64} {withdrawAll : Bool}
    (hexec : Respects R ctx ctx.Signer exec) :
    Exec.Leaves R (redeemShares curve exec ctx accounts shares withdrawAll) w :=
  Exec.Leaves.bind (invoke_leaves hexec fun _ => id) fun _ _ _ => measureToken_leaves

theorem priceShares_leaves {R : Chain → Chain → Prop} [Quiet R] {accounts : AdapterCurrentValue} :
    Exec.Leaves R (priceShares layout accounts) w := by
  refine Exec.Leaves.bind_read ?_
  refine Exec.Leaves.bind_ofExcept fun _ _ => ?_
  refine Exec.Leaves.bind_ofExcept fun _ _ => ?_
  exact Exec.Leaves.bind_ofExcept fun _ _ => Exec.leaves_pure _

theorem redeemShares_ok {accounts : AdapterWithdraw} {shares amountOut : UInt64}
    {withdrawAll : Bool}
    (h : redeemShares curve exec ctx accounts shares withdrawAll w = (.ok amountOut, w')) :
    ∃ pool, w'.token? accounts.positionUsdcPool.key = some pool ∧
      pool.amount.toNat = amountOut.toNat + accounts.positionUsdcPool.data.amount.toNat := by
  simp only [redeemShares, Exec.bind_ok, measureToken_ok] at h
  obtain ⟨_, w₁, -, hmeasured, rfl⟩ := h
  exact hmeasured

theorem adapterInitialize_completed {adapterData : Bytes}
    (h : adapterInitialize curve exec ctx adapterData w = (.ok (), w')) :
    Completed AdapterState remainingShares curve exec ctx w (.init adapterData) w' := by
  have hcreated : Exec.Leaves (Foreign exec ctx ctx.Signer)
      (AdapterInitialize.tryAccounts curve ctx) w :=
    AdapterInitialize.tryAccounts_leaves .of_benign
  exact .of_initializing AdapterInitialize.tryAccounts_ok hcreated
    (fun _ => invoke_leaves Foreign.respects fun _ => id) (fun _ _ => rfl) (fun _ _ => rfl) h

theorem adapterDeposit_completed {amount : UInt64} {adapterData : Bytes}
    (h : adapterDeposit curve exec ctx amount adapterData w = (.ok (), w')) :
    Completed AdapterState remainingShares curve exec ctx w (.deposit amount adapterData) w' :=
  .of_depositing AdapterDeposit.tryAccounts_ok (fun _ => mintShares_leaves Foreign.respects) h

theorem adapterWithdraw_completed {shares : UInt64} {adapterData : Bytes}
    (h : adapterWithdraw curve exec ctx shares adapterData w = (.ok (), w')) :
    Completed AdapterState remainingShares curve exec ctx w (.withdraw shares adapterData) w' := by
  simp only [adapterWithdraw, Exec.bind_ok, Exec.read_ok, Exec.ofExcept_ok, Exec.require_ok] at h
  obtain ⟨_, _, ⟨rfl, rfl⟩, accounts, _, ⟨haccounts, rfl⟩, _, _, ⟨positive, rfl⟩, _, _,
    ⟨guarded, rfl⟩, hrun⟩ := h
  obtain ⟨⟨tail, slots⟩, accepted⟩ := AdapterWithdraw.tryAccounts_ok haccounts
  exact .of_withdraw slots accepted positive guarded (redeemShares_leaves Foreign.respects)
    (fun _ _ => redeemShares_ok) hrun

theorem adapterCurrentValue_completed {adapterData : Bytes}
    (h : adapterCurrentValue curve ctx layout adapterData w = (.ok (), w')) :
    Completed AdapterState remainingShares curve exec ctx w (.currentValue adapterData) w' := by
  refine .of_valuing (fun haccounts => ?_) (fun _ => priceShares_leaves) h
  exact (AdapterCurrentValue.tryAccounts_ok haccounts).imp_right And.left

/-- Whatever the program does, completed or not, moves along what its calls respect. -/
theorem entry_leaves {R : Chain → Chain → Prop} [Writes ctx.programId R] {data : Bytes}
    (hexec : Respects R ctx ctx.Signer exec)
    (hcreates : ∀ adapterData, AdapterInstruction.decode data = .ok (.init adapterData) →
      Creates R curve ctx programId) :
    Exec.Leaves R (entry curve exec ctx layout data) w := by
  refine Exec.Leaves.bind_ofExcept fun ix hdecode => ?_
  cases ix with
  | init adapterData =>
    exact initializing_leaves (AdapterInitialize.tryAccounts_leaves (hcreates _ hdecode))
      fun _ => invoke_leaves hexec fun _ => id
  | deposit amount adapterData => exact depositing_leaves fun _ => mintShares_leaves hexec
  | withdraw shares adapterData =>
    refine Exec.Leaves.bind_read ?_
    refine Exec.Leaves.bind_ofExcept fun _ _ => ?_
    refine Exec.Leaves.bind_require fun _ => ?_
    refine Exec.Leaves.bind_ofExcept fun _ _ => ?_
    exact withdrawWith_leaves (redeemShares_leaves hexec)
  | currentValue adapterData => exact valuing_leaves fun _ => priceShares_leaves

/-- Every instruction the program completes has one of the shared outcomes. -/
theorem entry_completed {data : Bytes}
    (h : entry curve exec ctx layout data w = (.ok (), w')) :
    ∃ ix, AdapterInstruction.decode data = .ok ix ∧
      Completed AdapterState remainingShares curve exec ctx w ix w' := by
  simp only [entry, Exec.bind_ok, Exec.ofExcept_ok] at h
  obtain ⟨ix, _, ⟨hdecode, rfl⟩, hrun⟩ := h
  refine ⟨ix, hdecode, ?_⟩
  cases ix with
  | init adapterData => exact adapterInitialize_completed hrun
  | deposit amount adapterData => exact adapterDeposit_completed hrun
  | withdraw shares adapterData => exact adapterWithdraw_completed hrun
  | currentValue adapterData => exact adapterCurrentValue_completed hrun

end Rules

end YieldAdapter.MarginfiUsdc

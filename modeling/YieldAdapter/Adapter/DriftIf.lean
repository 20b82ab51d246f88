import YieldAdapter.Adapter.Common

/-!
# The Drift insurance fund adapter

USDC staked in Drift's insurance fund. A deposit books the growth of the stake's
fund shares; a withdrawal subtracts what the caller asked for and hands the same
number to Drift. The value is the stake's part of the fund vault's balance, and
the vault is whatever account the caller supplies.
-/

set_option autoImplicit false

namespace YieldAdapter.DriftIf

open Solana

/-! ### Account data -/

def initUserStatsDisc : Bytes := [254, 243, 72, 98, 251, 130, 168, 213]

def initIfStakeDisc : Bytes := [187, 179, 243, 70, 248, 90, 92, 147]

def addIfStakeDisc : Bytes := [251, 144, 115, 11, 222, 47, 62, 236]

def requestRemoveIfStakeDisc : Bytes := [142, 70, 204, 92, 73, 106, 180, 52]

def removeIfStakeDisc : Bytes := [128, 166, 142, 9, 254, 187, 143, 174]

/-- The USDC insurance fund. -/
def marketIndex : Nat := 0

/-- `if_shares : u128` of a stake. -/
def ifStakeShares : Nat := 40

/-- `insurance_fund.total_shares : u128` of a spot market. -/
def smIfTotalShares : Nat := 336

/-- `amount : u64` of a token account. -/
def tokenAmountOff : Nat := 64

def readU128 (data : Bytes) (off : Nat) : Except Error Nat := readField 16 data off

def readU64 (data : Bytes) (off : Nat) : Except Error Nat := readField 8 data off

def stakeShares (ifStakeData : Bytes) : Except Error Nat := readU128 ifStakeData ifStakeShares

/-- `if_shares × vault_balance / total_shares`. -/
def stakeValueUsdc (ifStakeData spotMarketData ifVaultData : Bytes) : Except Error UInt64 := do
  let shares ← readU128 ifStakeData ifStakeShares
  if shares = 0 then
    pure 0
  else do
    -- neither of the other two accounts is read for an empty stake
    let total ← readU128 spotMarketData smIfTotalShares
    check (total ≠ 0) AdapterError.mathOverflow
    let vault ← readU64 ifVaultData tokenAmountOff
    mulDivU64 shares vault total

/-! ### Drift calls -/

/-- The address of the rent sysvar. -/
def sysvarRentId : Pubkey :=
  .key 0x06a7d517192c5c51218cc94c3d4af17f58daee089ba1fd44e3dbd98a00000000

section Calls

variable (curve : Curve) (exec : Callee ProgramState Event) (ctx : Context)

def cpi (program : AccountInfo) (metas : List AccountMeta) (data : Bytes) : Exec Chain Unit :=
  invoke curve exec ctx { programId := program.key, accounts := metas, data := .bytes data }
    AdapterError.cpiFailed

/-- `initialize_user_stats`. -/
def initUserStats (program userStats state authority payer rent systemProgram : AccountInfo) :
    Exec Chain Unit :=
  cpi curve exec ctx program
    [.new userStats.key false,
      .new state.key false,
      .newReadonly authority.key false,
      .new payer.key true,
      .newReadonly rent.key false,
      .newReadonly systemProgram.key false]
    initUserStatsDisc

/-- `initialize_insurance_fund_stake(market_index)`. -/
def initIfStake (program spotMarket ifStake userStats state authority payer rent
    systemProgram : AccountInfo) : Exec Chain Unit :=
  cpi curve exec ctx program
    [.newReadonly spotMarket.key false,
      .new ifStake.key false,
      .new userStats.key false,
      .newReadonly state.key false,
      .newReadonly authority.key true,
      .new payer.key true,
      .newReadonly rent.key false,
      .newReadonly systemProgram.key false]
    (initIfStakeDisc ++ leBytes 2 marketIndex)

/-- `add_insurance_fund_stake(market_index, amount)`. -/
def addStake (program state spotMarket ifStake userStats authority spotMarketVault ifVault
    driftSigner userTokenAccount tokenProgram : AccountInfo) (amount : UInt64) : Exec Chain Unit :=
  cpi curve exec ctx program
    [.newReadonly state.key false,
      .new spotMarket.key false,
      .new ifStake.key false,
      .new userStats.key false,
      .newReadonly authority.key true,
      .new spotMarketVault.key false,
      .new ifVault.key false,
      .newReadonly driftSigner.key false,
      .new userTokenAccount.key false,
      .newReadonly tokenProgram.key false]
    (addIfStakeDisc ++ leBytes 2 marketIndex ++ leBytes64 amount)

/-- `request_remove_insurance_fund_stake(market_index, amount)`. -/
def requestRemove (program spotMarket ifStake userStats authority ifVault : AccountInfo)
    (shares : UInt64) : Exec Chain Unit :=
  cpi curve exec ctx program
    [.new spotMarket.key false,
      .new ifStake.key false,
      .new userStats.key false,
      .newReadonly authority.key true,
      .new ifVault.key false]
    (requestRemoveIfStakeDisc ++ leBytes 2 marketIndex ++ leBytes64 shares)

/-- `remove_insurance_fund_stake(market_index)`. -/
def removeStake (program state spotMarket ifStake userStats authority ifVault driftSigner
    userTokenAccount tokenProgram : AccountInfo) : Exec Chain Unit :=
  cpi curve exec ctx program
    [.newReadonly state.key false,
      .new spotMarket.key false,
      .new ifStake.key false,
      .new userStats.key false,
      .newReadonly authority.key true,
      .new ifVault.key false,
      .newReadonly driftSigner.key false,
      .new userTokenAccount.key false,
      .newReadonly tokenProgram.key false]
    (removeIfStakeDisc ++ leBytes 2 marketIndex)

end Calls

/-! ### Accounts -/

structure AdapterDeposit extends FundPrefix AdapterState where
  driftProgram : AccountInfo
  state : AccountInfo
  spotMarket : AccountInfo
  insuranceFundStake : AccountInfo
  userStats : AccountInfo
  spotMarketVault : AccountInfo
  insuranceFundVault : AccountInfo
  driftSigner : AccountInfo
  tokenProgram : AccountInfo

structure AdapterWithdraw extends FundPrefix AdapterState where
  driftProgram : AccountInfo
  state : AccountInfo
  spotMarket : AccountInfo
  insuranceFundStake : AccountInfo
  userStats : AccountInfo
  insuranceFundVault : AccountInfo
  driftSigner : AccountInfo
  tokenProgram : AccountInfo

structure AdapterCurrentValue extends ValuePrefix AdapterState where
  insuranceFundStake : AccountInfo
  spotMarket : AccountInfo
  insuranceFundVault : AccountInfo

structure AdapterInitialize extends InitPrefix where
  driftProgram : AccountInfo
  state : AccountInfo
  spotMarket : AccountInfo
  userStats : AccountInfo
  insuranceFundStake : AccountInfo
  rent : AccountInfo

section Programs

variable (curve : Curve) (exec : Callee ProgramState Event) (ctx : Context)

def AdapterDeposit.tryAccounts (w : Chain) : Except Error AdapterDeposit := do
  match ctx.accounts with
  | instructionsSysvar :: position :: positionUsdcPool :: adapterState :: driftProgram ::
      state :: spotMarket :: insuranceFundStake :: userStats :: spotMarketVault ::
      insuranceFundVault :: driftSigner :: tokenProgram :: _ =>
    let slots ← FundPrefix.load w instructionsSysvar position positionUsdcPool adapterState
    slots.constraints curve ctx
    checkExecutable w driftProgram
    checkMut spotMarket
    checkAddress slots.adapterState.data.spotMarket spotMarket AdapterError.unauthorized
    checkMut insuranceFundStake
    checkAddress slots.adapterState.data.insuranceFundStake insuranceFundStake
      AdapterError.unauthorized
    checkMut userStats
    checkAddress slots.adapterState.data.userStats userStats AdapterError.unauthorized
    checkMut spotMarketVault
    checkMut insuranceFundVault
    pure { toFundPrefix := slots, driftProgram, state, spotMarket, insuranceFundStake, userStats,
           spotMarketVault, insuranceFundVault, driftSigner, tokenProgram }
  | _ => throw (.anchor .accountNotEnoughKeys)

def AdapterWithdraw.tryAccounts (w : Chain) : Except Error AdapterWithdraw := do
  match ctx.accounts with
  | instructionsSysvar :: position :: positionUsdcPool :: adapterState :: driftProgram ::
      state :: spotMarket :: insuranceFundStake :: userStats :: insuranceFundVault ::
      driftSigner :: tokenProgram :: _ =>
    let slots ← FundPrefix.load w instructionsSysvar position positionUsdcPool adapterState
    slots.constraints curve ctx
    checkExecutable w driftProgram
    checkMut spotMarket
    checkAddress slots.adapterState.data.spotMarket spotMarket AdapterError.unauthorized
    checkMut insuranceFundStake
    checkAddress slots.adapterState.data.insuranceFundStake insuranceFundStake
      AdapterError.unauthorized
    checkMut userStats
    checkAddress slots.adapterState.data.userStats userStats AdapterError.unauthorized
    checkMut insuranceFundVault
    pure { toFundPrefix := slots, driftProgram, state, spotMarket, insuranceFundStake, userStats,
           insuranceFundVault, driftSigner, tokenProgram }
  | _ => throw (.anchor .accountNotEnoughKeys)

def AdapterCurrentValue.tryAccounts (w : Chain) : Except Error AdapterCurrentValue := do
  match ctx.accounts with
  | instructionsSysvar :: position :: adapterState :: insuranceFundStake :: spotMarket ::
      insuranceFundVault :: _ =>
    let slots ← ValuePrefix.load w instructionsSysvar position adapterState
    slots.constraints curve ctx
    checkAddress slots.adapterState.data.insuranceFundStake insuranceFundStake
      AdapterError.unauthorized
    checkAddress slots.adapterState.data.spotMarket spotMarket AdapterError.unauthorized
    -- nothing is asked of `insurance_fund_vault`
    pure { toValuePrefix := slots, insuranceFundStake, spotMarket, insuranceFundVault }
  | _ => throw (.anchor .accountNotEnoughKeys)

def AdapterInitialize.tryAccounts : Exec Chain AdapterInitialize := do
  match ctx.accounts with
  | instructionsSysvar :: position :: adapterState :: rentPayer :: systemProgram ::
      driftProgram :: state :: spotMarket :: userStats :: insuranceFundStake :: rent :: _ =>
    let w ← Exec.read
    Exec.ofExcept (checkSigner rentPayer)
    Exec.ofExcept (checkProgram w systemProgramId systemProgram)
    let slots ← InitPrefix.create curve ctx programId instructionsSysvar position adapterState
      rentPayer systemProgram
    Exec.ofExcept slots.constraints
    Exec.ofExcept (checkExecutable w driftProgram)
    Exec.ofExcept (checkMut state)
    Exec.ofExcept (checkMut userStats)
    Exec.ofExcept (checkMut insuranceFundStake)
    Exec.ofExcept (checkAddress sysvarRentId rent (.anchor .constraintAddress))
    pure { toInitPrefix := slots, driftProgram, state, spotMarket, userStats, insuranceFundStake,
           rent }
  | _ => Exec.fail (.anchor .accountNotEnoughKeys)

/-! ### Handlers -/

/-- Drift's user-stats and stake accounts, created by two calls. -/
def createStake (accounts : AdapterInitialize) : Exec Chain Unit := do
  initUserStats curve exec ctx accounts.driftProgram accounts.userStats accounts.state
    accounts.position accounts.rentPayer accounts.rent accounts.systemProgram
  initIfStake curve exec ctx accounts.driftProgram accounts.spotMarket
    accounts.insuranceFundStake accounts.userStats accounts.state accounts.position
    accounts.rentPayer accounts.rent accounts.systemProgram

def adapterInitialize (adapterData : Bytes) : Exec Chain Unit := do
  let accounts ← AdapterInitialize.tryAccounts curve ctx
  initializeWith ctx accounts.toInitPrefix adapterData (createStake curve exec ctx accounts)
    fun header =>
      ({ header
         spotMarket := accounts.spotMarket.key
         insuranceFundStake := accounts.insuranceFundStake.key
         userStats := accounts.userStats.key
         bump := accounts.bump } : AdapterState)

variable (layout : Layout ProgramState)

/-- The fund shares of the stake account as it is now. -/
def readStake (insuranceFundStake : AccountInfo) : Exec Chain Nat := do
  let w ← Exec.read
  Exec.ofExcept (stakeShares (w.bytes layout insuranceFundStake.key))

/-- Stake, and measure what the stake gained. -/
def mintShares (accounts : AdapterDeposit) (amount : UInt64) : Exec Chain UInt64 := do
  let before ← readStake layout accounts.insuranceFundStake
  addStake curve exec ctx accounts.driftProgram accounts.state accounts.spotMarket
    accounts.insuranceFundStake accounts.userStats accounts.position accounts.spotMarketVault
    accounts.insuranceFundVault accounts.driftSigner accounts.positionUsdcPool.info
    accounts.tokenProgram amount
  let after ← readStake layout accounts.insuranceFundStake
  Exec.require (before ≤ after) AdapterError.mathOverflow
  Exec.ofOption (tryU64 (after - before)) AdapterError.mathOverflow

def adapterDeposit (amount : UInt64) (adapterData : Bytes) : Exec Chain Unit := do
  let w ← Exec.read
  let accounts ← Exec.ofExcept (AdapterDeposit.tryAccounts curve ctx w)
  depositWith ctx accounts.toFundPrefix amount adapterData
    (mintShares curve exec ctx layout accounts amount)

/-- Request and remove in one go, and measure what the USDC pool gained since it
was loaded. -/
def redeemShares (accounts : AdapterWithdraw) (shares : UInt64) : Exec Chain UInt64 := do
  requestRemove curve exec ctx accounts.driftProgram accounts.spotMarket
    accounts.insuranceFundStake accounts.userStats accounts.position accounts.insuranceFundVault
    shares
  removeStake curve exec ctx accounts.driftProgram accounts.state accounts.spotMarket
    accounts.insuranceFundStake accounts.userStats accounts.position accounts.insuranceFundVault
    accounts.driftSigner accounts.positionUsdcPool.info accounts.tokenProgram
  measureToken accounts.positionUsdcPool.info accounts.positionUsdcPool.data.amount

def adapterWithdraw (shares : UInt64) (adapterData : Bytes) : Exec Chain Unit := do
  let w ← Exec.read
  let accounts ← Exec.ofExcept (AdapterWithdraw.tryAccounts curve ctx w)
  Exec.ofExcept (withdrawGuards ctx accounts.toFundPrefix shares adapterData)
  withdrawWith ctx accounts.toFundPrefix shares
    (checkedSub accounts.adapterState.data.header.totalShares shares)
    (redeemShares curve exec ctx accounts shares)

def priceShares (accounts : AdapterCurrentValue) : Exec Chain (UInt64 × UInt64) := do
  let w ← Exec.read
  let value ← Exec.ofExcept (stakeValueUsdc (w.bytes layout accounts.insuranceFundStake.key)
    (w.bytes layout accounts.spotMarket.key) (w.bytes layout accounts.insuranceFundVault.key))
  pure (value, w.clock.slot)

def adapterCurrentValue (adapterData : Bytes) : Exec Chain Unit := do
  let w ← Exec.read
  let accounts ← Exec.ofExcept (AdapterCurrentValue.tryAccounts curve ctx w)
  reportValueWith ctx accounts.toValuePrefix adapterData (priceShares layout accounts)

/-- The program's entry point. -/
def entry (data : Bytes) : Exec Chain Unit := do
  match ← Exec.ofExcept (AdapterInstruction.decode data) with
  | .init adapterData => adapterInitialize curve exec ctx adapterData
  | .deposit amount adapterData => adapterDeposit curve exec ctx layout amount adapterData
  | .withdraw shares adapterData => adapterWithdraw curve exec ctx shares adapterData
  | .currentValue adapterData => adapterCurrentValue curve ctx layout adapterData

end Programs

/-! ### What the handlers establish -/

section Rules

variable {curve : Curve} {exec : Callee ProgramState Event} {ctx : Context} {w w' : Chain}
variable {layout : Layout ProgramState}

/-- An accepted list for staking names an executable, any executable, as Drift. -/
theorem AdapterDeposit.tryAccounts_ok {accounts : AdapterDeposit}
    (h : AdapterDeposit.tryAccounts curve ctx w = .ok accounts) :
    (∃ tail, ctx.accounts = accounts.instructionsSysvar :: accounts.position ::
      accounts.positionUsdcPool.info :: accounts.adapterState.info :: tail) ∧
    accounts.toFundPrefix.Accepted curve ctx w ∧
    accounts.insuranceFundStake.key = accounts.adapterState.data.insuranceFundStake := by
  unfold AdapterDeposit.tryAccounts at h
  split at h
  · rename_i hlist
    simp only [except_bind_ok, FundPrefix.load_ok, checkAddress_ok] at h
    obtain ⟨slots, ⟨rfl, rfl, ⟨rfl, hpool⟩, rfl, hstate⟩, _, hslots, _, -, _, -, _, -, _, -, _,
      hstake, _, -, _, -, _, -, _, -, hpure⟩ := h
    obtain rfl := Except.ok.inj hpure
    exact ⟨⟨_, hlist⟩, FundPrefix.accepted_of_constraints hpool hstate hslots, hstake⟩
  · simp [throw, throwThe, MonadExceptOf.throw] at h

theorem AdapterWithdraw.tryAccounts_ok {accounts : AdapterWithdraw}
    (h : AdapterWithdraw.tryAccounts curve ctx w = .ok accounts) :
    (∃ tail, ctx.accounts = accounts.instructionsSysvar :: accounts.position ::
      accounts.positionUsdcPool.info :: accounts.adapterState.info :: tail) ∧
    accounts.toFundPrefix.Accepted curve ctx w ∧
    accounts.insuranceFundStake.key = accounts.adapterState.data.insuranceFundStake := by
  unfold AdapterWithdraw.tryAccounts at h
  split at h
  · rename_i hlist
    simp only [except_bind_ok, FundPrefix.load_ok, checkAddress_ok] at h
    obtain ⟨slots, ⟨rfl, rfl, ⟨rfl, hpool⟩, rfl, hstate⟩, _, hslots, _, -, _, -, _, -, _, -, _,
      hstake, _, -, _, -, _, -, hpure⟩ := h
    obtain rfl := Except.ok.inj hpure
    exact ⟨⟨_, hlist⟩, FundPrefix.accepted_of_constraints hpool hstate hslots, hstake⟩
  · simp [throw, throwThe, MonadExceptOf.throw] at h

/-- The stake and the market are pinned in the state; the vault is not. -/
theorem AdapterCurrentValue.tryAccounts_ok {accounts : AdapterCurrentValue}
    (h : AdapterCurrentValue.tryAccounts curve ctx w = .ok accounts) :
    (∃ tail, ctx.accounts = accounts.instructionsSysvar :: accounts.position ::
      accounts.adapterState.info :: tail) ∧
    accounts.toValuePrefix.Accepted curve ctx w ∧
    accounts.insuranceFundStake.key = accounts.adapterState.data.insuranceFundStake ∧
    accounts.spotMarket.key = accounts.adapterState.data.spotMarket := by
  unfold AdapterCurrentValue.tryAccounts at h
  split at h
  · rename_i hlist
    simp only [except_bind_ok, ValuePrefix.load_ok, checkAddress_ok] at h
    obtain ⟨slots, ⟨rfl, rfl, rfl, hstate⟩, _, hslots, _, hstake, _, hmarket, hpure⟩ := h
    obtain rfl := Except.ok.inj hpure
    exact ⟨⟨_, hlist⟩, ValuePrefix.accepted_of_constraints hstate hslots, hstake, hmarket⟩
  · simp [throw, throwThe, MonadExceptOf.throw] at h

/-- Any account may stand for the vault. -/
theorem AdapterCurrentValue.vault_of_tryAccounts {accounts : AdapterCurrentValue}
    (h : AdapterCurrentValue.tryAccounts curve ctx w = .ok accounts) :
    ctx.accounts[5]?.map (·.key) = some accounts.insuranceFundVault.key := by
  unfold AdapterCurrentValue.tryAccounts at h
  split at h
  · rename_i hlist
    simp only [except_bind_ok] at h
    obtain ⟨_, -, _, -, _, -, _, -, hpure⟩ := h
    obtain rfl := Except.ok.inj hpure
    rw [hlist]
    rfl
  · simp [throw, throwThe, MonadExceptOf.throw] at h

theorem AdapterInitialize.tryAccounts_leaves {R : Chain → Chain → Prop} [Quiet R]
    (hcreates : Creates R curve ctx programId) :
    Exec.Leaves R (AdapterInitialize.tryAccounts curve ctx) w := by
  unfold AdapterInitialize.tryAccounts
  split
  · rename_i hlist
    refine Exec.Leaves.bind_read ?_
    refine Exec.Leaves.bind_ofExcept fun _ _ => ?_
    refine Exec.Leaves.bind_ofExcept fun _ _ => ?_
    have hposition := congrArg (·[1]?) hlist
    refine Exec.Leaves.bind (InitPrefix.create_leaves hcreates hposition) fun _ _ _ => ?_
    refine Exec.Leaves.bind_ofExcept fun _ _ => ?_
    refine Exec.Leaves.bind_ofExcept fun _ _ => ?_
    refine Exec.Leaves.bind_ofExcept fun _ _ => ?_
    refine Exec.Leaves.bind_ofExcept fun _ _ => ?_
    refine Exec.Leaves.bind_ofExcept fun _ _ => ?_
    exact Exec.Leaves.bind_ofExcept fun _ _ => Exec.leaves_pure _
  · exact refl_of R w

theorem AdapterInitialize.tryAccounts_ok {accounts : AdapterInitialize}
    (h : AdapterInitialize.tryAccounts curve ctx w = (.ok accounts, w')) :
    (∃ tail, ctx.accounts = accounts.instructionsSysvar :: accounts.position ::
      accounts.adapterState :: accounts.rentPayer :: accounts.systemProgram :: tail) ∧
    findProgramAddress curve ctx.programId (adapterStateSeeds programId accounts.position.key) =
      some (accounts.adapterState.key, accounts.bump) ∧
    w.accounts accounts.adapterState.key = none := by
  generalize hx : AdapterInitialize.tryAccounts curve ctx = x at h
  unfold AdapterInitialize.tryAccounts at hx
  split at hx <;> subst hx
  · rename_i hlist
    simp only [Exec.bind_ok, Exec.read_ok, Exec.ofExcept_ok, Exec.pure_ok] at h
    obtain ⟨_, _, ⟨rfl, rfl⟩, _, _, ⟨-, rfl⟩, _, _, ⟨-, rfl⟩, slots, _, hcreate, _, _, -, _, _, -,
      _, _, -, _, _, -, _, _, -, _, _, -, rfl, -⟩ := h
    obtain ⟨⟨rfl, rfl, rfl, rfl, rfl⟩, hseeds, hvacant⟩ := InitPrefix.create_ok hcreate
    exact ⟨⟨_, hlist⟩, hseeds, hvacant⟩
  · simp at h

theorem readStake_leaves {R : Chain → Chain → Prop} [Quiet R] {info : AccountInfo} :
    Exec.Leaves R (readStake layout info) w :=
  Exec.Leaves.bind_read (Exec.leaves_ofExcept _)

theorem createStake_leaves {R : Chain → Chain → Prop} [Quiet R] {accounts : AdapterInitialize}
    (hexec : Respects R ctx ctx.Signer exec) :
    Exec.Leaves R (createStake curve exec ctx accounts) w :=
  Exec.Leaves.bind (invoke_leaves hexec fun _ => id) fun _ _ _ => invoke_leaves hexec fun _ => id

theorem mintShares_leaves {R : Chain → Chain → Prop} [Quiet R] {accounts : AdapterDeposit}
    {amount : UInt64}
    (hexec : Respects R ctx ctx.Signer exec) :
    Exec.Leaves R (mintShares curve exec ctx layout accounts amount) w := by
  refine Exec.Leaves.bind readStake_leaves fun _ _ _ => ?_
  refine Exec.Leaves.bind (invoke_leaves hexec fun _ => id) fun _ _ _ => ?_
  refine Exec.Leaves.bind readStake_leaves fun _ _ _ => ?_
  exact Exec.Leaves.bind_require fun _ => Exec.leaves_ofOption _ _

theorem redeemShares_leaves {R : Chain → Chain → Prop} [Quiet R] {accounts : AdapterWithdraw}
    {shares : UInt64}
    (hexec : Respects R ctx ctx.Signer exec) :
    Exec.Leaves R (redeemShares curve exec ctx accounts shares) w := by
  refine Exec.Leaves.bind (invoke_leaves hexec fun _ => id) fun _ _ _ => ?_
  exact Exec.Leaves.bind (invoke_leaves hexec fun _ => id) fun _ _ _ => measureToken_leaves

theorem priceShares_leaves {R : Chain → Chain → Prop} [Quiet R] {accounts : AdapterCurrentValue} :
    Exec.Leaves R (priceShares layout accounts) w := by
  refine Exec.Leaves.bind_read ?_
  exact Exec.Leaves.bind_ofExcept fun _ _ => Exec.leaves_pure _

theorem redeemShares_ok {accounts : AdapterWithdraw} {shares amountOut : UInt64}
    (h : redeemShares curve exec ctx accounts shares w = (.ok amountOut, w')) :
    ∃ pool, w'.token? accounts.positionUsdcPool.key = some pool ∧
      pool.amount.toNat = amountOut.toNat + accounts.positionUsdcPool.data.amount.toNat := by
  simp only [redeemShares, Exec.bind_ok, measureToken_ok] at h
  obtain ⟨_, w₁, -, _, w₂, -, hmeasured, rfl⟩ := h
  exact hmeasured

theorem adapterInitialize_completed {adapterData : Bytes}
    (h : adapterInitialize curve exec ctx adapterData w = (.ok (), w')) :
    Completed AdapterState checkedSub curve exec ctx w (.init adapterData) w' := by
  have hcreated : Exec.Leaves (Foreign exec ctx ctx.Signer)
      (AdapterInitialize.tryAccounts curve ctx) w :=
    AdapterInitialize.tryAccounts_leaves .of_benign
  exact .of_initializing AdapterInitialize.tryAccounts_ok hcreated
    (fun _ => createStake_leaves Foreign.respects) (fun _ _ => rfl) (fun _ _ => rfl) h

theorem adapterDeposit_completed {amount : UInt64} {adapterData : Bytes}
    (h : adapterDeposit curve exec ctx layout amount adapterData w = (.ok (), w')) :
    Completed AdapterState checkedSub curve exec ctx w (.deposit amount adapterData) w' := by
  refine .of_depositing (fun haccounts => ?_) (fun _ => mintShares_leaves Foreign.respects) h
  exact (AdapterDeposit.tryAccounts_ok haccounts).imp_right And.left

theorem adapterWithdraw_completed {shares : UInt64} {adapterData : Bytes}
    (h : adapterWithdraw curve exec ctx shares adapterData w = (.ok (), w')) :
    Completed AdapterState checkedSub curve exec ctx w (.withdraw shares adapterData) w' := by
  refine .of_withdrawing (fun haccounts => ?_) (fun _ => redeemShares_leaves Foreign.respects)
    redeemShares_ok h
  exact (AdapterWithdraw.tryAccounts_ok haccounts).imp_right And.left

theorem adapterCurrentValue_completed {adapterData : Bytes}
    (h : adapterCurrentValue curve ctx layout adapterData w = (.ok (), w')) :
    Completed AdapterState checkedSub curve exec ctx w (.currentValue adapterData) w' := by
  refine .of_valuing (fun haccounts => ?_) (fun _ => priceShares_leaves) h
  exact (AdapterCurrentValue.tryAccounts_ok haccounts).imp_right And.left

/-- Whatever the program does, completed or not, moves along what its calls respect. -/
theorem entry_leaves {R : Chain → Chain → Prop} [Writes ctx.programId R] {data : Bytes}
    (hexec : Respects R ctx ctx.Signer exec)
    (hcreates : ∀ adapterData, AdapterInstruction.decode data = .ok (.init adapterData) →
      Creates R curve ctx programId) :
    Exec.Leaves R (entry curve exec ctx layout data) w := by
  refine Exec.Leaves.bind_ofExcept fun ix hdecode => ?_
  cases ix with
  | init adapterData =>
    exact initializing_leaves (AdapterInitialize.tryAccounts_leaves (hcreates _ hdecode))
      fun _ => createStake_leaves hexec
  | deposit amount adapterData => exact depositing_leaves fun _ => mintShares_leaves hexec
  | withdraw shares adapterData => exact withdrawing_leaves fun _ => redeemShares_leaves hexec
  | currentValue adapterData => exact valuing_leaves fun _ => priceShares_leaves

/-- Every instruction the program completes has one of the shared outcomes. -/
theorem entry_completed {data : Bytes}
    (h : entry curve exec ctx layout data w = (.ok (), w')) :
    ∃ ix, AdapterInstruction.decode data = .ok ix ∧
      Completed AdapterState checkedSub curve exec ctx w ix w' := by
  simp only [entry, Exec.bind_ok, Exec.ofExcept_ok] at h
  obtain ⟨ix, _, ⟨hdecode, rfl⟩, hrun⟩ := h
  refine ⟨ix, hdecode, ?_⟩
  cases ix with
  | init adapterData => exact adapterInitialize_completed hrun
  | deposit amount adapterData => exact adapterDeposit_completed hrun
  | withdraw shares adapterData => exact adapterWithdraw_completed hrun
  | currentValue adapterData => exact adapterCurrentValue_completed hrun

end Rules

end YieldAdapter.DriftIf

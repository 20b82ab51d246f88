import YieldAdapter.State

/-!
# What the adapters share

The five adapters are separate programs built on one template. Their account
lists begin with the same slots, and their handlers differ only in the protocol
calls made between the guards and the booking of the result. The shared parts
are stated here once, over the type `τ` of the adapter's state account.
-/

set_option autoImplicit false

namespace YieldAdapter

open Solana

variable {τ : Type} [AdapterAccount τ]

/-- The program whose state account `τ` is. -/
abbrev crateId (τ : Type) [AdapterAccount τ] : Pubkey := AnchorState.programId ProgramState τ

/-- The seeds of an adapter's state account for a position. -/
def adapterStateSeeds (programId position : Pubkey) : Seeds :=
  .text adapterStateSeed (.addr programId (.addr position .nil))

/-! ### Reading and pricing -/

/-- A little-endian field of account data; running past the end is an overflow. -/
def readField (width : Nat) (data : Bytes) (off : Nat) : Except Error Nat :=
  (readLE width data off).elim (.error AdapterError.mathOverflow) .ok

/-- `a.checked_mul(b)?.checked_div(c)?` on `u128`, cut to a `u64` by `try_from`. -/
def mulDivU64 (a b c : Nat) : Except Error UInt64 := do
  check (a * b < 2 ^ 128) AdapterError.mathOverflow
  check (c ≠ 0) AdapterError.mathOverflow
  (tryU64 (a * b / c)).elim (.error AdapterError.mathOverflow) .ok

/-- The number in the field of `width` bytes at `off`. -/
def leAt (width : Nat) (data : Bytes) (off : Nat) : Nat := leNat ((data.drop off).take width)

theorem readField_ok {width off n : Nat} {data : Bytes} :
    readField width data off = .ok n ↔ off + width ≤ data.length ∧ n = leAt width data off := by
  have hread := @readLE_eq_some width off n data
  unfold readField leAt
  cases hfield : readLE width data off with
  | none => simpa [hfield] using hread
  | some m => simpa [hfield] using hread

theorem readField_of_le {width off : Nat} {data : Bytes} (h : off + width ≤ data.length) :
    readField width data off = .ok (leAt width data off) :=
  readField_ok.mpr ⟨h, rfl⟩

theorem leAt_lt (width : Nat) (data : Bytes) (off : Nat) : leAt width data off < 256 ^ width := by
  have hlt := leNat_lt ((data.drop off).take width)
  have hle : ((data.drop off).take width).length ≤ width := by simp
  exact lt_of_lt_of_le hlt (Nat.pow_le_pow_right (by decide) hle)

theorem tryU64_elim_ok {n : Nat} {e : Error} {v : UInt64} :
    (tryU64 n).elim (.error e) .ok = Except.ok v ↔ tryU64 n = some v := by
  cases tryU64 n <;> simp

theorem mulDivU64_ok {a b c : Nat} {v : UInt64} :
    mulDivU64 a b c = .ok v ↔ a * b < 2 ^ 128 ∧ c ≠ 0 ∧ v.toNat = a * b / c := by
  simp only [mulDivU64, except_bind_ok, check_ok, exists_and_left, exists_const]
  rw [tryU64_elim_ok, tryU64_eq_some]

/-! ### Standard account prefixes -/

/-- Slots 0–3 of `adapter_deposit` and `adapter_withdraw`. -/
structure FundPrefix (τ : Type) where
  instructionsSysvar : AccountInfo
  position : AccountInfo
  positionUsdcPool : Loaded TokenAccount
  adapterState : Loaded τ

/-- Slots 0–2 of `adapter_current_value`. -/
structure ValuePrefix (τ : Type) where
  instructionsSysvar : AccountInfo
  position : AccountInfo
  adapterState : Loaded τ

/-- Slots 0–4 of `adapter_initialize`, with the canonical bump of the state account. -/
structure InitPrefix where
  instructionsSysvar : AccountInfo
  position : AccountInfo
  adapterState : AccountInfo
  rentPayer : AccountInfo
  systemProgram : AccountInfo
  bump : UInt8

/-- `seeds` and the stored bump of `adapter_state`. -/
def checkStateSeeds (curve : Curve) (ctx : Context) (position : AccountInfo)
    (adapterState : Loaded τ) : Except Error Unit :=
  checkSeeds curve ctx.programId (adapterStateSeeds (crateId τ) position.key)
    (AdapterAccount.bump adapterState.data) adapterState.info

/-- `constraint = adapter_state.header.position == position.key()`. -/
def checkStatePosition (position : AccountInfo) (adapterState : Loaded τ) : Except Error Unit :=
  check ((AdapterAccount.header adapterState.data).position = position.key)
    AdapterError.unauthorized

def FundPrefix.load (w : Chain) (instructionsSysvar position positionUsdcPool adapterState :
    AccountInfo) : Except Error (FundPrefix τ) := do
  let positionUsdcPool ← loadToken w positionUsdcPool
  let adapterState ← loadState τ w adapterState
  pure { instructionsSysvar, position, positionUsdcPool, adapterState }

def FundPrefix.constraints (curve : Curve) (ctx : Context) (accounts : FundPrefix τ) :
    Except Error Unit := do
  checkAddress sysvarInstructionsId accounts.instructionsSysvar (.anchor .constraintAddress)
  checkMut accounts.positionUsdcPool.info
  checkStateSeeds curve ctx accounts.position accounts.adapterState
  checkMut accounts.adapterState.info
  checkStatePosition accounts.position accounts.adapterState

def ValuePrefix.load (w : Chain) (instructionsSysvar position adapterState : AccountInfo) :
    Except Error (ValuePrefix τ) := do
  let adapterState ← loadState τ w adapterState
  pure { instructionsSysvar, position, adapterState }

def ValuePrefix.constraints (curve : Curve) (ctx : Context) (accounts : ValuePrefix τ) :
    Except Error Unit := do
  checkAddress sysvarInstructionsId accounts.instructionsSysvar (.anchor .constraintAddress)
  checkStateSeeds curve ctx accounts.position accounts.adapterState
  checkStatePosition accounts.position accounts.adapterState

/-- `init` of `adapter_state`, paid for by `rent_payer`. -/
def InitPrefix.create (curve : Curve) (ctx : Context) (programId : Pubkey)
    (instructionsSysvar position adapterState rentPayer systemProgram : AccountInfo) :
    Exec Chain InitPrefix := do
  let bump ← initState curve ctx rentPayer (adapterStateSeeds programId position.key) adapterState
  pure { instructionsSysvar, position, adapterState, rentPayer, systemProgram, bump }

def InitPrefix.constraints (accounts : InitPrefix) : Except Error Unit := do
  checkAddress sysvarInstructionsId accounts.instructionsSysvar (.anchor .constraintAddress)
  checkMut accounts.rentPayer

/-! ### Handlers around the protocol calls -/

/-- The length check on `adapter_data` followed by the check on the caller. -/
def guardCall (ctx : Context) (instructionsSysvar : AccountInfo) (adapterData : Bytes) :
    Except Error Unit := do
  check (adapterData.length ≤ maxAdapterDataLen) AdapterError.adapterDataTooLarge
  verifyCallerIsDispatcher ctx instructionsSysvar dispatcherId

/-- Report `value` and `event`, and write the new ledger back. -/
def bookTotalShares (ctx : Context) (adapterState : Loaded τ) (total value : UInt64)
    (event : Event) : Exec Chain Unit := do
  setU64Return ctx value
  emit ctx event
  store τ ctx adapterState.key (AdapterAccount.setTotalShares adapterState.data total)

/-- `adapter_deposit`, where `mint` makes the protocol calls and measures the shares. -/
def depositWith (ctx : Context) (accounts : FundPrefix τ) (amount : UInt64) (adapterData : Bytes)
    (mint : Exec Chain UInt64) : Exec Chain Unit := do
  Exec.require (0 < amount) AdapterError.zeroAmount
  Exec.ofExcept (guardCall ctx accounts.instructionsSysvar adapterData)
  let sharesMinted ← mint
  let header := AdapterAccount.header accounts.adapterState.data
  let total ← Exec.ofOption (checkedAdd header.totalShares sharesMinted) AdapterError.mathOverflow
  bookTotalShares ctx accounts.adapterState total sharesMinted
    (.adapterDeposit header.position amount sharesMinted)

/-- The guards of `adapter_withdraw` in the adapters that reject what exceeds the ledger. -/
def withdrawGuards (ctx : Context) (accounts : FundPrefix τ) (shares : UInt64)
    (adapterData : Bytes) : Except Error Unit := do
  check (0 < shares) AdapterError.zeroAmount
  check (adapterData.length ≤ maxAdapterDataLen) AdapterError.adapterDataTooLarge
  -- here the caller is checked last
  check (shares ≤ (AdapterAccount.header accounts.adapterState.data).totalShares)
    AdapterError.insufficientShares
  verifyCallerIsDispatcher ctx accounts.instructionsSysvar dispatcherId

/-- The rest of `adapter_withdraw`: `redeem` makes the protocol calls and measures
the payout, `remaining` is the ledger left behind. -/
def withdrawWith (ctx : Context) (accounts : FundPrefix τ) (shares : UInt64)
    (remaining : Option UInt64) (redeem : Exec Chain UInt64) : Exec Chain Unit := do
  let amountOut ← redeem
  let total ← Exec.ofOption remaining AdapterError.mathOverflow
  bookTotalShares ctx accounts.adapterState total amountOut
    (.adapterWithdraw (AdapterAccount.header accounts.adapterState.data).position shares amountOut)

/-- How much a token account holds beyond `before`. -/
def measureToken (account : AccountInfo) (before : UInt64) : Exec Chain UInt64 := do
  let t ← reloadToken account
  Exec.ofOption (checkedSub t.amount before) AdapterError.mathOverflow

/-- `adapter_initialize`, where `call` makes the protocol calls and `state` fills the tail. -/
def initializeWith (ctx : Context) (accounts : InitPrefix) (adapterData : Bytes)
    (call : Exec Chain Unit) (state : AdapterStateHeader → τ) : Exec Chain Unit := do
  Exec.ofExcept (guardCall ctx accounts.instructionsSysvar adapterData)
  call
  let w ← Exec.read
  store τ ctx accounts.adapterState.key (state
    { position := accounts.position.key
      adapterProgram := crateId τ
      createdAt := w.clock.unixTimestamp
      totalShares := 0 })

/-- `adapter_current_value`, where `price` values the position and gives the slot. -/
def reportValueWith (ctx : Context) (accounts : ValuePrefix τ) (adapterData : Bytes)
    (price : Exec Chain (UInt64 × UInt64)) : Exec Chain Unit := do
  Exec.ofExcept (guardCall ctx accounts.instructionsSysvar adapterData)
  let (value, asOfSlot) ← price
  setU64Return ctx value
  emit ctx
    (.adapterValue (AdapterAccount.header accounts.adapterState.data).position value asOfSlot)

/-! ### What the shared parts establish -/

section Rules

variable {curve : Curve} {ctx : Context} {w w' : Chain}

/-- What a list of accounts for moving funds has passed. -/
structure FundPrefix.Accepted (curve : Curve) (ctx : Context) (w : Chain)
    (accounts : FundPrefix τ) : Prop where
  sysvar : accounts.instructionsSysvar.key = sysvarInstructionsId
  pool : w.token? accounts.positionUsdcPool.key = some accounts.positionUsdcPool.data
  state : w.state? τ accounts.adapterState.key = some accounts.adapterState.data
  seeds : createProgramAddress curve ctx.programId
    (adapterStateSeeds (crateId τ) accounts.position.key)
    (AdapterAccount.bump accounts.adapterState.data) = some accounts.adapterState.key
  position : (AdapterAccount.header accounts.adapterState.data).position = accounts.position.key

/-- What a list of accounts for reading the value has passed. -/
structure ValuePrefix.Accepted (curve : Curve) (ctx : Context) (w : Chain)
    (accounts : ValuePrefix τ) : Prop where
  sysvar : accounts.instructionsSysvar.key = sysvarInstructionsId
  state : w.state? τ accounts.adapterState.key = some accounts.adapterState.data
  seeds : createProgramAddress curve ctx.programId
    (adapterStateSeeds (crateId τ) accounts.position.key)
    (AdapterAccount.bump accounts.adapterState.data) = some accounts.adapterState.key
  position : (AdapterAccount.header accounts.adapterState.data).position = accounts.position.key

/-- The world once a result is reported and the ledger written back. -/
def bookedWorld (ctx : Context) (adapterState : Loaded τ) (total value : UInt64) (event : Event)
    (w : Chain) : Chain :=
  ({ w with
      returnData := (ctx.programId, leBytes64 value)
      events := (ctx.programId, event) :: w.events } : Chain).put adapterState.key
    ⟨ctx.programId, false,
      .anchor (AnchorState.encode (AdapterAccount.setTotalShares adapterState.data total))⟩

theorem FundPrefix.load_ok {instructionsSysvar position positionUsdcPool adapterState :
    AccountInfo} {accounts : FundPrefix τ} :
    FundPrefix.load w instructionsSysvar position positionUsdcPool adapterState = .ok accounts ↔
      accounts.instructionsSysvar = instructionsSysvar ∧ accounts.position = position ∧
      (accounts.positionUsdcPool.info = positionUsdcPool ∧
        w.token? positionUsdcPool.key = some accounts.positionUsdcPool.data) ∧
      accounts.adapterState.info = adapterState ∧
        w.state? τ adapterState.key = some accounts.adapterState.data := by
  simp only [FundPrefix.load, except_bind_ok, loadToken_ok, loadState_ok]
  constructor
  · rintro ⟨pool, hpool, state, hstate, hpure⟩
    obtain rfl := Except.ok.inj hpure
    exact ⟨rfl, rfl, hpool, hstate⟩
  · rintro ⟨rfl, rfl, hpool, hstate⟩
    exact ⟨_, hpool, _, hstate, rfl⟩

theorem FundPrefix.accepted_of_constraints {accounts : FundPrefix τ}
    (hpool : w.token? accounts.positionUsdcPool.key = some accounts.positionUsdcPool.data)
    (hstate : w.state? τ accounts.adapterState.key = some accounts.adapterState.data)
    (h : accounts.constraints curve ctx = .ok ()) : accounts.Accepted curve ctx w := by
  simp only [FundPrefix.constraints, except_bind_ok, checkAddress_ok, checkMut_ok, checkStateSeeds,
    checkSeeds_ok, checkStatePosition, check_ok] at h
  obtain ⟨_, hsysvar, _, -, _, hseeds, _, -, hposition⟩ := h
  exact ⟨hsysvar, hpool, hstate, hseeds, hposition⟩

theorem ValuePrefix.load_ok {instructionsSysvar position adapterState : AccountInfo}
    {accounts : ValuePrefix τ} :
    ValuePrefix.load w instructionsSysvar position adapterState = .ok accounts ↔
      accounts.instructionsSysvar = instructionsSysvar ∧ accounts.position = position ∧
      accounts.adapterState.info = adapterState ∧
        w.state? τ adapterState.key = some accounts.adapterState.data := by
  simp only [ValuePrefix.load, except_bind_ok, loadState_ok]
  constructor
  · rintro ⟨state, hstate, hpure⟩
    obtain rfl := Except.ok.inj hpure
    exact ⟨rfl, rfl, hstate⟩
  · rintro ⟨rfl, rfl, hstate⟩
    exact ⟨_, hstate, rfl⟩

theorem ValuePrefix.accepted_of_constraints {accounts : ValuePrefix τ}
    (hstate : w.state? τ accounts.adapterState.key = some accounts.adapterState.data)
    (h : accounts.constraints curve ctx = .ok ()) : accounts.Accepted curve ctx w := by
  simp only [ValuePrefix.constraints, except_bind_ok, checkAddress_ok, checkStateSeeds,
    checkSeeds_ok, checkStatePosition, check_ok] at h
  obtain ⟨_, hsysvar, _, hseeds, hposition⟩ := h
  exact ⟨hsysvar, hstate, hseeds, hposition⟩

theorem guardCall_ok {info : AccountInfo} {adapterData : Bytes} {u : Unit} :
    guardCall ctx info adapterData = .ok u ↔ adapterData.length ≤ maxAdapterDataLen ∧
      info.key = sysvarInstructionsId ∧
        ctx.sysvar.programIds[ctx.sysvar.currentIndex]? = some dispatcherId := by
  simp [guardCall, except_bind_ok, verifyCallerIsDispatcher_ok]

theorem bookTotalShares_ok {adapterState : Loaded τ} {total value : UInt64} {event : Event} :
    bookTotalShares ctx adapterState total value event w = (.ok (), w') ↔
      w.ownedBy ctx.programId adapterState.key = true ∧
        w' = bookedWorld ctx adapterState total value event w := by
  simp only [bookTotalShares, setU64Return, setReturnData, emit, Exec.bind_ok, Exec.modify_ok,
    store_ok]
  constructor
  · rintro ⟨_, _, rfl, _, _, rfl, howned, rfl⟩
    exact ⟨howned, rfl⟩
  · rintro ⟨howned, rfl⟩
    exact ⟨(), _, rfl, (), _, rfl, howned, rfl⟩

theorem state?_bookedWorld {adapterState : Loaded τ} {total value : UInt64} {event : Event}
    (hprogram : ctx.programId = crateId τ) :
    (bookedWorld ctx adapterState total value event w).state? τ adapterState.key =
      some (AdapterAccount.setTotalShares adapterState.data total) :=
  World.state?_put_self hprogram

/-- Booking leaves the token accounts. -/
theorem token?_bookedWorld {adapterState : Loaded τ} {total value : UInt64} {event : Event}
    {key : Pubkey} {t : TokenAccount} (howned : w.ownedBy ctx.programId adapterState.key = true)
    (hprogram : ctx.programId ≠ tokenProgramId) (ht : w.token? key = some t) :
    (bookedWorld ctx adapterState total value event w).token? key = some t := by
  have hne : key ≠ adapterState.key := by
    intro hsame
    have hnone := World.token?_of_ownedBy howned hprogram
    rw [← hsame, ht] at hnone
    cases hnone
  unfold bookedWorld
  rw [World.token?_put_ne hne]
  exact ht

/-- The bytes at an address that was not written. -/
theorem bytes_bookedWorld_ne {layout : Layout ProgramState} {adapterState : Loaded τ}
    {total value : UInt64} {event : Event} {key : Pubkey} (hne : key ≠ adapterState.key) :
    (bookedWorld ctx adapterState total value event w).bytes layout key = w.bytes layout key := by
  simp [bookedWorld, World.bytes, hne]

theorem ownedBy_bookedWorld_ne {adapterState : Loaded τ} {total value : UInt64} {event : Event}
    {programId key : Pubkey} (hne : key ≠ adapterState.key) :
    (bookedWorld ctx adapterState total value event w).ownedBy programId key =
      w.ownedBy programId key := by
  simp [bookedWorld, World.ownedBy, hne]

/-- A completed deposit: the guards held, and the shares measured after the
protocol calls were added to the ledger and reported. -/
theorem depositWith_ok {accounts : FundPrefix τ} {amount : UInt64} {adapterData : Bytes}
    {mint : Exec Chain UInt64}
    (h : depositWith ctx accounts amount adapterData mint w = (.ok (), w')) :
    0 < amount ∧ guardCall ctx accounts.instructionsSysvar adapterData = .ok () ∧
      ∃ sharesMinted total w₁, mint w = (.ok sharesMinted, w₁) ∧
        total.toNat = (AdapterAccount.header accounts.adapterState.data).totalShares.toNat +
          sharesMinted.toNat ∧
        w₁.ownedBy ctx.programId accounts.adapterState.key = true ∧
        w' = bookedWorld ctx accounts.adapterState total sharesMinted
          (.adapterDeposit (AdapterAccount.header accounts.adapterState.data).position amount
            sharesMinted) w₁ := by
  simp only [depositWith, Exec.bind_ok, Exec.require_ok, Exec.ofExcept_ok, Exec.ofOption_ok,
    checkedAdd_eq_some, bookTotalShares_ok] at h
  obtain ⟨_, _, ⟨hpositive, rfl⟩, _, _, ⟨hguard, rfl⟩, sharesMinted, w₁, hmint, total, _,
    ⟨htotal, rfl⟩, howned, rfl⟩ := h
  exact ⟨hpositive, hguard, sharesMinted, total, _, hmint, htotal, howned, rfl⟩

theorem withdrawGuards_ok {accounts : FundPrefix τ} {shares : UInt64} {adapterData : Bytes}
    {u : Unit} :
    withdrawGuards ctx accounts shares adapterData = .ok u ↔
      0 < shares ∧ shares ≤ (AdapterAccount.header accounts.adapterState.data).totalShares ∧
        guardCall ctx accounts.instructionsSysvar adapterData = .ok () := by
  simp only [withdrawGuards, guardCall, except_bind_ok, check_ok]
  constructor
  · rintro ⟨_, hpositive, _, hdata, _, hbounded, hverified⟩
    exact ⟨hpositive, hbounded, (), hdata, hverified⟩
  · rintro ⟨hpositive, hbounded, _, hdata, hverified⟩
    exact ⟨(), hpositive, (), hdata, (), hbounded, hverified⟩

/-- A completed withdrawal wrote the remaining ledger back and reported the payout. -/
theorem withdrawWith_ok {accounts : FundPrefix τ} {shares : UInt64} {remaining : Option UInt64}
    {redeem : Exec Chain UInt64}
    (h : withdrawWith ctx accounts shares remaining redeem w = (.ok (), w')) :
    ∃ amountOut total w₁, redeem w = (.ok amountOut, w₁) ∧ remaining = some total ∧
      w₁.ownedBy ctx.programId accounts.adapterState.key = true ∧
      w' = bookedWorld ctx accounts.adapterState total amountOut
        (.adapterWithdraw (AdapterAccount.header accounts.adapterState.data).position shares
          amountOut) w₁ := by
  simp only [withdrawWith, Exec.bind_ok, Exec.ofOption_ok, bookTotalShares_ok] at h
  obtain ⟨amountOut, w₁, hredeem, total, _, ⟨hremaining, rfl⟩, howned, rfl⟩ := h
  exact ⟨amountOut, total, _, hredeem, hremaining, howned, rfl⟩

theorem measureToken_ok {account : AccountInfo} {before amount : UInt64} :
    measureToken account before w = (.ok amount, w') ↔
      (∃ t, w.token? account.key = some t ∧ t.amount.toNat = amount.toNat + before.toNat) ∧
        w' = w := by
  simp only [measureToken, Exec.bind_ok, reloadToken_ok, Exec.ofOption_ok, checkedSub_eq_some]
  constructor
  · rintro ⟨t, _, ⟨ht, rfl⟩, hamount, rfl⟩
    exact ⟨⟨t, ht, hamount⟩, rfl⟩
  · rintro ⟨⟨t, ht, hamount⟩, rfl⟩
    exact ⟨t, _, ⟨ht, rfl⟩, hamount, rfl⟩

theorem measureToken_leaves {R : Chain → Chain → Prop} [Quiet R] {account : AccountInfo}
    {before : UInt64} : Exec.Leaves R (measureToken account before) w :=
  Exec.Leaves.bind reloadToken_leaves fun _ _ _ => Exec.leaves_ofOption _ _

/-- The state account of an initialisation was vacant and is its canonical address. -/
theorem InitPrefix.create_ok {programId : Pubkey}
    {instructionsSysvar position adapterState rentPayer systemProgram : AccountInfo}
    {accounts : InitPrefix}
    (h : InitPrefix.create curve ctx programId instructionsSysvar position adapterState rentPayer
      systemProgram w = (.ok accounts, w')) :
    (accounts.instructionsSysvar = instructionsSysvar ∧ accounts.position = position ∧
      accounts.adapterState = adapterState ∧ accounts.rentPayer = rentPayer ∧
        accounts.systemProgram = systemProgram) ∧
    findProgramAddress curve ctx.programId (adapterStateSeeds programId position.key) =
      some (adapterState.key, accounts.bump) ∧
    w.accounts adapterState.key = none := by
  simp only [InitPrefix.create, Exec.bind_ok, Exec.pure_ok] at h
  obtain ⟨bump, _, hinit, rfl, -⟩ := h
  obtain ⟨hseeds, hvacant, -⟩ := initState_ok hinit
  exact ⟨⟨rfl, rfl, rfl, rfl, rfl⟩, hseeds, hvacant⟩

/-- Creating the state account for the position handed in second, or any associated token
account, moves along `R`. -/
structure Creates (R : Chain → Chain → Prop) (curve : Curve) (ctx : Context)
    (programId : Pubkey) : Prop where
  state : ∀ {payer position info : AccountInfo} {w : Chain}, ctx.accounts[1]? = some position →
    Exec.Leaves R (initState curve ctx payer (adapterStateSeeds programId position.key) info) w
  associated : ∀ {payer wallet mint info : AccountInfo} {w : Chain},
    Exec.Leaves R (initAssociatedToken curve ctx payer wallet mint info) w

theorem Creates.of_benign {R : Chain → Chain → Prop} [Benign R] {programId : Pubkey} :
    Creates R curve ctx programId where
  state _ := initState_leaves
  associated := initAssociatedToken_leaves

theorem InitPrefix.create_leaves {R : Chain → Chain → Prop} [Quiet R] {programId : Pubkey}
    {instructionsSysvar position adapterState rentPayer systemProgram : AccountInfo}
    (hcreates : Creates R curve ctx programId) (hposition : ctx.accounts[1]? = some position) :
    Exec.Leaves R (InitPrefix.create curve ctx programId instructionsSysvar position adapterState
      rentPayer systemProgram) w :=
  Exec.Leaves.bind (hcreates.state hposition) fun _ _ _ => Exec.leaves_pure _

section Leaves

variable {R : Chain → Chain → Prop} [Writes ctx.programId R]

theorem bookTotalShares_leaves {adapterState : Loaded τ} {total value : UInt64} {event : Event} :
    Exec.Leaves R (bookTotalShares ctx adapterState total value event) w := by
  refine Exec.Leaves.bind setReturnData_leaves fun _ _ _ => ?_
  exact Exec.Leaves.bind emit_leaves fun _ _ _ => store_leaves

theorem depositWith_leaves {accounts : FundPrefix τ} {amount : UInt64} {adapterData : Bytes}
    {mint : Exec Chain UInt64} (hmint : ∀ {w}, Exec.Leaves R mint w) :
    Exec.Leaves R (depositWith ctx accounts amount adapterData mint) w := by
  refine Exec.Leaves.bind_require fun _ => ?_
  refine Exec.Leaves.bind_ofExcept fun _ _ => ?_
  refine Exec.Leaves.bind hmint fun _ _ _ => ?_
  exact Exec.Leaves.bind_ofOption fun _ _ => bookTotalShares_leaves

theorem withdrawWith_leaves {accounts : FundPrefix τ} {shares : UInt64}
    {remaining : Option UInt64} {redeem : Exec Chain UInt64}
    (hredeem : ∀ {w}, Exec.Leaves R redeem w) :
    Exec.Leaves R (withdrawWith ctx accounts shares remaining redeem) w := by
  refine Exec.Leaves.bind hredeem fun _ _ _ => ?_
  exact Exec.Leaves.bind_ofOption fun _ _ => bookTotalShares_leaves

theorem initializeWith_leaves {accounts : InitPrefix} {adapterData : Bytes}
    {call : Exec Chain Unit} {state : AdapterStateHeader → τ}
    (hcall : ∀ {w}, Exec.Leaves R call w) :
    Exec.Leaves R (initializeWith ctx accounts adapterData call state) w := by
  refine Exec.Leaves.bind_ofExcept fun _ _ => ?_
  refine Exec.Leaves.bind hcall fun _ _ _ => ?_
  exact Exec.Leaves.bind_read store_leaves

theorem reportValueWith_leaves {accounts : ValuePrefix τ} {adapterData : Bytes}
    {price : Exec Chain (UInt64 × UInt64)} (hprice : ∀ {w}, Exec.Leaves R price w) :
    Exec.Leaves R (reportValueWith ctx accounts adapterData price) w := by
  refine Exec.Leaves.bind_ofExcept fun _ _ => ?_
  refine Exec.Leaves.bind hprice fun _ _ _ => ?_
  exact Exec.Leaves.bind setReturnData_leaves fun _ _ _ => emit_leaves

/-! A handler loads its accounts before it runs the template on them. -/

variable {α : Type} {adapterData : Bytes}

theorem initializing_leaves {load : Exec Chain α} {toPrefix : α → InitPrefix}
    {call : α → Exec Chain Unit} {state : α → AdapterStateHeader → τ}
    (hload : Exec.Leaves R load w) (hcall : ∀ accounts {w}, Exec.Leaves R (call accounts) w) :
    Exec.Leaves R (load >>= fun accounts => initializeWith ctx (toPrefix accounts) adapterData
      (call accounts) (state accounts)) w :=
  Exec.Leaves.bind hload fun accounts _ _ => initializeWith_leaves (hcall accounts)

theorem depositing_leaves {load : Chain → Except Error α} {toPrefix : α → FundPrefix τ}
    {mint : α → Exec Chain UInt64} {amount : UInt64}
    (hmint : ∀ accounts {w}, Exec.Leaves R (mint accounts) w) :
    Exec.Leaves R (Exec.read >>= fun w => Exec.ofExcept (load w) >>= fun accounts =>
      depositWith ctx (toPrefix accounts) amount adapterData (mint accounts)) w := by
  refine Exec.Leaves.bind_read ?_
  exact Exec.Leaves.bind_ofExcept fun accounts _ => depositWith_leaves (hmint accounts)

theorem withdrawing_leaves {load : Chain → Except Error α} {toPrefix : α → FundPrefix τ}
    {guards : α → Except Error Unit} {remaining : α → Option UInt64}
    {redeem : α → Exec Chain UInt64} {shares : UInt64}
    (hredeem : ∀ accounts {w}, Exec.Leaves R (redeem accounts) w) :
    Exec.Leaves R (Exec.read >>= fun w => Exec.ofExcept (load w) >>= fun accounts =>
      Exec.ofExcept (guards accounts) >>= fun _ =>
        withdrawWith ctx (toPrefix accounts) shares (remaining accounts) (redeem accounts)) w := by
  refine Exec.Leaves.bind_read ?_
  refine Exec.Leaves.bind_ofExcept fun accounts _ => ?_
  exact Exec.Leaves.bind_ofExcept fun _ _ => withdrawWith_leaves (hredeem accounts)

theorem valuing_leaves {load : Chain → Except Error α} {toPrefix : α → ValuePrefix τ}
    {price : α → Exec Chain (UInt64 × UInt64)}
    (hprice : ∀ accounts {w}, Exec.Leaves R (price accounts) w) :
    Exec.Leaves R (Exec.read >>= fun w => Exec.ofExcept (load w) >>= fun accounts =>
      reportValueWith ctx (toPrefix accounts) adapterData (price accounts)) w := by
  refine Exec.Leaves.bind_read ?_
  exact Exec.Leaves.bind_ofExcept fun accounts _ => reportValueWith_leaves (hprice accounts)

end Leaves

/-- A completed initialisation made its protocol calls and wrote an empty ledger. -/
theorem initializeWith_ok {accounts : InitPrefix} {adapterData : Bytes} {call : Exec Chain Unit}
    {state : AdapterStateHeader → τ}
    (h : initializeWith ctx accounts adapterData call state w = (.ok (), w')) :
    guardCall ctx accounts.instructionsSysvar adapterData = .ok () ∧
      ∃ w₁, call w = (.ok (), w₁) ∧
        w₁.ownedBy ctx.programId accounts.adapterState.key = true ∧
        w' = w₁.put accounts.adapterState.key ⟨ctx.programId, false, .anchor (AnchorState.encode
          (state
            { position := accounts.position.key
              adapterProgram := crateId τ
              createdAt := w₁.clock.unixTimestamp
              totalShares := 0 }))⟩ := by
  simp only [initializeWith, Exec.bind_ok, Exec.ofExcept_ok, Exec.read_ok, store_ok] at h
  obtain ⟨_, _, ⟨hguard, rfl⟩, _, w₁, hcall, _, _, ⟨rfl, rfl⟩, howned, rfl⟩ := h
  exact ⟨hguard, _, hcall, howned, rfl⟩

/-- A completed value read reported what the pricing gave, and changed no account
after it. -/
theorem reportValueWith_ok {accounts : ValuePrefix τ} {adapterData : Bytes}
    {price : Exec Chain (UInt64 × UInt64)}
    (h : reportValueWith ctx accounts adapterData price w = (.ok (), w')) :
    guardCall ctx accounts.instructionsSysvar adapterData = .ok () ∧
      ∃ value asOfSlot w₁, price w = (.ok (value, asOfSlot), w₁) ∧
        w' = { w₁ with
          returnData := (ctx.programId, leBytes64 value)
          events := (ctx.programId, .adapterValue
            (AdapterAccount.header accounts.adapterState.data).position value asOfSlot) ::
              w₁.events } := by
  simp only [reportValueWith, setU64Return, setReturnData, emit, Exec.bind_ok, Exec.ofExcept_ok,
    Exec.modify_ok] at h
  obtain ⟨_, _, ⟨hguard, rfl⟩, ⟨value, asOfSlot⟩, w₁, hprice, _, _, rfl, rfl⟩ := h
  exact ⟨hguard, value, asOfSlot, w₁, hprice, rfl⟩

end Rules

/-! ### What a completed instruction did -/

/-- The outcomes of an adapter's instruction that completed. Between the world it
started in and the one its result was booked in lie only calls of `exec` and
benign steps; `remaining` is what a withdrawal leaves of the ledger. -/
inductive Completed (τ : Type) [AdapterAccount τ] (remaining : UInt64 → UInt64 → Option UInt64)
    (curve : Curve) (exec : Callee ProgramState Event) (ctx : Context) (w : Chain) :
    AdapterInstruction → Chain → Prop
  | initialized {adapterData : Bytes} {accounts : InitPrefix} {tail : List AccountInfo}
      {state : AdapterStateHeader → τ} {w₁ : Chain}
      (slots : ctx.accounts = accounts.instructionsSysvar :: accounts.position ::
        accounts.adapterState :: accounts.rentPayer :: accounts.systemProgram :: tail)
      (guarded : guardCall ctx accounts.instructionsSysvar adapterData = .ok ())
      (seeds : findProgramAddress curve ctx.programId
        (adapterStateSeeds (crateId τ) accounts.position.key) =
          some (accounts.adapterState.key, accounts.bump))
      (vacant : w.accounts accounts.adapterState.key = none)
      (header : ∀ h, AdapterAccount.header (state h) = h)
      (bump : ∀ h, AdapterAccount.bump (state h) = accounts.bump)
      (calls : Foreign exec ctx ctx.Signer w w₁)
      (owned : w₁.ownedBy ctx.programId accounts.adapterState.key = true) :
      Completed τ remaining curve exec ctx w (.init adapterData)
        (w₁.put accounts.adapterState.key ⟨ctx.programId, false, .anchor (AnchorState.encode
          (state
            { position := accounts.position.key
              adapterProgram := crateId τ
              createdAt := w₁.clock.unixTimestamp
              totalShares := 0 }))⟩)
  | deposited {amount sharesMinted total : UInt64} {adapterData : Bytes}
      {accounts : FundPrefix τ} {tail : List AccountInfo} {w₁ : Chain}
      (slots : ctx.accounts = accounts.instructionsSysvar :: accounts.position ::
        accounts.positionUsdcPool.info :: accounts.adapterState.info :: tail)
      (guarded : guardCall ctx accounts.instructionsSysvar adapterData = .ok ())
      (accepted : accounts.Accepted curve ctx w)
      (positive : 0 < amount)
      (calls : Foreign exec ctx ctx.Signer w w₁)
      (booked : total.toNat =
        (AdapterAccount.header accounts.adapterState.data).totalShares.toNat + sharesMinted.toNat)
      (owned : w₁.ownedBy ctx.programId accounts.adapterState.key = true) :
      Completed τ remaining curve exec ctx w (.deposit amount adapterData)
        (bookedWorld ctx accounts.adapterState total sharesMinted
          (.adapterDeposit (AdapterAccount.header accounts.adapterState.data).position amount
            sharesMinted) w₁)
  | withdrawn {shares amountOut total : UInt64} {adapterData : Bytes}
      {accounts : FundPrefix τ} {tail : List AccountInfo} {pool : TokenAccount} {w₁ : Chain}
      (slots : ctx.accounts = accounts.instructionsSysvar :: accounts.position ::
        accounts.positionUsdcPool.info :: accounts.adapterState.info :: tail)
      (guarded : guardCall ctx accounts.instructionsSysvar adapterData = .ok ())
      (accepted : accounts.Accepted curve ctx w)
      (positive : 0 < shares)
      (calls : Foreign exec ctx ctx.Signer w w₁)
      (stored : w₁.token? accounts.positionUsdcPool.key = some pool)
      (measured : pool.amount.toNat =
        amountOut.toNat + accounts.positionUsdcPool.data.amount.toNat)
      (booked : remaining (AdapterAccount.header accounts.adapterState.data).totalShares shares =
        some total)
      (owned : w₁.ownedBy ctx.programId accounts.adapterState.key = true) :
      Completed τ remaining curve exec ctx w (.withdraw shares adapterData)
        (bookedWorld ctx accounts.adapterState total amountOut
          (.adapterWithdraw (AdapterAccount.header accounts.adapterState.data).position shares
            amountOut) w₁)
  | valued {value asOfSlot : UInt64} {adapterData : Bytes} {accounts : ValuePrefix τ}
      {tail : List AccountInfo} {w₁ : Chain}
      (slots : ctx.accounts = accounts.instructionsSysvar :: accounts.position ::
        accounts.adapterState.info :: tail)
      (guarded : guardCall ctx accounts.instructionsSysvar adapterData = .ok ())
      (accepted : accounts.Accepted curve ctx w)
      (calls : Foreign exec ctx ctx.Signer w w₁) :
      Completed τ remaining curve exec ctx w (.currentValue adapterData)
        { w₁ with
          returnData := (ctx.programId, leBytes64 value)
          events := (ctx.programId, .adapterValue
            (AdapterAccount.header accounts.adapterState.data).position value asOfSlot) ::
              w₁.events }

/-- The slot of `adapter_state`. -/
def AdapterInstruction.stateSlot : AdapterInstruction → Nat
  | .init _ | .currentValue _ => 2
  | .deposit _ _ | .withdraw _ _ => 3

section Completion

variable {curve : Curve} {exec : Callee ProgramState Event} {ctx : Context} {w w' : Chain}
variable {remaining : UInt64 → UInt64 → Option UInt64} {tail : List AccountInfo}

theorem Completed.of_deposit {accounts : FundPrefix τ} {amount : UInt64} {adapterData : Bytes}
    {mint : Exec Chain UInt64}
    (slots : ctx.accounts = accounts.instructionsSysvar :: accounts.position ::
      accounts.positionUsdcPool.info :: accounts.adapterState.info :: tail)
    (accepted : accounts.Accepted curve ctx w)
    (hmint : Exec.Leaves (Foreign exec ctx ctx.Signer) mint w)
    (h : depositWith ctx accounts amount adapterData mint w = (.ok (), w')) :
    Completed τ remaining curve exec ctx w (.deposit amount adapterData) w' := by
  obtain ⟨positive, guarded, sharesMinted, total, w₁, hrun, booked, owned, rfl⟩ :=
    depositWith_ok h
  exact .deposited slots guarded accepted positive (hmint.of_ok hrun) booked owned

theorem Completed.of_withdraw {accounts : FundPrefix τ} {shares : UInt64} {adapterData : Bytes}
    {redeem : Exec Chain UInt64}
    (slots : ctx.accounts = accounts.instructionsSysvar :: accounts.position ::
      accounts.positionUsdcPool.info :: accounts.adapterState.info :: tail)
    (accepted : accounts.Accepted curve ctx w)
    (positive : 0 < shares)
    (guarded : guardCall ctx accounts.instructionsSysvar adapterData = .ok ())
    (hredeem : Exec.Leaves (Foreign exec ctx ctx.Signer) redeem w)
    (hmeasured : ∀ amountOut w₁, redeem w = (.ok amountOut, w₁) →
      ∃ pool, w₁.token? accounts.positionUsdcPool.key = some pool ∧
        pool.amount.toNat = amountOut.toNat + accounts.positionUsdcPool.data.amount.toNat)
    (h : withdrawWith ctx accounts shares
      (remaining (AdapterAccount.header accounts.adapterState.data).totalShares shares) redeem w =
        (.ok (), w')) :
    Completed τ remaining curve exec ctx w (.withdraw shares adapterData) w' := by
  obtain ⟨amountOut, total, w₁, hrun, booked, owned, rfl⟩ := withdrawWith_ok h
  obtain ⟨pool, stored, measured⟩ := hmeasured amountOut w₁ hrun
  exact .withdrawn slots guarded accepted positive (hredeem.of_ok hrun) stored measured booked
    owned

theorem Completed.of_init {accounts : InitPrefix} {adapterData : Bytes} {call : Exec Chain Unit}
    {state : AdapterStateHeader → τ} {w₀ : Chain}
    (slots : ctx.accounts = accounts.instructionsSysvar :: accounts.position ::
      accounts.adapterState :: accounts.rentPayer :: accounts.systemProgram :: tail)
    (seeds : findProgramAddress curve ctx.programId
      (adapterStateSeeds (crateId τ) accounts.position.key) =
        some (accounts.adapterState.key, accounts.bump))
    (vacant : w.accounts accounts.adapterState.key = none)
    (header : ∀ h, AdapterAccount.header (state h) = h)
    (bump : ∀ h, AdapterAccount.bump (state h) = accounts.bump)
    (hcreated : Foreign exec ctx ctx.Signer w w₀)
    (hcall : Exec.Leaves (Foreign exec ctx ctx.Signer) call w₀)
    (h : initializeWith ctx accounts adapterData call state w₀ = (.ok (), w')) :
    Completed τ remaining curve exec ctx w (.init adapterData) w' := by
  obtain ⟨guarded, w₁, hrun, owned, rfl⟩ := initializeWith_ok h
  exact .initialized slots guarded seeds vacant header bump
    (trans_of _ hcreated (hcall.of_ok hrun)) owned

theorem Completed.of_value {accounts : ValuePrefix τ} {adapterData : Bytes}
    {price : Exec Chain (UInt64 × UInt64)}
    (slots : ctx.accounts = accounts.instructionsSysvar :: accounts.position ::
      accounts.adapterState.info :: tail)
    (accepted : accounts.Accepted curve ctx w)
    (hprice : Exec.Leaves (Foreign exec ctx ctx.Signer) price w)
    (h : reportValueWith ctx accounts adapterData price w = (.ok (), w')) :
    Completed τ remaining curve exec ctx w (.currentValue adapterData) w' := by
  obtain ⟨guarded, value, asOfSlot, w₁, hrun, rfl⟩ := reportValueWith_ok h
  exact .valued slots guarded accepted (hprice.of_ok hrun)

/-! The same for a handler, from what its accounts have passed when they are loaded. -/

section Handlers

variable {α : Type} {adapterData : Bytes}

theorem Completed.of_initializing {load : Exec Chain α} {toPrefix : α → InitPrefix}
    {call : α → Exec Chain Unit} {state : α → AdapterStateHeader → τ}
    (hload : ∀ {accounts w₀}, load w = (.ok accounts, w₀) →
      (∃ tail, ctx.accounts = (toPrefix accounts).instructionsSysvar ::
        (toPrefix accounts).position :: (toPrefix accounts).adapterState ::
          (toPrefix accounts).rentPayer :: (toPrefix accounts).systemProgram :: tail) ∧
      findProgramAddress curve ctx.programId
        (adapterStateSeeds (crateId τ) (toPrefix accounts).position.key) =
          some ((toPrefix accounts).adapterState.key, (toPrefix accounts).bump) ∧
      w.accounts (toPrefix accounts).adapterState.key = none)
    (hcreated : Exec.Leaves (Foreign exec ctx ctx.Signer) load w)
    (hcall : ∀ accounts {w}, Exec.Leaves (Foreign exec ctx ctx.Signer) (call accounts) w)
    (header : ∀ accounts h, AdapterAccount.header (state accounts h) = h)
    (bump : ∀ accounts h, AdapterAccount.bump (state accounts h) = (toPrefix accounts).bump)
    (h : (load >>= fun accounts => initializeWith ctx (toPrefix accounts) adapterData
      (call accounts) (state accounts)) w = (.ok (), w')) :
    Completed τ remaining curve exec ctx w (.init adapterData) w' := by
  obtain ⟨accounts, w₀, haccounts, hrun⟩ := Exec.bind_ok.mp h
  obtain ⟨⟨tail, slots⟩, seeds, vacant⟩ := hload haccounts
  exact .of_init slots seeds vacant (header accounts) (bump accounts) (hcreated.of_ok haccounts)
    (hcall accounts) hrun

theorem Completed.of_depositing {load : Chain → Except Error α} {toPrefix : α → FundPrefix τ}
    {mint : α → Exec Chain UInt64} {amount : UInt64}
    (hload : ∀ {accounts}, load w = .ok accounts →
      (∃ tail, ctx.accounts = (toPrefix accounts).instructionsSysvar ::
        (toPrefix accounts).position :: (toPrefix accounts).positionUsdcPool.info ::
          (toPrefix accounts).adapterState.info :: tail) ∧
      (toPrefix accounts).Accepted curve ctx w)
    (hmint : ∀ accounts {w}, Exec.Leaves (Foreign exec ctx ctx.Signer) (mint accounts) w)
    (h : (Exec.read >>= fun w => Exec.ofExcept (load w) >>= fun accounts =>
      depositWith ctx (toPrefix accounts) amount adapterData (mint accounts)) w = (.ok (), w')) :
    Completed τ remaining curve exec ctx w (.deposit amount adapterData) w' := by
  simp only [Exec.bind_ok, Exec.read_ok, Exec.ofExcept_ok] at h
  obtain ⟨_, _, ⟨rfl, rfl⟩, accounts, _, ⟨haccounts, rfl⟩, hrun⟩ := h
  obtain ⟨⟨tail, slots⟩, accepted⟩ := hload haccounts
  exact .of_deposit slots accepted (hmint accounts) hrun

theorem Completed.of_withdrawing {load : Chain → Except Error α} {toPrefix : α → FundPrefix τ}
    {redeem : α → Exec Chain UInt64} {shares : UInt64}
    (hload : ∀ {accounts}, load w = .ok accounts →
      (∃ tail, ctx.accounts = (toPrefix accounts).instructionsSysvar ::
        (toPrefix accounts).position :: (toPrefix accounts).positionUsdcPool.info ::
          (toPrefix accounts).adapterState.info :: tail) ∧
      (toPrefix accounts).Accepted curve ctx w)
    (hredeem : ∀ accounts {w}, Exec.Leaves (Foreign exec ctx ctx.Signer) (redeem accounts) w)
    (hmeasured : ∀ {accounts amountOut w₁}, redeem accounts w = (.ok amountOut, w₁) →
      ∃ pool, w₁.token? (toPrefix accounts).positionUsdcPool.key = some pool ∧ pool.amount.toNat =
        amountOut.toNat + (toPrefix accounts).positionUsdcPool.data.amount.toNat)
    (h : (Exec.read >>= fun w => Exec.ofExcept (load w) >>= fun accounts =>
      Exec.ofExcept (withdrawGuards ctx (toPrefix accounts) shares adapterData) >>= fun _ =>
        withdrawWith ctx (toPrefix accounts) shares
          (remaining (AdapterAccount.header (toPrefix accounts).adapterState.data).totalShares
            shares) (redeem accounts)) w = (.ok (), w')) :
    Completed τ remaining curve exec ctx w (.withdraw shares adapterData) w' := by
  simp only [Exec.bind_ok, Exec.read_ok, Exec.ofExcept_ok, withdrawGuards_ok] at h
  obtain ⟨_, _, ⟨rfl, rfl⟩, accounts, _, ⟨haccounts, rfl⟩, _, _, ⟨⟨positive, -, guarded⟩, rfl⟩,
    hrun⟩ := h
  obtain ⟨⟨tail, slots⟩, accepted⟩ := hload haccounts
  exact .of_withdraw slots accepted positive guarded (hredeem accounts) (fun _ _ => hmeasured) hrun

theorem Completed.of_valuing {load : Chain → Except Error α} {toPrefix : α → ValuePrefix τ}
    {price : α → Exec Chain (UInt64 × UInt64)}
    (hload : ∀ {accounts}, load w = .ok accounts →
      (∃ tail, ctx.accounts = (toPrefix accounts).instructionsSysvar ::
        (toPrefix accounts).position :: (toPrefix accounts).adapterState.info :: tail) ∧
      (toPrefix accounts).Accepted curve ctx w)
    (hprice : ∀ accounts {w}, Exec.Leaves (Foreign exec ctx ctx.Signer) (price accounts) w)
    (h : (Exec.read >>= fun w => Exec.ofExcept (load w) >>= fun accounts =>
      reportValueWith ctx (toPrefix accounts) adapterData (price accounts)) w = (.ok (), w')) :
    Completed τ remaining curve exec ctx w (.currentValue adapterData) w' := by
  simp only [Exec.bind_ok, Exec.read_ok, Exec.ofExcept_ok] at h
  obtain ⟨_, _, ⟨rfl, rfl⟩, accounts, _, ⟨haccounts, rfl⟩, hrun⟩ := h
  obtain ⟨⟨tail, slots⟩, accepted⟩ := hload haccounts
  exact .of_value slots accepted (hprice accounts) hrun

end Handlers

/-- A completed instruction was handed the state account this program derives for the
position it was handed. -/
theorem Completed.state_derived {ix : AdapterInstruction}
    (h : Completed τ remaining curve exec ctx w ix w') :
    ∃ position bump, ctx.accounts[1]?.map (·.key) = some position ∧
      ctx.accounts[ix.stateSlot]?.map (·.key) =
        some (.pda ctx.programId (adapterStateSeeds (crateId τ) position) bump) := by
  cases h with
  | @initialized _ accounts _ _ _ slots guarded seeds =>
    refine ⟨accounts.position.key, accounts.bump, by simp [slots], ?_⟩
    simp [AdapterInstruction.stateSlot, slots, findProgramAddress_eq_pda seeds]
  | @deposited _ _ _ _ accounts _ _ slots guarded accepted =>
    have hkey := (createProgramAddress_eq_some.mp accepted.seeds).2
    exact ⟨accounts.position.key, AdapterAccount.bump accounts.adapterState.data, by simp [slots],
      by simp [AdapterInstruction.stateSlot, slots, ← hkey]⟩
  | @withdrawn _ _ _ _ accounts _ _ _ slots guarded accepted =>
    have hkey := (createProgramAddress_eq_some.mp accepted.seeds).2
    exact ⟨accounts.position.key, AdapterAccount.bump accounts.adapterState.data, by simp [slots],
      by simp [AdapterInstruction.stateSlot, slots, ← hkey]⟩
  | @valued _ _ _ accounts _ _ slots guarded accepted =>
    have hkey := (createProgramAddress_eq_some.mp accepted.seeds).2
    exact ⟨accounts.position.key, AdapterAccount.bump accounts.adapterState.data, by simp [slots],
      by simp [AdapterInstruction.stateSlot, slots, ← hkey]⟩

/-- A completed instruction moves along whatever its own writes and its calls do. -/
theorem Completed.within {R : Chain → Chain → Prop} [hR : Permits ctx.programId R]
    {ix : AdapterInstruction} (hexec : Respects R ctx ctx.Signer exec)
    (h : Completed τ remaining curve exec ctx w ix w') : R w w' := by
  -- reporting, announcing and writing back are the program's own steps
  have hbooked : ∀ (adapterState : Loaded τ) (total value : UInt64) (event : Event) (w₁ : Chain),
      w₁.ownedBy ctx.programId adapterState.key = true →
        R w₁ (bookedWorld ctx adapterState total value event w₁) := by
    intro adapterState total value event w₁ howned
    have hreturned : R w₁ { w₁ with returnData := (ctx.programId, leBytes64 value) } :=
      hR.settled rfl rfl
    have hemitted := hR.emitted { w₁ with returnData := (ctx.programId, leBytes64 value) } event
    exact trans_of R hreturned (trans_of R hemitted (hR.written howned))
  cases h with
  | initialized slots guarded seeds vacant header bump calls owned =>
    exact trans_of R (calls R inferInstance hexec) (hR.written owned)
  | deposited slots guarded accepted positive calls booked owned =>
    exact trans_of R (calls R inferInstance hexec) (hbooked _ _ _ _ _ owned)
  | withdrawn slots guarded accepted positive calls stored measured booked owned =>
    exact trans_of R (calls R inferInstance hexec) (hbooked _ _ _ _ _ owned)
  | @valued value asOfSlot adapterData accounts tail w₁ slots guarded accepted calls =>
    have hreturned : R w₁ { w₁ with returnData := (ctx.programId, leBytes64 value) } :=
      hR.settled rfl rfl
    exact trans_of R (calls R inferInstance hexec) (trans_of R hreturned (hR.emitted _ _))

end Completion

end YieldAdapter

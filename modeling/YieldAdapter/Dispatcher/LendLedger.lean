import Mathlib.Algebra.BigOperators.Group.List.Basic
import YieldAdapter.Dispatcher.Shares
import YieldAdapter.Adapter.BalanceScan
import YieldAdapter.Adapter.Binding

/-!
# The MarginFi ledger and the way out

The ledger books the principal, and the balance behind it moves with the market. Which of
two withdrawals is asked of MarginFi, so many USDC or everything, is decided on the ledger
alone: everything, once what is asked for reaches what is booked. So the ledger is empty only
when the balance is closed, and however the principal is taken out, it is the last withdrawal
and no other that takes the interest along.
-/

set_option autoImplicit false

namespace YieldAdapter.MarginfiUsdc

open Solana

/-! ### What MarginFi does with a balance -/

/-- `marginfi_account_initialize_pda`, as the adapter issues it. -/
def initAccountInstruction (mfi group account authority feePayer instructionsSysvar systemProgram :
    Pubkey) : Instruction where
  programId := mfi
  accounts :=
    [.newReadonly group false, .new account false, .newReadonly authority true,
      .new feePayer true, .newReadonly instructionsSysvar false, .newReadonly systemProgram false]
  data := .bytes (mfiInitPda ++ leBytes 2 0 ++ [0])

/-- The data of `lending_account_withdraw`. -/
def withdrawData (amount : UInt64) (withdrawAll : Bool) : Bytes :=
  mfiWithdraw ++ leBytes64 amount ++ [1, if withdrawAll then 1 else 0]

/-- `lending_account_withdraw`, as the adapter issues it. -/
def withdrawInstruction (mfi group account authority bank destination vaultAuthority vault
    tokenProgram oracle : Pubkey) (amount : UInt64) (withdrawAll : Bool) : Instruction where
  programId := mfi
  accounts :=
    [.newReadonly group false, .new account false, .newReadonly authority true, .new bank false,
      .new destination false, .newReadonly vaultAuthority false, .new vault false,
      .newReadonly tokenProgram false, .newReadonly bank false, .newReadonly oracle false]
  data := .bytes (withdrawData amount withdrawAll)

/-- The token account at `destination` gained `amount`. -/
def Gains (destination : Pubkey) (amount : Nat) (w w' : Chain) : Prop :=
  ∃ t t', w.token? destination = some t ∧ w'.token? destination = some t' ∧
    t'.amount.toNat = t.amount.toNat + amount

section Balances

variable (layout : Layout ProgramState) (balance : Bytes → Bytes → Bytes → Nat)

/-- The USDC that `account` has in `bank`. -/
def balanceAt (account bank : Pubkey) (w : Chain) : Nat :=
  balance (w.bytes layout account) (layout.key bank).toList (w.bytes layout bank)

/-- The USDC that the position has with MarginFi. -/
def AdapterState.worth (s : AdapterState) (w : Chain) : Nat :=
  balanceAt layout balance s.marginfiAccount s.bank w

/-- The account holds no shares of the bank. -/
def ClosedAt (account bank : Pubkey) (w : Chain) : Prop :=
  accountAssetShares (w.bytes layout account) (layout.key bank).toList = .ok 0

/-- The position's balance is closed. -/
def AdapterState.Closed (s : AdapterState) (w : Chain) : Prop :=
  ClosedAt layout s.marginfiAccount s.bank w

/-- What is relied on of the program `mfi`, which owns the accounts that its instructions
complete on. `balance` is its measure, in USDC, of an account in a bank. A new account has no
balances, a withdrawal pays out of the balance what it was asked for, and one of everything
pays out the balance and closes it. -/
structure Lending (mfi : Pubkey) (exec : Callee ProgramState Event) : Prop where
  empty : ∀ acctData bank bankData,
    accountAssetShares acctData bank = .ok 0 → balance acctData bank bankData = 0
  opened : ∀ (call : Call) (w w' : Chain)
    (group account authority feePayer instructionsSysvar systemProgram : Pubkey),
    call.instruction = initAccountInstruction mfi group account authority feePayer
      instructionsSysvar systemProgram → exec call w = some w' →
        w'.ownedBy mfi account = true ∧ ∀ bank, ClosedAt layout account bank w'
  removed : ∀ (call : Call) (w w' : Chain)
    (group account authority bank destination vaultAuthority vault tokenProgram oracle : Pubkey)
    (amount : UInt64),
    call.instruction = withdrawInstruction mfi group account authority bank destination
      vaultAuthority vault tokenProgram oracle amount false → exec call w = some w' →
        w'.ownedBy mfi account = true ∧ w'.ownedBy mfi bank = true ∧
          Gains destination amount.toNat w w' ∧
            balanceAt layout balance account bank w =
              balanceAt layout balance account bank w' + amount.toNat
  closed : ∀ (call : Call) (w w' : Chain)
    (group account authority bank destination vaultAuthority vault tokenProgram oracle : Pubkey)
    (amount : UInt64),
    call.instruction = withdrawInstruction mfi group account authority bank destination
      vaultAuthority vault tokenProgram oracle amount true → exec call w = some w' →
        w'.ownedBy mfi account = true ∧ ClosedAt layout account bank w' ∧
          Gains destination (balanceAt layout balance account bank w) w w'

end Balances

/-! ### Runs on one position -/

/-- A step of the position's. A deposit was credited so much by MarginFi, a withdrawal asked
for everything or not and brought so much to the USDC pool, and in between the balance
drifts. -/
inductive Move where
  | deposit (amount : UInt64) (credited : Int)
  | withdraw (shares : UInt64) (withdrawAll : Bool) (paid : Nat)
  | wait (drift : Int)

namespace Move

/-- The shares that a withdrawal took from the ledger. -/
def asked : Move → Nat
  | .withdraw shares _ _ => shares.toNat
  | _ => 0

/-- What a withdrawal brought. -/
def paid : Move → Nat
  | .withdraw _ _ paid => paid
  | _ => 0

/-- What was added to the balance, by a deposit or by the market. -/
def gained : Move → Int
  | .deposit _ credited => credited
  | .withdraw _ _ _ => 0
  | .wait drift => drift

/-- Whether a withdrawal asked for everything. -/
def withdrawAll? : Move → Option Bool
  | .withdraw _ withdrawAll _ => some withdrawAll
  | _ => none

def isDeposit : Move → Bool
  | .deposit _ _ => true
  | _ => false

end Move

section Moves

variable (curve : Curve) (exec : Callee ProgramState Event) (layout : Layout ProgramState)
variable (balance : Bytes → Bytes → Bytes → Nat) (mfi key : Pubkey)

/-- The instruction is for the state account at `key`, and calls `mfi`. -/
structure Calls (ctx : Context) : Prop where
  program : ctx.programId = programId
  state : ctx.accounts[3]?.map (·.key) = some key
  marginfi : ctx.accounts[4]?.map (·.key) = some mfi

/-- The state account at `key` was just initialized over the program `mfi`. -/
def Initialized (w : Chain) : Prop :=
  ∃ ctx data w₀, ctx.programId = programId ∧ ctx.accounts[2]?.map (·.key) = some key ∧
    ctx.accounts[5]?.map (·.key) = some mfi ∧
      adapterInitialize curve exec ctx data w₀ = (.ok (), w)

/-- The call of `mfi` on record asked for everything. -/
def askedAll (w : Chain) (shares : UInt64) : Bool :=
  w.calls.any fun call => call.instruction.data = .bytes (withdrawData shares true)

/-- One step of a run on the state account at `key`: a completed deposit or withdrawal, or
anything else, which leaves the state account alone and a closed balance closed but may take
an open one anywhere. -/
inductive LendStep : Chain → Move → Chain → Prop
  | deposit {w w' : Chain} {ctx : Context} {data adapterData : Bytes} {amount : UInt64}
      {credited : Int} (hcalls : Calls mfi key ctx)
      (hdecode : AdapterInstruction.decode data = .ok (.deposit amount adapterData))
      (hdone : entry curve exec ctx layout data w.fresh = (.ok (), w'))
      (hcredited : ∀ s, w.state? AdapterState key = some s →
        s.worth layout balance w' = s.worth layout balance w + credited) :
      LendStep w (.deposit amount credited) w'
  | withdraw {w w' : Chain} {ctx : Context} {data adapterData : Bytes} {shares : UInt64}
      {pool : Pubkey} {paid : Nat} (hcalls : Calls mfi key ctx)
      (hdecode : AdapterInstruction.decode data = .ok (.withdraw shares adapterData))
      (hdone : entry curve exec ctx layout data w.fresh = (.ok (), w'))
      (hpool : ctx.accounts[2]?.map (·.key) = some pool) (hpaid : Gains pool paid w w') :
      LendStep w (.withdraw shares (askedAll w' shares) paid) w'
  | wait {w w' : Chain} {drift : Int}
      (hstate : w'.state? AdapterState key = w.state? AdapterState key)
      (hclosed : ∀ s, w.state? AdapterState key = some s → s.Closed layout w → s.Closed layout w')
      (hdrift : ∀ s, w.state? AdapterState key = some s →
        s.worth layout balance w' = s.worth layout balance w + drift) :
      LendStep w (.wait drift) w'

end Moves

/-! ### What a step does to the ledger and to the balance -/

section Steps

variable {curve : Curve} {exec : Callee ProgramState Event} {layout : Layout ProgramState}
variable {balance : Bytes → Bytes → Bytes → Nat} {mfi key : Pubkey} {ctx : Context}
variable {w w' : Chain} {data : Bytes} {s : AdapterState}

theorem AdapterInitialize.program_of_tryAccounts {accounts : AdapterInitialize}
    (h : AdapterInitialize.tryAccounts curve ctx w = (.ok accounts, w')) :
    ctx.accounts[5]?.map (·.key) = some accounts.marginfiProgram.key := by
  generalize hx : AdapterInitialize.tryAccounts curve ctx = x at h
  unfold AdapterInitialize.tryAccounts at hx
  split at hx <;> subst hx
  · rename_i hlist
    simp only [Exec.bind_ok, Exec.read_ok, Exec.ofExcept_ok, Exec.pure_ok] at h
    obtain ⟨_, _, ⟨rfl, rfl⟩, _, _, ⟨-, rfl⟩, _, _, ⟨-, rfl⟩, slots, _, -, _, _, -, _, _, -,
      _, _, -, rfl, -⟩ := h
    rw [hlist]
    rfl
  · simp at h

/-- A withdrawal calls the program it was handed, on the account and the bank that the state
account pins. -/
theorem AdapterWithdraw.pinned_of_tryAccounts {accounts : AdapterWithdraw}
    (h : AdapterWithdraw.tryAccounts curve ctx w = .ok accounts) :
    ctx.accounts[4]?.map (·.key) = some accounts.marginfiProgram.key ∧
      accounts.marginfiAccount.key = accounts.adapterState.data.marginfiAccount ∧
        accounts.bank.key = accounts.adapterState.data.bank := by
  unfold AdapterWithdraw.tryAccounts at h
  split at h
  · rename_i hlist
    simp only [except_bind_ok, FundPrefix.load_ok, checkAddress_ok] at h
    obtain ⟨slots, ⟨-, -, -, -, -⟩, _, -, _, -, _, -, _, -, _, haccount, _, -, _, hbank, _, -,
      hpure⟩ := h
    obtain rfl := Except.ok.inj hpure
    rw [hlist]
    exact ⟨rfl, haccount, hbank⟩
  · simp [throw, throwThe, MonadExceptOf.throw] at h

/-- A new ledger is empty, and the balance behind it closed. -/
theorem closed_of_initialize (hlend : Lending layout balance mfi exec) (hne : mfi ≠ programId)
    (hstart : Initialized curve exec mfi key w) :
    ∃ s, w.state? AdapterState key = some s ∧ s.header.totalShares = 0 ∧ s.Closed layout w := by
  obtain ⟨ctx, data, w₀, hprogram, hslot, hcalled, hdone⟩ := hstart
  obtain ⟨accounts, w₁, haccounts, hrun⟩ := Exec.bind_ok.mp hdone
  obtain rfl := Option.some.inj
    ((AdapterInitialize.program_of_tryAccounts haccounts).symm.trans hcalled)
  obtain ⟨⟨_, slots⟩, -, -⟩ := AdapterInitialize.tryAccounts_ok haccounts
  rw [slots] at hslot
  obtain rfl := Option.some.inj hslot
  obtain ⟨-, w₂, hcreate, howned, rfl⟩ := initializeWith_ok hrun
  obtain ⟨wᵢ, w₃, -, hcall, hsame⟩ := invoke_accounts hcreate
  obtain ⟨hkept, hclosed⟩ := hlend.opened _ _ _ _ _ _ _ _ _ rfl hcall
  rw [← World.ownedBy_congr hsame] at hkept
  -- the state account is written last, and it is not MarginFi's
  rw [hprogram] at howned
  have hother := World.ne_of_owners hne hkept howned
  refine ⟨_, World.state?_put_self hprogram, rfl, ?_⟩
  have hempty := hclosed accounts.bank.key
  unfold ClosedAt at hempty
  rw [← World.bytes_congr hsame] at hempty
  simpa [AdapterState.Closed, ClosedAt, World.bytes, hother] using hempty

/-- A deposit adds to the ledger, and to nothing else in the state account. -/
theorem booked_of_deposit (hcalls : Calls mfi key ctx) {amount : UInt64} {adapterData : Bytes}
    (hdecode : AdapterInstruction.decode data = .ok (.deposit amount adapterData))
    (hdone : entry curve exec ctx layout data w.fresh = (.ok (), w'))
    (hstored : w.state? AdapterState key = some s) :
    0 < amount ∧ ∃ total, total.toNat = s.header.totalShares.toNat + amount.toNat ∧
      w'.state? AdapterState key = some (AdapterAccount.setTotalShares s total) := by
  have hrun := Exec.run_of_ofExcept hdecode hdone
  simp only [adapterDeposit, Exec.bind_ok, Exec.read_ok, Exec.ofExcept_ok] at hrun
  obtain ⟨_, _, ⟨rfl, rfl⟩, accounts, _, ⟨haccounts, rfl⟩, hrun⟩ := hrun
  obtain ⟨⟨_, slots⟩, accepted⟩ := AdapterDeposit.tryAccounts_ok haccounts
  have hslot := hcalls.state
  rw [slots] at hslot
  obtain rfl := Option.some.inj hslot
  obtain rfl := Option.some.inj (hstored.symm.trans accepted.state)
  obtain ⟨hpositive, -, shares, total, w₁, hmint, htotal, -, rfl⟩ := depositWith_ok hrun
  simp only [mintShares, Exec.bind_ok, Exec.pure_ok] at hmint
  obtain ⟨_, _, -, rfl, -⟩ := hmint
  exact ⟨hpositive, total, htotal, state?_bookedWorld hcalls.program⟩

/-- An account gains one amount. -/
theorem Gains.unique {destination : Pubkey} {amount amount' : Nat}
    (h : Gains destination amount w w') (h' : Gains destination amount' w w') :
    amount = amount' := by
  obtain ⟨t, t', ht, ht', hgained⟩ := h
  obtain ⟨u, u', hu, hu', hgained'⟩ := h'
  obtain rfl := Option.some.inj (ht.symm.trans hu)
  obtain rfl := Option.some.inj (ht'.symm.trans hu')
  omega

/-- The flag is the last byte of the data. -/
theorem withdrawData_inj {amount : UInt64} {withdrawAll withdrawAll' : Bool} :
    withdrawData amount withdrawAll = withdrawData amount withdrawAll' ↔
      withdrawAll = withdrawAll' := by
  unfold withdrawData
  rw [List.append_cancel_left_eq]
  cases withdrawAll <;> cases withdrawAll' <;> simp

/-- Between the start of a withdrawal and its end lie one call of `mfi`, on the accounts there
were, and the booking, which spares what `mfi` and the Token program own. -/
structure Issued (layout : Layout ProgramState) (mfi key pool : Pubkey) (s : AdapterState)
    (shares : UInt64) (w w' : Chain) (call : Call) (wᵢ w₁ : Chain) : Prop where
  positive : 0 < shares
  instruction : ∃ group authority vaultAuthority vault tokenProgram oracle,
    call.instruction = withdrawInstruction mfi group s.marginfiAccount authority s.bank pool
      vaultAuthority vault tokenProgram oracle shares (decide (s.header.totalShares ≤ shares))
  accounts : wᵢ.accounts = w.accounts
  recorded : w'.calls = [call]
  stored : w'.state? AdapterState key = some (AdapterAccount.setTotalShares s
    (if s.header.totalShares ≤ shares then 0 else s.header.totalShares - shares))
  bytes : ∀ k, w₁.ownedBy mfi k = true → w'.bytes layout k = w₁.bytes layout k
  tokens : ∀ k t, w₁.token? k = some t → w'.token? k = some t
  reported : ∃ amountOut, Gains pool amountOut.toNat w w' ∧
    w'.returnData = (programId, leBytes64 amountOut)

theorem issued_of_withdraw (hne : mfi ≠ programId) (hcalls : Calls mfi key ctx) {shares : UInt64}
    {adapterData : Bytes} {pool : Pubkey}
    (hdecode : AdapterInstruction.decode data = .ok (.withdraw shares adapterData))
    (hdone : entry curve exec ctx layout data w.fresh = (.ok (), w'))
    (hpool : ctx.accounts[2]?.map (·.key) = some pool)
    (hstored : w.state? AdapterState key = some s) :
    ∃ call wᵢ w₁, exec call wᵢ = some w₁ ∧
      Issued layout mfi key pool s shares w w' call wᵢ w₁ := by
  have hrun := Exec.run_of_ofExcept hdecode hdone
  simp only [adapterWithdraw, Exec.bind_ok, Exec.read_ok, Exec.ofExcept_ok, Exec.require_ok] at hrun
  obtain ⟨_, _, ⟨rfl, rfl⟩, accounts, _, ⟨haccounts, rfl⟩, _, _, ⟨hpositive, rfl⟩, _, _,
    ⟨-, rfl⟩, hrun⟩ := hrun
  obtain ⟨hprogramSlot, haccount, hbank⟩ := AdapterWithdraw.pinned_of_tryAccounts haccounts
  obtain rfl := Option.some.inj (hprogramSlot.symm.trans hcalls.marginfi)
  obtain ⟨⟨_, slots⟩, accepted⟩ := AdapterWithdraw.tryAccounts_ok haccounts
  have hslot := hcalls.state
  rw [slots] at hslot hpool
  obtain rfl := Option.some.inj hslot
  obtain rfl := Option.some.inj hpool
  obtain rfl := Option.some.inj (hstored.symm.trans accepted.state)
  -- the redemption ran before the booking, on the state as it was stored
  obtain ⟨amountOut, total, w₁, hredeem, hremains, howned, rfl⟩ := withdrawWith_ok hrun
  rw [remainingShares_eq] at hremains
  obtain rfl := Option.some.inj hremains
  simp only [redeemShares, Exec.bind_ok, measureToken_ok] at hredeem
  obtain ⟨_, w₂, hcall, ⟨t, ht, hgained⟩, rfl⟩ := hredeem
  obtain ⟨-, -, w₃, hexec, rfl⟩ := invoke_ok_iff.mp hcall
  refine ⟨_, _, w₃, hexec, ?_⟩
  -- the booking writes an account of the adapter's, so no token account
  have htoken : ctx.programId ≠ tokenProgramId := by
    rw [hcalls.program]
    decide
  exact
    { positive := hpositive
      instruction := ⟨accounts.marginfiGroup.key, accounts.position.key,
        accounts.bankLiquidityVaultAuthority.key, accounts.liquidityVault.key,
        accounts.tokenProgram.key, accounts.oracle.key, by rw [← haccount, ← hbank]; rfl⟩
      accounts := rfl
      recorded := rfl
      stored := state?_bookedWorld hcalls.program
      bytes := fun k hkept => by
        rw [hcalls.program] at howned
        exact bytes_bookedWorld_ne (World.ne_of_owners hne hkept howned)
      tokens := fun k t ht => token?_bookedWorld howned htoken ht
      reported := by
        have hgains : t.amount.toNat =
            accounts.positionUsdcPool.data.amount.toNat + amountOut.toNat := by omega
        refine ⟨amountOut, ⟨_, t, accepted.pool, token?_bookedWorld howned htoken ht, hgains⟩, ?_⟩
        rw [← hcalls.program]
        rfl }

/-- What a completed withdrawal did. The ledger before it decides what was asked for and what
remains booked, and MarginFi paid that. -/
structure Withdrawn (layout : Layout ProgramState) (balance : Bytes → Bytes → Bytes → Nat)
    (key : Pubkey) (s : AdapterState) (shares : UInt64) (withdrawAll : Bool) (paid : Nat)
    (w w' : Chain) : Prop where
  positive : 0 < shares
  asked : withdrawAll = decide (s.header.totalShares ≤ shares)
  stored : w'.state? AdapterState key = some (AdapterAccount.setTotalShares s
    (if s.header.totalShares ≤ shares then 0 else s.header.totalShares - shares))
  whole : s.header.totalShares ≤ shares → s.Closed layout w'
  paid_out : s.worth layout balance w = s.worth layout balance w' + paid

theorem Gains.of_issued {pool : Pubkey} {shares : UInt64} {call : Call} {wᵢ w₁ : Chain}
    {amount : Nat} (hissued : Issued layout mfi key pool s shares w w' call wᵢ w₁)
    (h : Gains pool amount wᵢ w₁) : Gains pool amount w w' := by
  obtain ⟨t, t', ht, ht', hgained⟩ := h
  rw [World.token?_congr hissued.accounts] at ht
  exact ⟨t, t', ht, hissued.tokens _ _ ht', hgained⟩

theorem withdrawn_of_done (hlend : Lending layout balance mfi exec) (hne : mfi ≠ programId)
    (hcalls : Calls mfi key ctx) {shares : UInt64} {adapterData : Bytes} {pool : Pubkey}
    {paid : Nat} (hdecode : AdapterInstruction.decode data = .ok (.withdraw shares adapterData))
    (hdone : entry curve exec ctx layout data w.fresh = (.ok (), w'))
    (hpool : ctx.accounts[2]?.map (·.key) = some pool) (hpaid : Gains pool paid w w')
    (hstored : w.state? AdapterState key = some s) :
    Withdrawn layout balance key s shares (askedAll w' shares) paid w w' := by
  obtain ⟨call, wᵢ, w₁, hexec, hissued⟩ :=
    issued_of_withdraw hne hcalls hdecode hdone hpool hstored
  obtain ⟨group, authority, vaultAuthority, vault, tokenProgram, oracle, hinstruction⟩ :=
    hissued.instruction
  have hbefore : ∀ k, wᵢ.bytes layout k = w.bytes layout k := World.bytes_congr hissued.accounts
  -- one call is on record, and the flag is its last byte
  have hasked : askedAll w' shares = decide (s.header.totalShares ≤ shares) := by
    rw [askedAll, hissued.recorded, List.any_cons, List.any_nil, Bool.or_false, hinstruction]
    simp only [withdrawInstruction, InstructionData.bytes.injEq, withdrawData_inj,
      decide_eq_true_eq]
  refine ⟨hissued.positive, hasked, hissued.stored, ?_, ?_⟩
  · intro hall
    rw [decide_eq_true hall] at hinstruction
    obtain ⟨hkept, hclosed, -⟩ :=
      hlend.closed _ _ _ _ _ _ _ _ _ _ _ _ _ hinstruction hexec
    unfold AdapterState.Closed ClosedAt
    rw [hissued.bytes _ hkept]
    exact hclosed
  · by_cases hall : s.header.totalShares ≤ shares
    · -- everything was paid, and what is left of a closed balance is nothing
      rw [decide_eq_true hall] at hinstruction
      obtain ⟨hkept, hclosed, hgains⟩ :=
        hlend.closed _ _ _ _ _ _ _ _ _ _ _ _ _ hinstruction hexec
      have hpaid' := hpaid.unique (hgains.of_issued hissued)
      have hnothing : s.worth layout balance w' = 0 := by
        refine hlend.empty _ _ _ ?_
        rw [hissued.bytes _ hkept]
        exact hclosed
      rw [hnothing, Nat.zero_add, hpaid']
      unfold AdapterState.worth balanceAt
      rw [hbefore, hbefore]
    · -- part was asked for: what the balance lost is what the pool gained
      rw [decide_eq_false hall] at hinstruction
      obtain ⟨hkept, hbank, hgains, hrest⟩ :=
        hlend.removed _ _ _ _ _ _ _ _ _ _ _ _ _ hinstruction hexec
      have hpaid' := hpaid.unique (hgains.of_issued hissued)
      unfold balanceAt at hrest
      rw [hbefore, hbefore, ← hissued.bytes _ hkept, ← hissued.bytes _ hbank, ← hpaid'] at hrest
      exact hrest

/-- What remains booked is the rest, if there is one. -/
theorem left_toNat (booked shares : UInt64) :
    (if booked ≤ shares then 0 else booked - shares).toNat = booked.toNat - shares.toNat := by
  have hremaining : Adapter.marginfiUsdc.remaining booked shares = some _ :=
    remainingShares_eq booked shares
  exact Dispatcher.remaining_toNat hremaining

/-- What any step does: the state account keeps all but its ledger, the balance changes by
what was gained and what was paid, and a ledger that a step leaves empty has a closed balance
behind it. -/
theorem LendStep.settles {move : Move} (hlend : Lending layout balance mfi exec)
    (hne : mfi ≠ programId) (hstep : LendStep curve exec layout balance mfi key w move w')
    (hstored : w.state? AdapterState key = some s)
    (hclosed : s.header.totalShares = 0 → s.Closed layout w) :
    ∃ total, w'.state? AdapterState key = some (AdapterAccount.setTotalShares s total) ∧
      (s.worth layout balance w' : Int) + move.paid = s.worth layout balance w + move.gained ∧
        (total = 0 → s.Closed layout w') := by
  cases hstep with
  | deposit hcalls hdecode hdone hcredited =>
    obtain ⟨hpositive, total, htotal, hstored'⟩ := booked_of_deposit hcalls hdecode hdone hstored
    refine ⟨total, hstored', ?_, ?_⟩
    · rw [hcredited s hstored]
      simp [Move.paid, Move.gained]
    · -- something was deposited, so the ledger is not empty
      intro hzero
      have hamount := UInt64.lt_iff_toNat_lt.mp hpositive
      rw [hzero] at htotal
      simp at htotal hamount
      omega
  | withdraw hcalls hdecode hdone hpool hpaid =>
    obtain ⟨-, -, hstored', hwhole, hpaid'⟩ :=
      withdrawn_of_done hlend hne hcalls hdecode hdone hpool hpaid hstored
    refine ⟨_, hstored', ?_, ?_⟩
    · simp only [Move.paid, Move.gained, Int.add_zero]
      omega
    · -- nothing is left booked only if all that was booked was asked for
      intro hzero
      have hrest := congrArg UInt64.toNat hzero
      rw [left_toNat, UInt64.toNat_zero] at hrest
      exact hwhole (UInt64.le_iff_toNat_le.mpr (Nat.le_of_sub_eq_zero hrest))
  | wait hstate hkeeps hdrift =>
    refine ⟨s.header.totalShares, hstate.trans hstored, ?_, ?_⟩
    · rw [hdrift s hstored]
      simp [Move.paid, Move.gained]
    · exact fun hzero => hkeeps s hstored (hclosed hzero)

theorem initialized_of_done (hprogram : ctx.programId = programId)
    (hslot : ctx.accounts[2]?.map (·.key) = some key)
    (hcalled : ctx.accounts[5]?.map (·.key) = some mfi)
    (h : (adapterInitialize curve exec ctx data w).1 = .ok ()) :
    Initialized curve exec mfi key (adapterInitialize curve exec ctx data w).2 :=
  ⟨ctx, data, w, hprogram, hslot, hcalled, Prod.ext h rfl⟩

/-- Every completed deposit or withdrawal is a step. -/
theorem LendStep.of_entry (hne : mfi ≠ programId) (hcalls : Calls mfi key ctx)
    {ix : AdapterInstruction} (hdecode : AdapterInstruction.decode data = .ok ix)
    (hmoves : ix.movesFunds) (hdone : entry curve exec ctx layout data w.fresh = (.ok (), w'))
    (hstored : w.state? AdapterState key = some s) :
    ∃ move, LendStep curve exec layout balance mfi key w move w' := by
  cases ix with
  | init adapterData => exact absurd hmoves id
  | deposit amount adapterData =>
    refine ⟨.deposit amount (s.worth layout balance w' - s.worth layout balance w),
      .deposit hcalls hdecode hdone fun s' hstored' => ?_⟩
    obtain rfl := Option.some.inj (hstored.symm.trans hstored')
    omega
  | withdraw shares adapterData =>
    -- the list reaches the state account, so it has a pool before it
    have hlong : 3 < ctx.accounts.length := by
      by_contra hshort
      have hslot := hcalls.state
      rw [List.getElem?_eq_none (Nat.not_lt.mp hshort)] at hslot
      cases hslot
    have hpool : ctx.accounts[2]?.map (·.key) = some ctx.accounts[2].key := by
      rw [List.getElem?_eq_getElem (by omega)]
      rfl
    obtain ⟨_, _, _, -, hissued⟩ := issued_of_withdraw hne hcalls hdecode hdone hpool hstored
    obtain ⟨amountOut, hgains, -⟩ := hissued.reported
    exact ⟨_, .withdraw hcalls hdecode hdone hpool hgains⟩
  | currentValue adapterData => exact absurd hmoves id

/-- So is a failed one, which changes nothing. -/
theorem LendStep.idle : LendStep curve exec layout balance mfi key w (.wait 0) w :=
  .wait rfl (fun _ _ => id) fun _ _ => (Int.add_zero _).symm

end Steps

/-! ### Whole runs -/

section Runs

variable {curve : Curve} {exec : Callee ProgramState Event} {layout : Layout ProgramState}
variable {balance : Bytes → Bytes → Bytes → Nat} {mfi key : Pubkey} {w w' : Chain}
variable {s : AdapterState} {past exit : List (Chain × Move)}

/-- What the withdrawals of a run took from the ledger. -/
def askedOver (past : List (Chain × Move)) : Nat := (past.map fun step => step.2.asked).sum

/-- What they brought. -/
def paidOver (past : List (Chain × Move)) : Nat := (past.map fun step => step.2.paid).sum

/-- What MarginFi and the market added to the balance. -/
def gainedOver (past : List (Chain × Move)) : Int := (past.map fun step => step.2.gained).sum

/-- Which withdrawals asked for everything, the newest first. -/
def flags (past : List (Chain × Move)) : List Bool :=
  past.filterMap fun step => step.2.withdrawAll?

/-- The accounts add up from a balance of `n`, and an empty ledger has a closed balance
behind it. -/
def Settled (layout : Layout ProgramState) (balance : Bytes → Bytes → Bytes → Nat) (key : Pubkey)
    (n : Nat) (past : List (Chain × Move)) (w : Chain) : Prop :=
  ∃ s, w.state? AdapterState key = some s ∧
    (paidOver past : Int) + s.worth layout balance w = n + gainedOver past ∧
      (s.header.totalShares = 0 → s.Closed layout w)

theorem settled_of_run {start : Chain → Prop} {n : Nat} (hlend : Lending layout balance mfi exec)
    (hne : mfi ≠ programId) (hstart : ∀ w, start w → Settled layout balance key n [] w)
    (run : Run start (LendStep curve exec layout balance mfi key) past w) :
    Settled layout balance key n past w := by
  refine run.invariant (Settled layout balance key n) hstart ?_
  intro past w move w' _ ih hstep
  obtain ⟨s, hstored, hsum, hclosed⟩ := ih
  obtain ⟨total, hstored', hworth, hclosed'⟩ := hstep.settles hlend hne hstored hclosed
  refine ⟨_, hstored', ?_, hclosed'⟩
  change _ + (s.worth layout balance w' : Int) = _
  simp only [paidOver, gainedOver, List.map_cons, List.sum_cons] at hsum ⊢
  omega

/-- Of a ledger of `s`, withdrawals took `asked`, and the one that took the last of it, if any
did, was the only one to ask for everything. -/
structure Peeled (key : Pubkey) (s : AdapterState) (past : List (Chain × Move)) (w : Chain) :
    Prop where
  ledger : ∃ total, w.state? AdapterState key = some (AdapterAccount.setTotalShares s total) ∧
    total.toNat + askedOver past = s.header.totalShares.toNat
  flagged : ∃ n, flags past =
    if askedOver past = s.header.totalShares.toNat then true :: List.replicate n false
    else List.replicate n false

/-- A withdrawal of no more than is left asks for everything exactly if it takes the rest. -/
theorem Peeled.of_withdrawn {shares : UInt64} {withdrawAll : Bool} {paid : Nat}
    (h : Peeled key s past w) {t : AdapterState} (hstored : w.state? AdapterState key = some t)
    (hdone : Withdrawn layout balance key t shares withdrawAll paid w w')
    (hle : askedOver past + shares.toNat ≤ s.header.totalShares.toNat) :
    Peeled key s ((w, .withdraw shares withdrawAll paid) :: past) w' := by
  obtain ⟨⟨total, hledger, hleft⟩, n, hflags⟩ := h
  obtain rfl := Option.some.inj (hstored.symm.trans hledger)
  obtain ⟨hpositive, hasked, hstored', -, -⟩ := hdone
  have hamount : 0 < shares.toNat := UInt64.lt_iff_toNat_lt.mp hpositive
  change withdrawAll = decide (total ≤ shares) at hasked
  -- something is asked for, so something was left
  have hbefore : askedOver past ≠ s.header.totalShares.toNat := by omega
  rw [if_neg hbefore] at hflags
  have hover : askedOver ((w, .withdraw shares withdrawAll paid) :: past) =
      shares.toNat + askedOver past := by
    simp [askedOver, Move.asked]
  have hcons : flags ((w, .withdraw shares withdrawAll paid) :: past) =
      withdrawAll :: List.replicate n false := by
    rw [← hflags]
    rfl
  refine ⟨⟨_, hstored', ?_⟩, ?_⟩
  · change (if total ≤ shares then 0 else total - shares).toNat + _ = _
    rw [left_toNat, hover]
    omega
  · rw [hover, hcons, hasked]
    by_cases hlast : shares.toNat + askedOver past = s.header.totalShares.toNat
    · have hall : total ≤ shares := UInt64.le_iff_toNat_le.mpr (by omega)
      exact ⟨n, by rw [if_pos hlast, decide_eq_true hall]⟩
    · have hpart : ¬ total ≤ shares := fun hall =>
        hlast (by have := UInt64.le_iff_toNat_le.mp hall; omega)
      exact ⟨n + 1, by rw [if_neg hlast, decide_eq_false hpart, List.replicate_succ]⟩

/-- A run without deposits that takes no more than was booked peels the ledger. -/
theorem peeled_of_run {start : Chain → Prop} (hlend : Lending layout balance mfi exec)
    (hne : mfi ≠ programId)
    (hstart : ∀ w, start w → w.state? AdapterState key = some s)
    (hbooked : 0 < s.header.totalShares)
    (run : Run start (LendStep curve exec layout balance mfi key) exit w)
    (hexit : ∀ step ∈ exit, step.2.isDeposit = false)
    (hle : askedOver exit ≤ s.header.totalShares.toNat) : Peeled key s exit w := by
  revert hexit hle
  refine run.invariant (fun exit w => (∀ step ∈ exit, step.2.isDeposit = false) →
    askedOver exit ≤ s.header.totalShares.toNat → Peeled key s exit w) ?_ ?_
  · intro w hw _ _
    -- nothing asked for yet, and something is booked
    have hpositive : 0 < s.header.totalShares.toNat := UInt64.lt_iff_toNat_lt.mp hbooked
    have hnone : askedOver [] ≠ s.header.totalShares.toNat := Nat.ne_of_lt hpositive
    refine ⟨⟨s.header.totalShares, hstart w hw, rfl⟩, 0, ?_⟩
    rw [if_neg hnone]
    rfl
  · intro past w move w' _ ih hstep hexit hle
    have hmore : askedOver ((w, move) :: past) = move.asked + askedOver past := by
      simp [askedOver]
    have hpeeled := ih (fun step hmem => hexit step (.tail _ hmem)) (by omega)
    obtain ⟨⟨total, hledger, hleft⟩, hflagged⟩ := id hpeeled
    cases hstep with
    -- an exit deposits nothing
    | deposit hcalls hdecode hdone hcredited =>
      have hdeposit := hexit _ (.head _)
      simp [Move.isDeposit] at hdeposit
    | withdraw hcalls hdecode hdone hpool hpaid =>
      refine hpeeled.of_withdrawn hledger
        (withdrawn_of_done hlend hne hcalls hdecode hdone hpool hpaid hledger) ?_
      rw [Nat.add_comm]
      exact hmore ▸ hle
    | wait hstate hkeeps hdrift =>
      have hsame := hmore.trans (Nat.zero_add _)
      refine ⟨⟨total, hstate.trans hledger, ?_⟩, ?_⟩
      · rw [hsame]
        exact hleft
      · rw [hsame]
        exact hflagged

/-- Once the ledger is empty the balance is closed, and all that went in has come out. And
from any state that a run reaches, withdrawals that take out just what is booked, in however
many parts, are so many requests for a part and one, the last, for everything. They bring what
the balance was and what it gained meanwhile. -/
theorem exit_leaves_nothing (hlend : Lending layout balance mfi exec) (hne : mfi ≠ programId)
    (run : Run (Initialized curve exec mfi key) (LendStep curve exec layout balance mfi key)
      past w) :
    ∃ s, w.state? AdapterState key = some s ∧
      (s.header.totalShares = 0 → s.Closed layout w ∧ (paidOver past : Int) = gainedOver past) ∧
      ∀ exit w', Run (· = w) (LendStep curve exec layout balance mfi key) exit w' →
        (∀ step ∈ exit, step.2.isDeposit = false) → 0 < s.header.totalShares →
          askedOver exit = s.header.totalShares.toNat →
            (∃ n, flags exit = true :: List.replicate n false) ∧
            w'.state? AdapterState key = some (AdapterAccount.setTotalShares s 0) ∧
            s.Closed layout w' ∧
            (paidOver exit : Int) = s.worth layout balance w + gainedOver exit := by
  have hopened : ∀ w, Initialized curve exec mfi key w → Settled layout balance key 0 [] w := by
    intro w hstart
    obtain ⟨s, hstored, -, hclosed⟩ := closed_of_initialize hlend hne hstart
    have hnothing : s.worth layout balance w = 0 := hlend.empty _ _ _ hclosed
    refine ⟨s, hstored, ?_, fun _ => hclosed⟩
    rw [hnothing]
    rfl
  obtain ⟨s, hstored, hsum, hclosed⟩ := settled_of_run hlend hne hopened run
  refine ⟨s, hstored, ?_, ?_⟩
  · intro hzero
    have hnothing : s.worth layout balance w = 0 := hlend.empty _ _ _ (hclosed hzero)
    rw [hnothing] at hsum
    exact ⟨hclosed hzero, by omega⟩
  · intro exit w' hrun hexit hbooked hall
    -- the exit starts from the balance as it stands
    have hhere : ∀ v, v = w → Settled layout balance key (s.worth layout balance w) [] v := by
      intro v hv
      subst hv
      refine ⟨s, hstored, ?_, hclosed⟩
      simp [paidOver, gainedOver]
    obtain ⟨t, hstored', hsum', hclosed'⟩ := settled_of_run hlend hne hhere hrun
    have hstart : ∀ v, v = w → v.state? AdapterState key = some s := fun v hv => hv ▸ hstored
    obtain ⟨⟨total, hledger, hleft⟩, n, hflags⟩ :=
      peeled_of_run hlend hne hstart hbooked hrun hexit (Nat.le_of_eq hall)
    have htotal : total = 0 := by
      apply UInt64.toNat_inj.mp
      rw [UInt64.toNat_zero]
      omega
    subst htotal
    obtain rfl := Option.some.inj (hledger.symm.trans hstored')
    have hempty : s.Closed layout w' := hclosed' rfl
    have hnothing : s.worth layout balance w' = 0 := hlend.empty _ _ _ hempty
    rw [if_pos hall] at hflags
    change (_ : Int) + (s.worth layout balance w' : Int) = _ at hsum'
    rw [hnothing] at hsum'
    exact ⟨⟨n, hflags⟩, hledger, hempty, by omega⟩

end Runs

/-! ### An exit in two parts -/

namespace Sample

open Dispatcher.Sample

/-- Keys are spelt out, so that balances in different banks differ. -/
def spelt : Layout ProgramState where
  key
    | .key n => ⟨(leBytes 32 n).toArray, by simp⟩
    | .pda _ _ _ => Vector.replicate 32 0
  state _ := []

/-- Shares times share value, rounded down. -/
def measure (acctData bank bankData : Bytes) : Nat :=
  match accountAssetShares acctData bank, bankAssetShareValue bankData with
  | .ok shares, .ok value => shares.toNat * value.toNat / 2 ^ 96
  | _, _ => 0

def noBalances : Bytes := List.replicate (72 + 16 * 104) 0

/-- An account with one balance. -/
def oneBalance (bank : Bytes) (shares : Nat) : Bytes :=
  List.replicate 72 0 ++ balanceOf 1 bank shares ++ List.replicate (15 * 104) 0

/-- A bank of this share value. -/
def bankOf (value : Nat) : Bytes := List.replicate 80 0 ++ leBytes 16 value

/-- The shares that `amount` buys or costs. -/
def sharesOf (amount : UInt64) (bankData : Bytes) : Nat :=
  amount.toNat * 2 ^ 96 / leAt 16 bankData bankAssetShareValueOff

/-- The shares that the account's first balance counts. -/
def sharesIn (acctData : Bytes) : Nat := leAt 16 acctData (balanceOff 0 + 40)

/-- What a withdrawal is to pay. -/
def payout (withdrawAll : Bool) (owed : Nat) (amount : UInt64) : Option UInt64 :=
  if withdrawAll then tryU64 owed else some amount

/-- What it is to leave. -/
def leftover (withdrawAll : Bool) (bank : Bytes) (shares : Nat) : Bytes :=
  if withdrawAll then noBalances else oneBalance bank shares

/-- A withdrawal. It fails when it cannot leave the balance that it should. -/
def release (call : Call) (account bank destination vault : Pubkey) (amount : UInt64)
    (withdrawAll : Bool) (w : Chain) : Option Chain := do
  let key := (spelt.key bank).toList
  let held := w.bytes spelt account
  let owed := balanceAt spelt measure account bank w
  let paid ← payout withdrawAll owed amount
  let left := leftover withdrawAll key (sharesIn held - sharesOf amount (w.bytes spelt bank))
  if account = bank ∨ destination = vault ∨ w.ownedBy lender account = false ∨
      w.ownedBy lender bank = false ∨
        owed ≠ measure left key (w.bytes spelt bank) + paid.toNat then none
  else
    let w ← pay lender call vault destination paid w
    record lender account left w

/-- A MarginFi with one balance to an account. -/
def keep : Callee ProgramState Event := fun call w =>
  if call.instruction.programId = lender then
    match call.instruction.data, call.instruction.accounts with
    | .bytes _, [_, account, _, _, _, _] => record lender account.pubkey noBalances w
    | .bytes data, [_, account, _, bank, source, vault, _] => do
        let amount ← amountAt 8 data
        let bought := sharesOf amount (w.bytes spelt bank.pubkey)
        let held := sharesIn (w.bytes spelt account.pubkey)
        let w ← pay lender call source.pubkey vault.pubkey amount w
        record lender account.pubkey (oneBalance (spelt.key bank.pubkey).toList (held + bought)) w
    | .bytes data, [_, account, _, bank, destination, _, vault, _, _, _] => do
        let amount ← amountAt 8 data
        release call account.pubkey bank.pubkey destination.pubkey vault.pubkey amount
          (data.drop 17 == [1]) w
    | _, _ => none
  else tokenTransfer call w

theorem scan_noBalances (bank : Bytes) : accountAssetShares noBalances bank = .ok 0 := by
  have hidle : ∀ i < 16, activeByte noBalances i = 0 := by decide +kernel
  have hnone : firstHeld noBalances bank = none :=
    firstHeld_eq_none.mpr fun i hlt hheld => hheld.1 (hidle i hlt)
  rw [accountAssetShares_eq (by decide +kernel), hnone]
  rfl

theorem measure_empty {acctData bank bankData : Bytes}
    (h : accountAssetShares acctData bank = .ok 0) : measure acctData bank bankData = 0 := by
  unfold measure
  rw [h]
  cases bankAssetShareValue bankData with
  | error => rfl
  | ok value => simp

/-- A payment from one account to another arrives. -/
theorem gains_of_pay {program source destination : Pubkey} {call : Call} {amount : UInt64}
    {w w' : Chain} (h : pay program call source destination amount w = some w')
    (hne : source ≠ destination) : Gains destination amount.toNat w w' := by
  simp only [pay, Option.bind_eq_bind, Option.bind_eq_some_iff] at h
  obtain ⟨_, -, hmoved⟩ := h
  split_ifs at hmoved
  obtain ⟨s, d, -, hd, -, ⟨hsame, -⟩ | ⟨-, left, total, -, htotal, rfl⟩⟩ := moveTokens_ok hmoved
  · exact absurd hsame hne
  · exact ⟨d, _, hd, by rw [World.token?_putToken, if_pos rfl], htotal⟩

theorem release_ok {call : Call} {account bank destination vault : Pubkey} {amount : UInt64}
    {withdrawAll : Bool} {w w' : Chain}
    (h : release call account bank destination vault amount withdrawAll w = some w') :
    w'.ownedBy lender account = true ∧ w'.ownedBy lender bank = true ∧
      ∃ paid : UInt64, Gains destination paid.toNat w w' ∧
        balanceAt spelt measure account bank w =
          balanceAt spelt measure account bank w' + paid.toNat ∧
        (withdrawAll = false → paid = amount) ∧
        (withdrawAll = true → w'.bytes spelt account = noBalances ∧
          paid.toNat = balanceAt spelt measure account bank w) := by
  simp only [release, Option.bind_eq_bind, Option.bind_eq_some_iff] at h
  obtain ⟨paid, hpaid, h⟩ := h
  split_ifs at h with hrefused
  simp only [not_or, Bool.not_eq_false, not_not] at hrefused
  obtain ⟨hapart, hother, haccount, hbank, howed⟩ := hrefused
  simp only [Option.bind_eq_some_iff] at h
  obtain ⟨w₁, hmoved, hrecorded⟩ := h
  obtain ⟨hkept, hbytes, hothers⟩ := record_ok hrecorded
  have hbankKept : w'.accounts bank = w.accounts bank := by
    rw [hothers _ (Ne.symm hapart)]
    exact pay_accounts hmoved (by decide) hbank
  have hbankBytes : w'.bytes spelt bank = w.bytes spelt bank := by rw [World.bytes, hbankKept]; rfl
  refine ⟨hkept, by rw [World.ownedBy, hbankKept]; exact hbank, paid, ?_, ?_, ?_, ?_⟩
  · -- the account written is not the one that was paid to
    obtain ⟨t, t', ht, ht', hgained⟩ := gains_of_pay hmoved (Ne.symm hother)
    have hne : destination ≠ account := by
      intro hsame
      have hnone := World.token?_of_ownedBy (pay_kept hmoved (by decide) haccount) (by decide)
      rw [← hsame, ht'] at hnone
      cases hnone
    refine ⟨t, t', ht, ?_, hgained⟩
    rw [World.token?, hothers _ hne]
    exact ht'
  · rw [howed]
    unfold balanceAt
    rw [hbytes, hbankBytes]
  · intro hpart
    rw [hpart] at hpaid
    exact (Option.some.inj hpaid).symm
  · intro hall
    rw [hall] at hpaid
    refine ⟨?_, tryU64_eq_some.mp hpaid⟩
    rw [hbytes, hall]
    rfl

/-- What `keep` makes of a withdrawal's instruction. -/
theorem keep_withdraw {call : Call} {w w' : Chain} {group account authority bank destination
    vaultAuthority vault tokenProgram oracle : Pubkey} {amount : UInt64} {withdrawAll : Bool}
    (hinstruction : call.instruction = withdrawInstruction lender group account authority bank
      destination vaultAuthority vault tokenProgram oracle amount withdrawAll)
    (h : keep call w = some w') :
    release call account bank destination vault amount withdrawAll w = some w' := by
  have hamount : amountAt 8 (withdrawData amount withdrawAll) = some amount :=
    @amountAt_append 8 mfiWithdraw [1, if withdrawAll then 1 else 0] rfl amount
  have hflag : ((withdrawData amount withdrawAll).drop 17 == [1]) = withdrawAll := by
    have hdrop : (withdrawData amount withdrawAll).drop 17 = [if withdrawAll then 1 else 0] := rfl
    rw [hdrop]
    cases withdrawAll <;> rfl
  simpa only [keep, hinstruction, withdrawInstruction, AccountMeta.new, AccountMeta.newReadonly,
    if_true, hamount, hflag, Option.bind_eq_bind, Option.bind_some] using h

/-- The bank does what is relied on of MarginFi. -/
theorem keep_lending : Lending spelt measure lender keep where
  empty _ _ _ := measure_empty
  opened call w w' group account authority feePayer instructionsSysvar systemProgram hinstruction
      h := by
    have hrecorded : record lender account noBalances w = some w' := by
      rw [← h, keep, hinstruction]
      rfl
    obtain ⟨hkept, hbytes, -⟩ := record_ok hrecorded
    refine ⟨hkept, fun bank => ?_⟩
    unfold ClosedAt
    rw [hbytes]
    exact scan_noBalances _
  removed call w w' group account authority bank destination vaultAuthority vault tokenProgram
      oracle amount hinstruction h := by
    obtain ⟨hkept, hbank, paid, hgains, hrest, hpart, -⟩ :=
      release_ok (keep_withdraw hinstruction h)
    obtain rfl := hpart rfl
    exact ⟨hkept, hbank, hgains, hrest⟩
  closed call w w' group account authority bank destination vaultAuthority vault tokenProgram
      oracle amount hinstruction h := by
    obtain ⟨hkept, -, paid, hgains, -, -, hwhole⟩ :=
      release_ok (keep_withdraw hinstruction h)
    obtain ⟨hnothing, hall⟩ := hwhole rfl
    refine ⟨hkept, ?_, hall ▸ hgains⟩
    unfold ClosedAt
    rw [hnothing]
    exact scan_noBalances _

def position : Pubkey := positionKey programId

def state : Pubkey := Dispatcher.Sample.stateKey programId

def bank : Pubkey := .key 23

/-- 10 USDC in the pool of the position, and a bank at par with 100 USDC in its vault. -/
def beforehand : Chain :=
  World.ofAccounts (listed programId ++
    [(poolKey programId, usdc position 10), (lender, program),
      (bankVault, usdc (vaultAuthority lender) 100),
      (bank, ⟨lender, false, .raw (bankOf (2 ^ 48))⟩)])

/-- A call from the dispatcher, with the position's signature. -/
def context (accounts : List AccountInfo) : Context :=
  ⟨programId, [dispatcherId], ⟨[dispatcherId], 0⟩,
    readonly sysvarInstructionsId :: signer position :: accounts⟩

def initialization : Context :=
  context ([writable state, signer alice, readonly systemProgramId] ++ bankAccounts)

def depositing : Context :=
  context ([writable (poolKey programId), writable state] ++ bankAccounts ++
    [writable bankVault, readonly tokenProgramId])

def withdrawing : Context :=
  context ([writable (poolKey programId), writable state] ++ bankAccounts ++
    [readonly (vaultAuthority lender), writable bankVault, readonly tokenProgramId,
      readonly (.key 25)])

/-- The bank's share value has become `value`. -/
def priced (value : Nat) (w : Chain) : Chain := w.put bank ⟨lender, false, .raw (bankOf value)⟩

def afterDeposit (amount : UInt64) (w : Chain) : Chain :=
  (entry curve keep depositing spelt (encodeDeposit amount []) w.fresh).2

def afterWithdraw (shares : UInt64) (w : Chain) : Chain :=
  (entry curve keep withdrawing spelt (encodeWithdraw shares []) w.fresh).2

def begun : Chain := (adapterInitialize curve keep initialization [] beforehand).2

def lent : Chain := afterDeposit 10 begun

/-- The 10 USDC have doubled. -/
def doubled : Chain := priced (2 ^ 49) lent

def partly : Chain := afterWithdraw 4 doubled

/-- What is left has lost a quarter. -/
def fallen : Chain := priced (3 * 2 ^ 47) partly

def gone : Chain := afterWithdraw 6 fallen

def lentPast : List (Chain × Move) := [(lent, .wait 10), (begun, .deposit 10 10)]

def exit : List (Chain × Move) :=
  [(fallen, .withdraw 6 true 12), (partly, .wait (-4)), (doubled, .withdraw 4 false 4)]

/-- The USDC in the pool of the position. -/
def pooled (w : Chain) : Option UInt64 := (w.token? (poolKey programId)).map (·.amount)

section

variable {w w' : Chain} {total : UInt64}

theorem gains_of_pooled {before after : UInt64} {paid : Nat} (h : pooled w = some before)
    (h' : pooled w' = some after) (hsum : after.toNat = before.toNat + paid) :
    Gains (poolKey programId) paid w w' := by
  obtain ⟨t, ht, rfl⟩ := Option.map_eq_some_iff.mp h
  obtain ⟨t', ht', rfl⟩ := Option.map_eq_some_iff.mp h'
  exact ⟨t, t', ht, ht', hsum⟩

theorem changes_of_stored {change : Int}
    (hstored : w.state? AdapterState state = some (savingsState total))
    (h : ((savingsState 0).worth spelt measure w' : Int) =
      (savingsState 0).worth spelt measure w + change) (s : AdapterState)
    (hs : w.state? AdapterState state = some s) :
    (s.worth spelt measure w' : Int) = s.worth spelt measure w + change := by
  obtain rfl := Option.some.inj (hstored.symm.trans hs)
  exact h

theorem lendStep_deposit {amount : UInt64} {credited : Int}
    (hdone : (entry curve keep depositing spelt (encodeDeposit amount []) w.fresh).1 = .ok ())
    (hstored : w.state? AdapterState state = some (savingsState total))
    (h : ((savingsState 0).worth spelt measure (afterDeposit amount w) : Int) =
      (savingsState 0).worth spelt measure w + credited) :
    LendStep curve keep spelt measure lender state w (.deposit amount credited)
      (afterDeposit amount w) :=
  .deposit ⟨rfl, rfl, rfl⟩ (decode_encodeDeposit amount (by simp)) (Prod.ext hdone rfl)
    (changes_of_stored hstored h)

theorem lendStep_withdraw {shares before after : UInt64} {withdrawAll : Bool} {paid : Nat}
    (hdone : (entry curve keep withdrawing spelt (encodeWithdraw shares []) w.fresh).1 = .ok ())
    (hasked : askedAll (afterWithdraw shares w) shares = withdrawAll)
    (hbefore : pooled w = some before) (hafter : pooled (afterWithdraw shares w) = some after)
    (hsum : after.toNat = before.toNat + paid) :
    LendStep curve keep spelt measure lender state w (.withdraw shares withdrawAll paid)
      (afterWithdraw shares w) := by
  subst hasked
  exact .withdraw ⟨rfl, rfl, rfl⟩ (decode_encodeWithdraw shares (by simp)) (Prod.ext hdone rfl) rfl
    (gains_of_pooled hbefore hafter hsum)

theorem lendStep_priced {value : Nat} {drift : Int}
    (hstored : w.state? AdapterState state = some (savingsState total))
    (h : ((savingsState 0).worth spelt measure (priced value w) : Int) =
      (savingsState 0).worth spelt measure w + drift) :
    LendStep curve keep spelt measure lender state w (.wait drift) (priced value w) := by
  refine .wait (World.state?_put_ne (by decide)) ?_ (changes_of_stored hstored h)
  intro s hs hclosed
  obtain rfl := Option.some.inj (hstored.symm.trans hs)
  -- the account is not the bank
  have hbytes : (priced value w).bytes spelt (.key 22) = w.bytes spelt (.key 22) := by
    simp [World.bytes, priced, bank]
  unfold AdapterState.Closed ClosedAt
  rw [show (savingsState total).marginfiAccount = .key 22 from rfl, hbytes]
  exact hclosed

end

theorem lentPast_run : Run (Initialized curve keep lender state)
    (LendStep curve keep spelt measure lender state) lentPast doubled := by
  -- the states are evaluated once, in two bundles
  have hbegun : (adapterInitialize curve keep initialization [] beforehand).1 = .ok () ∧
      begun.state? AdapterState state = some (savingsState 0) ∧
      (savingsState 0).worth spelt measure begun = 0 := by decide +kernel
  have hlent : (entry curve keep depositing spelt (encodeDeposit 10 []) begun.fresh).1 = .ok () ∧
      lent.state? AdapterState state = some (savingsState 10) ∧
      (savingsState 0).worth spelt measure lent = 10 ∧
      (savingsState 0).worth spelt measure doubled = 20 := by decide +kernel
  obtain ⟨hinitialized, hempty, hnothing⟩ := hbegun
  obtain ⟨hdeposited, hstored, hten, htwenty⟩ := hlent
  refine .step (.step (.start ?_) (lendStep_deposit hdeposited hempty ?_))
    (lendStep_priced hstored ?_)
  · exact initialized_of_done rfl rfl rfl hinitialized
  · change ((savingsState 0).worth spelt measure lent : Int) = _
    rw [hten, hnothing]
    rfl
  · change ((savingsState 0).worth spelt measure doubled : Int) = _
    rw [hten, htwenty]
    rfl

theorem exit_run :
    Run (· = doubled) (LendStep curve keep spelt measure lender state) exit gone := by
  have hpartly :
      (entry curve keep withdrawing spelt (encodeWithdraw 4 []) doubled.fresh).1 = .ok () ∧
      askedAll partly 4 = false ∧ pooled doubled = some 0 ∧ pooled partly = some 4 ∧
      partly.state? AdapterState state = some (savingsState 6) ∧
      (savingsState 0).worth spelt measure partly = 16 := by decide +kernel
  have hgone : (entry curve keep withdrawing spelt (encodeWithdraw 6 []) fallen.fresh).1 = .ok () ∧
      askedAll gone 6 = true ∧ pooled fallen = some 4 ∧ pooled gone = some 16 ∧
      (savingsState 0).worth spelt measure fallen = 12 := by decide +kernel
  obtain ⟨hdone, hpart, hbefore, hfour, hstored, hsixteen⟩ := hpartly
  obtain ⟨hdone', hall, hfour', hafter, htwelve⟩ := hgone
  refine .step (.step (.step (.start rfl) ?_) ?_) ?_
  · exact lendStep_withdraw hdone hpart hbefore hfour rfl
  · refine lendStep_priced hstored ?_
    change ((savingsState 0).worth spelt measure fallen : Int) = _
    rw [hsixteen, htwelve]
    rfl
  · exact lendStep_withdraw hdone' hall hfour' hafter rfl

/-- Of 10 USDC that doubled, 4 are asked for and then, after a loss, the other 6. -/
theorem exit_leaves_nothing_in_two :
    (∃ n, flags exit = true :: List.replicate n false) ∧
    (savingsState 10).Closed spelt gone ∧
    (paidOver exit : Int) = (savingsState 10).worth spelt measure doubled + gainedOver exit := by
  have hstored : doubled.state? AdapterState state = some (savingsState 10) := by decide +kernel
  obtain ⟨s, hs, -, hexit⟩ := exit_leaves_nothing keep_lending (by decide) lentPast_run
  obtain rfl := Option.some.inj (hstored.symm.trans hs)
  have hkept : ∀ step ∈ exit, step.2.isDeposit = false := by
    unfold exit
    simp [Move.isDeposit]
  have hasked : askedOver exit = (savingsState 10).header.totalShares.toNat := by decide +kernel
  obtain ⟨hflags, -, hclosed, hpaid⟩ := hexit exit gone exit_run hkept (by decide) hasked
  exact ⟨hflags, hclosed, hpaid⟩

end Sample

end YieldAdapter.MarginfiUsdc

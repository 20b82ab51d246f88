import YieldAdapter.Dispatcher.Shares
import YieldAdapter.Adapter.Binding
import YieldAdapter.Adapter.Valuation

/-!
# The Drift ledger and the stake behind it

A deposit books the fund shares that the stake gained. A withdrawal subtracts the
caller's number from the ledger and asks Drift to remove that many USDC, which burns as
many shares as they are worth. The ledger therefore follows the stake as long as each
withdrawal is made when a share is worth one unit, up to rounding, and drifts away from
it at any other price.
-/

set_option autoImplicit false

namespace YieldAdapter.DriftIf

open Solana

/-! ### What Drift does with a stake -/

/-- `initialize_insurance_fund_stake`, as the adapter issues it. -/
def initIfStakeInstruction (drift spotMarket ifStake userStats state authority payer rent
    systemProgram : Pubkey) : Instruction where
  programId := drift
  accounts :=
    [.newReadonly spotMarket false, .new ifStake false, .new userStats false,
      .newReadonly state false, .newReadonly authority true, .new payer true,
      .newReadonly rent false, .newReadonly systemProgram false]
  data := .bytes (initIfStakeDisc ++ leBytes 2 marketIndex)

/-- `request_remove_insurance_fund_stake`, as the adapter issues it. -/
def requestRemoveInstruction (drift spotMarket ifStake userStats authority ifVault : Pubkey)
    (amount : UInt64) : Instruction where
  programId := drift
  accounts :=
    [.new spotMarket false, .new ifStake false, .new userStats false,
      .newReadonly authority true, .new ifVault false]
  data := .bytes (requestRemoveIfStakeDisc ++ leBytes 2 marketIndex ++ leBytes64 amount)

/-- `remove_insurance_fund_stake`, as the adapter issues it. -/
def removeStakeInstruction (drift state spotMarket ifStake userStats authority ifVault driftSigner
    userTokenAccount tokenProgram : Pubkey) : Instruction where
  programId := drift
  accounts :=
    [.newReadonly state false, .new spotMarket false, .new ifStake false, .new userStats false,
      .newReadonly authority true, .new ifVault false, .newReadonly driftSigner false,
      .new userTokenAccount false, .newReadonly tokenProgram false]
  data := .bytes (removeIfStakeDisc ++ leBytes 2 marketIndex)

/-- The fund shares that `amount` USDC are worth, over `total` shares and `vault` USDC. -/
def sharesFor (amount vault : UInt64) (total : Nat) : Nat :=
  amount.toNat * total / vault.toNat

/-- What is relied on of the program `drift`. It keeps its accounts, a stake starts out
empty, and a request for removal followed by the removal burns the shares that the
requested USDC are worth at the time of the request. -/
structure Staking (layout : Layout ProgramState) (drift : Pubkey)
    (exec : Callee ProgramState Event) : Prop where
  kept : ∀ call w w' key, call.instruction.programId = drift → exec call w = some w' →
    w.ownedBy drift key = true → w'.ownedBy drift key = true
  opened : ∀ (call : Call) (w w' : Chain)
    (spotMarket ifStake userStats state authority payer rent systemProgram : Pubkey),
    call.instruction = initIfStakeInstruction drift spotMarket ifStake userStats state authority
      payer rent systemProgram → exec call w = some w' →
        w'.ownedBy drift ifStake = true ∧ stakeShares (w'.bytes layout ifStake) = .ok 0
  removed : ∀ (request removal : Call) (w w₁ w₂ w₃ : Chain)
    (spotMarket ifStake userStats authority ifVault state driftSigner userTokenAccount
      tokenProgram : Pubkey) (amount : UInt64) (vault : TokenAccount) (held : Nat),
    request.instruction = requestRemoveInstruction drift spotMarket ifStake userStats authority
      ifVault amount →
    removal.instruction = removeStakeInstruction drift state spotMarket ifStake userStats authority
      ifVault driftSigner userTokenAccount tokenProgram →
    exec request w = some w₁ → w₂.accounts = w₁.accounts → exec removal w₂ = some w₃ →
    w.ownedBy drift ifStake = true → w.token? ifVault = some vault →
    stakeShares (w.bytes layout ifStake) = .ok held →
      ∃ left, stakeShares (w₃.bytes layout ifStake) = .ok left ∧
        held = left + sharesFor amount vault.amount (leAt 16 (w.bytes layout spotMarket)
          smIfTotalShares)

/-! ### What an instruction does to the ledger and to the stake -/

/-- The state account at `key` stores `s`, which counts the fund shares of its stake, and
the stake is Drift's. -/
structure Tracks (layout : Layout ProgramState) (drift key : Pubkey) (s : AdapterState)
    (w : Chain) : Prop where
  stored : w.state? AdapterState key = some s
  kept : w.ownedBy drift s.insuranceFundStake = true
  counted : stakeShares (w.bytes layout s.insuranceFundStake) = .ok s.header.totalShares.toNat

/-- The fund of the listed market sells as many shares for that many units. -/
def PricedAtPar (layout : Layout ProgramState) (w : Chain) (ctx : Context) (shares : UInt64) :
    Prop :=
  ∃ spotMarket ifVault vault, ctx.accounts[6]?.map (·.key) = some spotMarket ∧
    ctx.accounts[9]?.map (·.key) = some ifVault ∧ w.token? ifVault = some vault ∧
      sharesFor shares vault.amount (leAt 16 (w.bytes layout spotMarket) smIfTotalShares) =
        shares.toNat

/-- The instruction calls `drift`, and a withdrawal hands it the number of shares at par. -/
def AtPar (layout : Layout ProgramState) (drift : Pubkey) (w : Chain) (ctx : Context)
    (data : Bytes) : Prop :=
  ctx.accounts[4]?.map (·.key) = some drift ∧
    ∀ shares adapterData, AdapterInstruction.decode data = .ok (.withdraw shares adapterData) →
      PricedAtPar layout w ctx shares

section Steps

variable {curve : Curve} {exec : Callee ProgramState Event} {ctx : Context} {w w' : Chain}
variable {layout : Layout ProgramState} {drift key : Pubkey} {data : Bytes} {s : AdapterState}

theorem AdapterInitialize.program_of_tryAccounts {accounts : AdapterInitialize}
    (h : AdapterInitialize.tryAccounts curve ctx w = (.ok accounts, w')) :
    ctx.accounts[5]?.map (·.key) = some accounts.driftProgram.key := by
  generalize hx : AdapterInitialize.tryAccounts curve ctx = x at h
  unfold AdapterInitialize.tryAccounts at hx
  split at hx <;> subst hx
  · rename_i hlist
    simp only [Exec.bind_ok, Exec.read_ok, Exec.ofExcept_ok, Exec.pure_ok] at h
    obtain ⟨_, _, ⟨rfl, rfl⟩, _, _, ⟨-, rfl⟩, _, _, ⟨-, rfl⟩, slots, _, -, _, _, -, _, _, -,
      _, _, -, _, _, -, _, _, -, _, _, -, rfl, -⟩ := h
    rw [hlist]
    rfl
  · simp at h

theorem AdapterDeposit.program_of_tryAccounts {accounts : AdapterDeposit}
    (h : AdapterDeposit.tryAccounts curve ctx w = .ok accounts) :
    ctx.accounts[4]?.map (·.key) = some accounts.driftProgram.key := by
  unfold AdapterDeposit.tryAccounts at h
  split at h
  · rename_i hlist
    simp only [except_bind_ok, FundPrefix.load_ok] at h
    obtain ⟨slots, -, _, -, _, -, _, -, _, -, _, -, _, -, _, -, _, -, _, -, _, -, hpure⟩ := h
    obtain rfl := Except.ok.inj hpure
    rw [hlist]
    rfl
  · simp [throw, throwThe, MonadExceptOf.throw] at h

theorem AdapterWithdraw.slots_of_tryAccounts {accounts : AdapterWithdraw}
    (h : AdapterWithdraw.tryAccounts curve ctx w = .ok accounts) :
    ctx.accounts[4]?.map (·.key) = some accounts.driftProgram.key ∧
      ctx.accounts[6]?.map (·.key) = some accounts.spotMarket.key ∧
        ctx.accounts[9]?.map (·.key) = some accounts.insuranceFundVault.key := by
  unfold AdapterWithdraw.tryAccounts at h
  split at h
  · rename_i hlist
    simp only [except_bind_ok, FundPrefix.load_ok] at h
    obtain ⟨slots, -, _, -, _, -, _, -, _, -, _, -, _, -, _, -, _, -, _, -, hpure⟩ := h
    obtain rfl := Except.ok.inj hpure
    rw [hlist]
    exact ⟨rfl, rfl, rfl⟩
  · simp [throw, throwThe, MonadExceptOf.throw] at h

/-- A new ledger is empty, and so is the stake. -/
theorem tracks_of_initialize (hdrift : Staking layout drift exec) (hne : drift ≠ programId)
    (hprogram : ctx.programId = programId)
    (hcalled : ctx.accounts[5]?.map (·.key) = some drift)
    (h : adapterInitialize curve exec ctx data w = (.ok (), w')) :
    ∃ key s, ctx.accounts[2]?.map (·.key) = some key ∧ Tracks layout drift key s w' := by
  obtain ⟨accounts, w₀, haccounts, hrun⟩ := Exec.bind_ok.mp h
  obtain rfl := Option.some.inj
    ((AdapterInitialize.program_of_tryAccounts haccounts).symm.trans hcalled)
  obtain ⟨⟨_, slots⟩, -, -⟩ := AdapterInitialize.tryAccounts_ok haccounts
  obtain ⟨-, w₁, hcreate, howned, rfl⟩ := initializeWith_ok hrun
  simp only [createStake, Exec.bind_ok] at hcreate
  obtain ⟨_, w₂, -, hstake⟩ := hcreate
  obtain ⟨wᵢ, w₃, -, hcall, hsame⟩ := invoke_accounts hstake
  obtain ⟨hkept, hempty⟩ := hdrift.opened _ _ _ _ _ _ _ _ _ _ _ rfl hcall
  rw [← World.ownedBy_congr hsame] at hkept
  rw [← World.bytes_congr hsame] at hempty
  -- the state account is written last, and it is not the stake
  rw [hprogram] at howned
  have hother := World.ne_of_owners hne hkept howned
  refine ⟨accounts.adapterState.key, _, by rw [slots]; rfl, World.state?_put_self hprogram, ?_, ?_⟩
  · simpa [World.ownedBy, hother] using hkept
  · simpa [World.bytes, hother] using hempty

/-- A deposit adds to the ledger what the stake gained. -/
theorem tracks_of_deposit (hdrift : Staking layout drift exec) (hne : drift ≠ programId)
    (hprogram : ctx.programId = programId)
    (hslot : ctx.accounts[3]?.map (·.key) = some key)
    (hcalled : ctx.accounts[4]?.map (·.key) = some drift) (hbefore : Tracks layout drift key s w)
    {amount : UInt64} (h : adapterDeposit curve exec ctx layout amount data w = (.ok (), w')) :
    ∃ total, Tracks layout drift key (AdapterAccount.setTotalShares s total) w' := by
  simp only [adapterDeposit, Exec.bind_ok, Exec.read_ok, Exec.ofExcept_ok] at h
  obtain ⟨_, _, ⟨rfl, rfl⟩, accounts, _, ⟨haccounts, rfl⟩, hrun⟩ := h
  obtain rfl := Option.some.inj
    ((AdapterDeposit.program_of_tryAccounts haccounts).symm.trans hcalled)
  obtain ⟨⟨_, slots⟩, accepted, hstake⟩ := AdapterDeposit.tryAccounts_ok haccounts
  rw [slots] at hslot
  obtain rfl := Option.some.inj hslot
  obtain ⟨hstored, hkept, hcounted⟩ := hbefore
  obtain rfl := Option.some.inj (hstored.symm.trans accepted.state)
  obtain ⟨-, -, shares, total, w₁, hmint, htotal, howned, rfl⟩ := depositWith_ok hrun
  simp only [mintShares, readStake, Exec.bind_ok, Exec.read_ok, Exec.ofExcept_ok, Exec.require_ok,
    Exec.ofOption_ok, tryU64_eq_some] at hmint
  obtain ⟨before, _, ⟨_, _, ⟨rfl, rfl⟩, hheld, rfl⟩, _, w₂, hadd, after, _,
    ⟨_, _, ⟨rfl, rfl⟩, hgrown, rfl⟩, _, _, ⟨hle, rfl⟩, hshares, rfl⟩ := hmint
  obtain ⟨wᵢ, w₃, hsameᵢ, hcall, hsame⟩ := invoke_accounts hadd
  have hdrifts := hdrift.kept _ _ _ _ rfl hcall (by rw [World.ownedBy_congr hsameᵢ]; exact hkept)
  rw [← World.ownedBy_congr hsame] at hdrifts
  rw [hprogram] at howned
  have hother := World.ne_of_owners hne hdrifts howned
  -- the ledger was what the stake held before, so it is what the stake holds now
  rw [hstake, hcounted] at hheld
  obtain rfl := Except.ok.inj hheld
  have hsum : after = total.toNat := by
    rw [htotal, hshares]
    change after = accounts.adapterState.data.header.totalShares.toNat + _
    omega
  refine ⟨total, World.state?_put_self hprogram, ?_, ?_⟩
  · exact (ownedBy_bookedWorld_ne hother).trans hdrifts
  · refine (congrArg stakeShares (bytes_bookedWorld_ne hother)).trans ?_
    rw [← hstake, hgrown, hsum]
    rfl

/-- A withdrawal at par takes from the stake what it takes from the ledger. -/
theorem tracks_of_withdraw (hdrift : Staking layout drift exec) (hne : drift ≠ programId)
    (hprogram : ctx.programId = programId)
    (hslot : ctx.accounts[3]?.map (·.key) = some key) {shares : UInt64}
    (hcalled : ctx.accounts[4]?.map (·.key) = some drift) (hbefore : Tracks layout drift key s w)
    (hpar : PricedAtPar layout w ctx shares)
    (h : adapterWithdraw curve exec ctx shares data w = (.ok (), w')) :
    ∃ total, checkedSub s.header.totalShares shares = some total ∧
      Tracks layout drift key (AdapterAccount.setTotalShares s total) w' := by
  simp only [adapterWithdraw, Exec.bind_ok, Exec.read_ok, Exec.ofExcept_ok, withdrawGuards_ok] at h
  obtain ⟨_, _, ⟨rfl, rfl⟩, accounts, _, ⟨haccounts, rfl⟩, _, _, ⟨-, rfl⟩, hrun⟩ := h
  obtain ⟨hdriftSlot, hmarketSlot, hvaultSlot⟩ := AdapterWithdraw.slots_of_tryAccounts haccounts
  obtain rfl := Option.some.inj (hdriftSlot.symm.trans hcalled)
  obtain ⟨⟨_, slots⟩, accepted, hstake⟩ := AdapterWithdraw.tryAccounts_ok haccounts
  obtain ⟨_, _, vault, hmarket, hvault, hheldVault, hpriced⟩ := hpar
  obtain rfl := Option.some.inj (hmarketSlot.symm.trans hmarket)
  obtain rfl := Option.some.inj (hvaultSlot.symm.trans hvault)
  rw [slots] at hslot
  obtain rfl := Option.some.inj hslot
  obtain ⟨hstored, hkept, hcounted⟩ := hbefore
  obtain rfl := Option.some.inj (hstored.symm.trans accepted.state)
  obtain ⟨amountOut, total, w₁, hredeem, hremains, howned, rfl⟩ := withdrawWith_ok hrun
  simp only [redeemShares, Exec.bind_ok, measureToken_ok] at hredeem
  obtain ⟨_, w₂, hrequest, _, w₃, hremove, -, rfl⟩ := hredeem
  obtain ⟨wᵢ, w₄, hsameᵢ, hrequested, hsame⟩ := invoke_accounts hrequest
  obtain ⟨wⱼ, w₅, hsameⱼ, hremoved, hsame'⟩ := invoke_accounts hremove
  rw [← hstake] at hkept hcounted
  rw [← World.ownedBy_congr hsameᵢ] at hkept
  rw [← World.bytes_congr hsameᵢ] at hcounted hpriced
  obtain ⟨left, hleft, hburned⟩ := hdrift.removed _ _ _ _ _ _ _ _ _ _ _ _ _ _ _ _ _ _ rfl rfl
    hrequested (hsameⱼ.trans hsame) hremoved hkept (by rw [World.token?, hsameᵢ]; exact hheldVault)
    hcounted
  have hdrifts := hdrift.kept _ _ _ _ rfl hrequested hkept
  rw [← World.ownedBy_congr (hsameⱼ.trans hsame)] at hdrifts
  have hdrifts' := hdrift.kept _ _ _ _ rfl hremoved hdrifts
  rw [← World.ownedBy_congr hsame'] at hdrifts'
  rw [hprogram] at howned
  have hother := World.ne_of_owners hne hdrifts' howned
  -- as much was burned as was asked for
  have hremaining := checkedSub_eq_some.mp hremains
  have hsum : left = total.toNat := by omega
  refine ⟨total, hremains, World.state?_put_self hprogram, ?_, ?_⟩
  · change (bookedWorld _ _ _ _ _ _).ownedBy _ accounts.adapterState.data.insuranceFundStake = true
    rw [← hstake]
    exact (ownedBy_bookedWorld_ne hother).trans hdrifts'
  · change stakeShares ((bookedWorld _ _ _ _ _ _).bytes _
      accounts.adapterState.data.insuranceFundStake) = _
    rw [← hstake, bytes_bookedWorld_ne hother, World.bytes_congr hsame', hleft, hsum]
    rfl

end Steps

/-! ### Runs on one stake -/

section Runs

variable (curve : Curve) (exec : Callee ProgramState Event) (layout : Layout ProgramState)

/-- The chain after an instruction, which has no effect if it fails. -/
def attempt (ctx : Context) (data : Bytes) (w : Chain) : Chain :=
  match entry curve exec ctx layout data w.fresh with
  | (.ok (), w') => w'
  | _ => w

/-- The instruction completes. -/
def Completes (ctx : Context) (data : Bytes) (w : Chain) : Prop :=
  (entry curve exec ctx layout data w.fresh).1 = .ok ()

/-- The state account at `key` was just initialized over the program `drift`. -/
def Initialized (drift key : Pubkey) (w : Chain) : Prop :=
  ∃ ctx data w₀, ctx.programId = programId ∧ ctx.accounts[2]?.map (·.key) = some key ∧
    ctx.accounts[5]?.map (·.key) = some drift ∧
      adapterInitialize curve exec ctx data w₀ = (.ok (), w)

/-- One step of a run on the state account at `key`: a deposit or a withdrawal, labelled
with its accounts and data, or anything else, which leaves the state account and its stake
alone but may change the fund. -/
inductive StakeStep (key : Pubkey) : Chain → Option (Context × Bytes) → Chain → Prop
  | funds {w : Chain} {ctx : Context} {data : Bytes} {ix : AdapterInstruction}
      (hprogram : ctx.programId = programId) (hslot : ctx.accounts[3]?.map (·.key) = some key)
      (hdecode : AdapterInstruction.decode data = .ok ix) (hmoves : ix.movesFunds) :
      StakeStep key w (some (ctx, data)) (attempt curve exec layout ctx data w)
  | outside {w w' : Chain}
      (hstate : w'.state? AdapterState key = w.state? AdapterState key)
      (hstake : ∀ s, w.state? AdapterState key = some s →
        w'.accounts s.insuranceFundStake = w.accounts s.insuranceFundStake) :
      StakeStep key w none w'

/-- A withdrawal of all that is booked leaves nothing in the stake. -/
def Empties (drift key : Pubkey) (w : Chain) : Prop :=
  ∀ (ctx : Context) (data adapterData : Bytes) (s : AdapterState) (w' : Chain),
    ctx.programId = programId → ctx.accounts[3]?.map (·.key) = some key →
      AdapterInstruction.decode data = .ok (.withdraw s.header.totalShares adapterData) →
        AtPar layout drift w ctx data → w.state? AdapterState key = some s →
          entry curve exec ctx layout data w.fresh = (.ok (), w') →
            stakeShares (w'.bytes layout s.insuranceFundStake) = .ok 0

variable {curve exec layout} {drift key : Pubkey} {w w' : Chain}
variable {past : List (Chain × Option (Context × Bytes))}

theorem initialized_of_done {ctx : Context} {data : Bytes} (hprogram : ctx.programId = programId)
    (hslot : ctx.accounts[2]?.map (·.key) = some key)
    (hcalled : ctx.accounts[5]?.map (·.key) = some drift)
    (h : (adapterInitialize curve exec ctx data w).1 = .ok ()) :
    Initialized curve exec drift key (adapterInitialize curve exec ctx data w).2 :=
  ⟨ctx, data, w, hprogram, hslot, hcalled, Prod.ext h rfl⟩

theorem Tracks.congr {s : AdapterState} (h : Tracks layout drift key s w)
    (hstate : w'.state? AdapterState key = w.state? AdapterState key)
    (hstake : w'.accounts s.insuranceFundStake = w.accounts s.insuranceFundStake) :
    Tracks layout drift key s w' where
  stored := hstate.trans h.stored
  kept := by
    rw [World.ownedBy, hstake]
    exact h.kept
  counted := by
    rw [World.bytes, hstake]
    exact h.counted

/-- A deposit or a withdrawal at par keeps the ledger and the stake equal. -/
theorem tracks_of_attempt (hdrift : Staking layout drift exec) (hne : drift ≠ programId)
    {ctx : Context} {data : Bytes} {ix : AdapterInstruction}
    (hprogram : ctx.programId = programId) (hslot : ctx.accounts[3]?.map (·.key) = some key)
    (hdecode : AdapterInstruction.decode data = .ok ix) (hmoves : ix.movesFunds)
    (hpar : Completes curve exec layout ctx data w → AtPar layout drift w ctx data)
    {s : AdapterState} (hbefore : Tracks layout drift key s w) :
    ∃ s', Tracks layout drift key s' (attempt curve exec layout ctx data w) := by
  have hfresh : Tracks layout drift key s w.fresh := hbefore.congr rfl rfl
  unfold attempt
  split
  · rename_i w' hdone
    have hpar := hpar (congrArg Prod.fst hdone)
    have hrun := Exec.run_of_ofExcept hdecode hdone
    cases ix with
    | init adapterData => exact absurd hmoves id
    | deposit amount adapterData =>
      obtain ⟨total, htracks⟩ := tracks_of_deposit hdrift hne hprogram hslot hpar.1 hfresh hrun
      exact ⟨_, htracks⟩
    | withdraw shares adapterData =>
      obtain ⟨total, -, htracks⟩ := tracks_of_withdraw hdrift hne hprogram hslot hpar.1 hfresh
        (hpar.2 _ _ hdecode) hrun
      exact ⟨_, htracks⟩
    | currentValue adapterData => exact absurd hmoves id
  · exact ⟨s, hbefore⟩

theorem empties_of_tracks (hdrift : Staking layout drift exec) (hne : drift ≠ programId)
    {s : AdapterState} (h : Tracks layout drift key s w) :
    Empties curve exec layout drift key w := by
  intro ctx data adapterData s' w' hprogram hslot hdecode hpar hstored hdone
  obtain rfl := Option.some.inj (h.stored.symm.trans hstored)
  have hrun := Exec.run_of_ofExcept hdecode hdone
  have hfresh : Tracks layout drift key s w.fresh := h.congr rfl rfl
  obtain ⟨total, hremains, htracks⟩ := tracks_of_withdraw hdrift hne hprogram hslot hpar.1 hfresh
    (hpar.2 _ _ hdecode) hrun
  -- all that was booked was taken
  have hremaining := checkedSub_eq_some.mp hremains
  have hzero : total.toNat = 0 := by omega
  have hcounted : stakeShares (w'.bytes layout s.insuranceFundStake) = .ok total.toNat :=
    htracks.counted
  rw [hcounted, hzero]

/-- As long as each withdrawal that completes is made at par, the ledger is what the stake
holds. -/
theorem stake_ledger (hdrift : Staking layout drift exec) (hne : drift ≠ programId)
    (run : Run (Initialized curve exec drift key) (StakeStep curve exec layout key) past w)
    (hpar : ∀ step ∈ past, ∀ ctx data, step.2 = some (ctx, data) →
      Completes curve exec layout ctx data step.1 → AtPar layout drift step.1 ctx data) :
    (∃ s, Tracks layout drift key s w) ∧ Empties curve exec layout drift key w := by
  have htracks : ∃ s, Tracks layout drift key s w := by
    revert hpar
    refine run.invariant (fun past w => (∀ step ∈ past, ∀ ctx data, step.2 = some (ctx, data) →
      Completes curve exec layout ctx data step.1 → AtPar layout drift step.1 ctx data) →
        ∃ s, Tracks layout drift key s w) ?_ ?_
    · intro w hstart _
      obtain ⟨ctx, data, w₀, hprogram, hslot, hcalled, hrun⟩ := hstart
      obtain ⟨key', s, hslot', htracks⟩ := tracks_of_initialize hdrift hne hprogram hcalled hrun
      obtain rfl := Option.some.inj (hslot.symm.trans hslot')
      exact ⟨s, htracks⟩
    · intro past w label w' _ ih hstep hpar
      obtain ⟨s, hbefore⟩ := ih fun step hmem => hpar step (.tail _ hmem)
      cases hstep with
      | funds hprogram hslot hdecode hmoves =>
        exact tracks_of_attempt hdrift hne hprogram hslot hdecode hmoves
          (hpar _ (.head _) _ _ rfl) hbefore
      | outside hstate hstake => exact ⟨s, hbefore.congr hstate (hstake s hbefore.stored)⟩
  obtain ⟨s, hlast⟩ := htracks
  exact ⟨⟨s, hlast⟩, empties_of_tracks hdrift hne hlast⟩

end Runs

/-! ### A stake above par -/

namespace Sample

open Dispatcher.Sample

/-- The fund, for calls that name no account twice. -/
def insureApart : Callee ProgramState Event := fun call w =>
  if (call.instruction.accounts.map (·.pubkey)).Nodup then insure call w else none

theorem insure_kept {call : Call} {w w' : Chain} {key : Pubkey}
    (hprogram : call.instruction.programId = fund) (h : insure call w = some w')
    (howned : w.ownedBy fund key = true) : w'.ownedBy fund key = true := by
  unfold insure at h
  rw [if_pos hprogram] at h
  split at h
  · exact record_kept h howned
  · exact record_kept h howned
  · simp only [Option.bind_eq_bind, Option.bind_eq_some_iff] at h
    obtain ⟨amount, -, vault, -, w₁, hpaid, w₂, hstake, hmarket⟩ := h
    exact record_kept hmarket (record_kept hstake (pay_kept hpaid (by decide) howned))
  · simp only [Option.bind_eq_bind, Option.bind_eq_some_iff] at h
    obtain ⟨amount, -, vault, -, h⟩ := h
    split_ifs at h
    simp only [Option.bind_eq_some_iff] at h
    obtain ⟨w₁, hstake, w₂, hmarket, hstats⟩ := h
    exact record_kept hstats (record_kept hmarket (record_kept hstake howned))
  · simp only [Option.bind_eq_bind, Option.bind_eq_some_iff] at h
    obtain ⟨amount, -, hpaid⟩ := h
    exact pay_kept hpaid (by decide) howned
  · obtain rfl := Option.some.inj h
    exact howned

/-- A stake of up to `2 ^ 128 - 1` shares is read back. -/
theorem stakeShares_stakeOf {n : Nat} (h : n < 256 ^ 16) : stakeShares (stakeOf n) = .ok n := by
  have hlength : ifStakeShares + 16 ≤ (stakeOf n).length := by simp [stakeOf, ifStakeShares]
  have hdrop : (stakeOf n).drop ifStakeShares = leBytes 16 n := List.drop_left' (by rfl)
  have htake : (leBytes 16 n).take 16 = leBytes 16 n := List.take_of_length_le (by simp)
  refine readField_ok.mpr ⟨hlength, ?_⟩
  rw [leAt, hdrop, htake, leNat_leBytes_of_lt h]

/-- The fund does what is relied on of Drift. -/
theorem insureApart_staking : Staking layout fund insureApart where
  kept call w w' key hprogram h howned := by
    unfold insureApart at h
    split_ifs at h
    exact insure_kept hprogram h howned
  opened call w w' spotMarket ifStake userStats state authority payer rent systemProgram hix h := by
    unfold insureApart at h
    split_ifs at h
    have hrecorded : record fund ifStake (stakeOf 0) w = some w' := by
      rw [← h, insure, hix]
      rfl
    obtain ⟨howned, hbytes, -⟩ := record_ok hrecorded
    exact ⟨howned, hbytes layout ▸ stakeShares_stakeOf (by decide)⟩
  removed request removal w w₁ w₂ w₃ spotMarket ifStake userStats authority ifVault state
      driftSigner userTokenAccount tokenProgram amount vault held hrequest hremoval h hsame h'
      howned hvault hheld := by
    unfold insureApart at h h'
    split_ifs at h with happart
    split_ifs at h'
    -- the request names the stake once, so only its own shares are written there
    simp only [hrequest, requestRemoveInstruction, AccountMeta.new, AccountMeta.newReadonly,
      List.map_cons, List.map_nil, List.nodup_cons, List.mem_cons, not_or] at happart
    obtain ⟨⟨hmarket, -⟩, ⟨hstats, -⟩, -⟩ := happart
    obtain ⟨-, rfl⟩ := readField_ok.mp hheld
    have hamount : amountAt 10 (requestRemoveIfStakeDisc ++ leBytes 2 marketIndex ++
        leBytes64 amount) = some amount := by
      have hread := @amountAt_append 10 (requestRemoveIfStakeDisc ++ leBytes 2 marketIndex) []
        (by simp [requestRemoveIfStakeDisc]) amount
      rwa [List.append_nil] at hread
    simp only [insure, hrequest, requestRemoveInstruction, if_true, hamount, AccountMeta.new,
      AccountMeta.newReadonly, hvault, Option.bind_eq_bind, Option.bind_some] at h
    split_ifs at h with hshort
    simp only [Option.bind_eq_some_iff] at h
    obtain ⟨wₛ, hstaked, wₘ, hmarketed, hnoted⟩ := h
    obtain ⟨hownedₛ, hbytesₛ, -⟩ := record_ok hstaked
    obtain ⟨-, -, hmarketOnly⟩ := record_ok hmarketed
    obtain ⟨-, -, hstatsOnly⟩ := record_ok hnoted
    have hrest : w₂.accounts ifStake = wₛ.accounts ifStake := by
      rw [hsame, hstatsOnly _ hstats, hmarketOnly _ (Ne.symm hmarket)]
    -- the removal only pays
    simp only [insure, hremoval, removeStakeInstruction, if_true, AccountMeta.new,
      AccountMeta.newReadonly, Option.bind_eq_bind, Option.bind_eq_some_iff] at h'
    obtain ⟨_, -, hpaid⟩ := h'
    have hkept : w₃.accounts ifStake = w₂.accounts ifStake := by
      refine pay_accounts hpaid (by decide) ?_
      rw [World.ownedBy, hrest]
      exact hownedₛ
    have hbytes : w₃.bytes layout ifStake = wₛ.bytes layout ifStake := by
      rw [World.bytes, hkept, hrest]
      rfl
    have hbound := leAt_lt 16 (w.bytes layout ifStake) ifStakeShares
    refine ⟨ifShares (w.bytes layout ifStake) -
      sharesFor amount vault.amount (fundShares (w.bytes layout spotMarket)), ?_, ?_⟩
    · rw [hbytes, hbytesₛ]
      exact stakeShares_stakeOf (lt_of_le_of_lt (Nat.sub_le _ _) hbound)
    · exact (Nat.sub_add_cancel (Nat.not_lt.mp hshort)).symm

def position : Pubkey := positionKey programId

def state : Pubkey := Dispatcher.Sample.stateKey programId

/-- A fund of `shares` insurance shares over `vault` USDC, and 100 USDC in the pool of the
position. -/
def beforehand (vault : UInt64) (shares : Nat) : Chain :=
  World.ofAccounts (listed programId ++
    [(poolKey programId, usdc position 100), (fund, program),
      (ifVault, usdc (vaultAuthority fund) vault),
      (spotMarket, ⟨fund, false, .raw (spotMarketOf shares)⟩)])

/-- A call from the dispatcher, with the position's signature. -/
def context (accounts : List AccountInfo) : Context :=
  ⟨programId, [dispatcherId], ⟨[dispatcherId], 0⟩,
    readonly sysvarInstructionsId :: signer position :: accounts⟩

def initialization : Context :=
  context [writable state, signer alice, readonly systemProgramId, readonly fund,
    writable (.key 35), readonly spotMarket, writable (.key 33), writable stake,
    readonly sysvarRentId]

def depositing : Context :=
  context ([writable (poolKey programId), writable state] ++ stakeAccounts ++
    [writable (.key 36), writable ifVault, readonly (.key 37), readonly tokenProgramId])

def withdrawing : Context :=
  context ([writable (poolKey programId), writable state] ++ stakeAccounts ++
    [writable ifVault, readonly (.key 37), readonly tokenProgramId])

def initialized (vault : UInt64) (shares : Nat) : Chain :=
  (adapterInitialize curve insureApart initialization [] (beforehand vault shares)).2

/-- After 10 USDC were staked. -/
def grown (vault : UInt64) (shares : Nat) : Chain :=
  attempt curve insureApart layout depositing (encodeDeposit 10 []) (initialized vault shares)

/-- After `burnt` shares were asked back. -/
def shrunk (vault : UInt64) (shares : Nat) (burnt : UInt64) : Chain :=
  attempt curve insureApart layout withdrawing (encodeWithdraw burnt []) (grown vault shares)

def history (vault : UInt64) (shares : Nat) (burnt : UInt64) :
    List (Chain × Option (Context × Bytes)) :=
  [(grown vault shares, some (withdrawing, encodeWithdraw burnt [])),
    (initialized vault shares, some (depositing, encodeDeposit 10 []))]

theorem initialized_initialized {vault : UInt64} {shares : Nat}
    (h : (adapterInitialize curve insureApart initialization [] (beforehand vault shares)).1 =
      .ok ()) : Initialized curve insureApart fund Sample.state (initialized vault shares) :=
  initialized_of_done rfl rfl rfl h

theorem history_run {vault : UInt64} {shares : Nat} {burnt : UInt64}
    (h : (adapterInitialize curve insureApart initialization [] (beforehand vault shares)).1 =
      .ok ()) :
    Run (Initialized curve insureApart fund Sample.state)
      (StakeStep curve insureApart layout Sample.state) (history vault shares burnt)
        (shrunk vault shares burnt) := by
  refine .step (.step (.start (initialized_initialized h)) ?_) ?_
  · exact .funds rfl rfl (decode_encodeDeposit 10 (by simp)) trivial
  · exact .funds rfl rfl (decode_encodeWithdraw burnt (by simp)) trivial

/-- At share price one, 10 staked and 4 asked back. -/
theorem stake_ledger_at_par :
    (∃ s, Tracks layout fund Sample.state s (shrunk 100 100 4)) ∧
      Empties curve insureApart layout fund Sample.state (shrunk 100 100 4) := by
  refine stake_ledger insureApart_staking (by decide) (history_run (by decide +kernel)) ?_
  unfold history
  refine List.forall_mem_cons.mpr ⟨?_, List.forall_mem_singleton.mpr ?_⟩
  · intro ctx data hlabel _
    obtain ⟨rfl, rfl⟩ := Prod.mk.inj (Option.some.inj hlabel)
    refine ⟨rfl, fun shares adapterData hdecode => ?_⟩
    obtain ⟨rfl, -⟩ := AdapterInstruction.withdraw.inj
      (Except.ok.inj ((decode_encodeWithdraw 4 (by simp)).symm.trans hdecode))
    exact ⟨spotMarket, ifVault, ⟨usdcMint, vaultAuthority fund, 110⟩, rfl, rfl, by decide +kernel,
      by decide +kernel⟩
  · intro ctx data hlabel _
    obtain ⟨rfl, rfl⟩ := Prod.mk.inj (Option.some.inj hlabel)
    refine ⟨rfl, fun shares adapterData hdecode => ?_⟩
    have hdeposit := (@decode_encodeDeposit [] 10 (by simp)).symm.trans hdecode
    simp at hdeposit

/-- At share price two, 10 staked buy 5 shares. Of these, 3 asked back burn one. -/
theorem stake_ledger_above_par :
    Staking layout fund insureApart ∧
    Run (Initialized curve insureApart fund Sample.state)
      (StakeStep curve insureApart layout Sample.state) (history 100 50 3) (shrunk 100 50 3) ∧
    (shrunk 100 50 3).state? AdapterState Sample.state =
      some (Dispatcher.Sample.stakeState 2) ∧
    stakeShares ((shrunk 100 50 3).bytes layout stake) = .ok 4 ∧
    ¬ ∃ s, Tracks layout fund Sample.state s (shrunk 100 50 3) := by
  have hstored : (shrunk 100 50 3).state? AdapterState Sample.state =
      some (Dispatcher.Sample.stakeState 2) := by decide +kernel
  have hheld : stakeShares ((shrunk 100 50 3).bytes layout stake) = .ok 4 := by decide +kernel
  refine ⟨insureApart_staking, history_run (by decide +kernel), hstored, hheld, ?_⟩
  rintro ⟨s, htracks⟩
  have hstate := Option.some.inj (hstored.symm.trans htracks.stored)
  have hcounted := htracks.counted
  rw [← hstate] at hcounted
  have hdiffer : (4 : Nat) = 2 := Except.ok.inj (hheld.symm.trans hcounted)
  exact absurd hdiffer (by decide)

end Sample

end YieldAdapter.DriftIf

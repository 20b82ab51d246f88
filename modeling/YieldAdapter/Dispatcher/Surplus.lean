import YieldAdapter.Dispatcher.Values
import YieldAdapter.Dispatcher.Vaults

/-!
# What is priced and what can be withdrawn

Jupiter and Maple price the tokens that a position's vault holds, and accept withdrawals of
what is booked. Along any run in which redemptions take exactly what they are asked to, the
vault holds what is booked and what reached it from outside. The value counts both, and no
withdrawal reaches the second.
-/

set_option autoImplicit false

namespace YieldAdapter.Dispatcher

open Solana

/-- The step is a completed request for the position. -/
def Own (curve : Curve) (position : Pubkey) (w : Chain) : Option Request → Prop
  | none => False
  | some request => request.Done curve w ∧ request.Names position

instance (curve : Curve) (position : Pubkey) (w : Chain) (label : Option Request) :
    Decidable (Own curve position w label) :=
  match label with
  | none => inferInstanceAs (Decidable False)
  | some _ => inferInstanceAs (Decidable (_ ∧ _))

/-- What `vault` has gained since the state account at `key` was created, other than by the
position's own requests, in a history that ends in `w'`. -/
def received (curve : Curve) (adapter : Adapter) (position key vault : Pubkey) :
    List (Chain × Option Request) → Chain → Nat
  | [], _ => 0
  | (w, label) :: past, w' =>
      if w.typed? adapter.programId key = none then 0
      else received curve adapter position key vault past w +
        if Own curve position w label then 0 else balance vault w' - balance vault w

/-- The shares priced for `s` are those booked, and once all of them have been withdrawn the
vault is empty and the value 0. -/
structure Settles (curve : Curve) (layout : Layout ProgramState) (adapter : Adapter) (w : Chain)
    (vault : Pubkey) (s : adapter.State) : Prop where
  priced : ∀ n, adapter.Prices layout w s n ↔ n = (AdapterAccount.header s).totalShares
  cleared : ∀ request : Request, OverTrustee curve layout adapter Exactly request.exec →
    request.ix = .withdraw (AdapterAccount.header s).totalShares →
    request.Names (AdapterAccount.header s).position → request.Done curve w →
      balance vault (request.apply curve w) = 0 ∧
        ∀ accounts v w', Answers curve layout adapter (request.apply curve w)
          (AdapterAccount.header s).position accounts v w' → v = 0

section Surplus

variable {curve : Curve} {layout : Layout ProgramState} {adapter : Adapter} {w w' last : Chain}
variable {past : List (Chain × Option Request)} {label : Option Request} {key vault : Pubkey}
variable {s : adapter.State} {t : TokenAccount}

/-- In these adapters the price is that of what the vault holds. -/
theorem prices_iff (hbalance : adapter = .jupiterLp ∨ adapter = .mapleSyrup)
    (hvault : adapter.shareVault s = some vault) (ht : w.token? vault = some t) {n : UInt64} :
    adapter.Prices layout w s n ↔ n = t.amount := by
  obtain ⟨hjupiter, hmaple⟩ := @tokenAmount_of_token? layout w vault t ht
  rcases hbalance with rfl | rfl
  · obtain rfl := Option.some.inj hvault
    simp only [Adapter.Prices, hjupiter, Except.ok.injEq, eq_comm]
  · obtain rfl := Option.some.inj hvault
    simp only [Adapter.Prices, hmaple, Except.ok.injEq, eq_comm]

/-- One step keeps the account: a gift is received, and what the position's own requests
move is booked. -/
theorem Moved.balance_eq (h : Moved curve adapter Exactly w w' label key vault s)
    (hkamino : adapter ≠ .kaminoUsdc) (hvault : adapter.shareVault s = some vault)
    (hbefore : ∀ before : adapter.State, w.state? adapter.State key = some before →
      adapter.shareVault before = some vault →
        balance vault w = (AdapterAccount.header before).totalShares.toNat +
          received curve adapter (AdapterAccount.header before).position key vault past w) :
    balance vault w' = (AdapterAccount.header s).totalShares.toNat +
      received curve adapter (AdapterAccount.header s).position key vault ((w, label) :: past)
        w' := by
  -- what is stored was not just opened, so it received all it did earlier
  have hthere : ∀ {before : adapter.State}, w.state? adapter.State key = some before →
      w.typed? adapter.programId key ≠ none := by
    intro before hstored hnone
    rw [state?_iff_typed?, hnone] at hstored
    cases hstored
  cases h with
  | opened vacant empty bare =>
    simp only [received, if_pos vacant, empty, bare]
    rfl
  -- not its own request: whatever arrived is a gift
  | carried stored other grown =>
    have hown : ¬ Own curve (AdapterAccount.header s).position w label := by
      cases label with
      | none => exact id
      | some request => exact fun hown => other request rfl hown.1 hown.2
    have hheld := hbefore s stored hvault
    simp only [received, if_neg (hthere stored), if_neg hown]
    omega
  | @deposited request amount total before label_eq ix done named stored after booked =>
    rw [after, shareVault_setTotalShares] at hvault
    rw [after, AdapterAccount.header_setTotalShares] at named ⊢
    have hown : Own curve (AdapterAccount.header before).position w label := by
      rw [label_eq]
      exact ⟨done, named⟩
    have hheld := hbefore before stored hvault
    simp only [received, if_neg (hthere stored), if_pos hown]
    omega
  | @withdrawn request shares total held before label_eq ix done named stored after booked kept
      steady taken =>
    rw [after, shareVault_setTotalShares] at hvault
    rw [after, AdapterAccount.header_setTotalShares] at named ⊢
    have hown : Own curve (AdapterAccount.header before).position w label := by
      rw [label_eq]
      exact ⟨done, named⟩
    have hheld := hbefore before stored hvault
    have hsteady := steady hkamino
    unfold Exactly at taken
    simp only [received, if_neg (hthere stored), if_pos hown]
    omega

/-- Along a run a vault holds what is booked and what it received. -/
theorem balance_eq_of_run (hkamino : adapter ≠ .kaminoUsdc)
    (run : Run Untouched (Step curve (OverTrustee curve layout adapter Exactly) Suite) past last)
    (hstored : last.state? adapter.State key = some s)
    (hvault : adapter.shareVault s = some vault) :
    balance vault last = (AdapterAccount.header s).totalShares.toNat +
      received curve adapter (AdapterAccount.header s).position key vault past last := by
  refine run.invariant (fun past w => ∀ s : adapter.State, w.state? adapter.State key = some s →
    adapter.shareVault s = some vault →
      balance vault w = (AdapterAccount.header s).totalShares.toNat +
        received curve adapter (AdapterAccount.header s).position key vault past w) ?_ ?_ s hstored
    hvault
  · intro w hstart s hstored
    rw [state?_iff_typed?, hstart.vacant] at hstored
    cases hstored
  · intro past w label w' hrun hbefore hstep s hstored hvault
    have hmoved := (moved_of_step (canonical_of_run hrun) (allLodged_of_run hrun) hstep
      (state?_iff_typed?.mp hstored) hvault).1
    exact hmoved.balance_eq hkamino hvault hbefore

/-- Withdrawing all that is booked leaves what was received, and that is what is priced. -/
theorem cleared_of_withdraw (hbalance : adapter = .jupiterLp ∨ adapter = .mapleSyrup)
    (run : Run Untouched (Step curve (OverTrustee curve layout adapter Exactly) Suite) past last)
    (hstored : last.state? adapter.State key = some s) (hvault : adapter.shareVault s = some vault)
    (hnone : received curve adapter (AdapterAccount.header s).position key vault past last = 0)
    {request : Request} (hexec : OverTrustee curve layout adapter Exactly request.exec)
    (hix : request.ix = .withdraw (AdapterAccount.header s).totalShares)
    (hnames : request.Names (AdapterAccount.header s).position) (hdone : request.Done curve last) :
    balance vault (request.apply curve last) = 0 ∧
      ∀ accounts v w', Answers curve layout adapter (request.apply curve last)
        (AdapterAccount.header s).position accounts v w' → v = 0 := by
  have hkamino : adapter ≠ .kaminoUsdc := by rcases hbalance with rfl | rfl <;> simp
  have htyped := state?_iff_typed?.mp hstored
  obtain ⟨pool, hpool⟩ := allLodged_of_run run key s vault htyped hvault
  obtain ⟨hlodged, total, _, hstored', hburned, -⟩ := lodged_of_withdraw hexec
    (canonical_of_run run) htyped hvault hpool hix hdone hnames
  have hrun' := run.step (.request request hexec)
  rw [← state?_iff_typed?] at hstored'
  have hvault' := (shareVault_setTotalShares s total).trans hvault
  -- nothing is booked any more
  have htotal : total = 0 := by
    rw [← UInt64.toNat_inj]
    have hzero : (0 : UInt64).toNat = 0 := rfl
    omega
  have hempty : balance vault (request.apply curve last) = 0 := by
    have hheld := balance_eq_of_run hkamino hrun' hstored' hvault'
    have hthere : last.typed? adapter.programId key ≠ none := by simp [htyped]
    have hown : Own curve (AdapterAccount.header s).position last (some request) := ⟨hdone, hnames⟩
    rw [AdapterAccount.header_setTotalShares, htotal] at hheld
    simp only [received, if_neg hthere, if_pos hown, hnone] at hheld
    exact hheld
  refine ⟨hempty, fun accounts v w' hanswers => ?_⟩
  obtain ⟨exec, ctx, data, adapterData, hprogram, rfl, hnamed, hdecode, hentry, hreturned⟩ :=
    hanswers
  obtain ⟨key', s', r, other, hreads, hkept, -, hvalue⟩ := Adapter.reads_of_entry hdecode hentry
  -- the position has no other state account
  have hbacks := Option.some.inj (hreads.named.symm.trans hnamed)
  obtain ⟨rfl, rfl⟩ := (canonical_of_run hrun').eq_of_position (state?_iff_typed?.mp hstored')
    (state?_iff_typed?.mp hreads.stored) (by rw [hbacks, AdapterAccount.header_setTotalShares])
  obtain ⟨t, ht, -⟩ := hlodged.held
  rw [balance_of_token? ht] at hempty
  have hamount : t.amount = 0 := by
    rw [← UInt64.toNat_inj]
    exact hempty
  rw [← World.token?_congr (hkept hkamino)] at ht
  have hprices : adapter.Prices layout w' (AdapterAccount.setTotalShares s total) 0 :=
    (prices_iff hbalance hvault' ht).mpr hamount.symm
  rw [Adapter.value_of_prices_zero hbalance hprices] at hvalue
  have hreturned' := hreads.returned.symm.trans hreturned
  rw [← leBytes64_inj (Prod.mk.inj hreturned').2, ← Except.ok.inj hvalue]

/-- What is priced for a position is what can be withdrawn, exactly when nothing reached its
vault but by its own requests. What can be withdrawn is in any case what is booked. -/
theorem settles_iff (hbalance : adapter = .jupiterLp ∨ adapter = .mapleSyrup)
    (run : Run Untouched (Step curve (OverTrustee curve layout adapter Exactly) Suite) past last)
    (hstored : last.state? adapter.State key = some s)
    (hvault : adapter.shareVault s = some vault) :
    (∀ ctx (accounts : FundPrefix adapter.State) shares adapterData,
      accounts.adapterState.data = s →
      guardCall ctx accounts.instructionsSysvar adapterData = .ok () →
        (withdrawGuards ctx accounts shares adapterData = .ok () ↔
          0 < shares ∧ shares ≤ (AdapterAccount.header s).totalShares)) ∧
    (Settles curve layout adapter last vault s ↔
      received curve adapter (AdapterAccount.header s).position key vault past last = 0) := by
  constructor
  · rintro ctx accounts shares adapterData rfl hguard
    simp [withdrawGuards_ok, hguard]
  have hkamino : adapter ≠ .kaminoUsdc := by rcases hbalance with rfl | rfl <;> simp
  obtain ⟨pool, hpool⟩ := allLodged_of_run run key s vault (state?_iff_typed?.mp hstored) hvault
  obtain ⟨t, ht, -⟩ := hpool.held
  have hheld := balance_eq_of_run hkamino run hstored hvault
  rw [balance_of_token? ht] at hheld
  constructor
  · intro hsettles
    -- the vault's own amount is a price, so it is the one booked
    have hamount := (hsettles.priced t.amount).mp ((prices_iff hbalance hvault ht).mpr rfl)
    rw [hamount] at hheld
    omega
  · intro hnone
    have hamount : t.amount = (AdapterAccount.header s).totalShares := by
      rw [← UInt64.toNat_inj]
      omega
    refine ⟨fun n => ?_, fun request hexec hix hnames hdone =>
      cleared_of_withdraw hbalance run hstored hvault hnone hexec hix hnames hdone⟩
    rw [prices_iff hbalance hvault ht, hamount]

end Surplus

/-! ### A gift to the holder -/

namespace Sample

theorem trader_overTrustee : OverTrustee curve layout .mapleSyrup Exactly trader :=
  ⟨trade, trade_trustee .mapleSyrup, rfl⟩

/-- Nothing has reached the account of `holding` but what was swapped. -/
theorem settles_iff_holding : Settles curve layout .mapleSyrup holding syrupKey (syrupState 10) :=
  (@settles_iff curve layout .mapleSyrup holding holderPast (stateKey MapleSyrup.programId) syrupKey
    (syrupState 10) (.inr rfl) (holder_run trader_overTrustee) holding_stored rfl).2.mpr
      (by decide +kernel)

/-- Someone sends 5 syrupUSDC of their own to the position's account. -/
def gifted : Chain := (moveTokens (.key 45) syrupKey 5 holding).getD holding

def holderWithdraws (shares : UInt64) : Request :=
  request swapAccounts (.withdraw shares) trader (by rfl)

/-- Anyone's request for the value of the holder's position. -/
def appraising : Request :=
  request (valueAccounts MapleSyrup.programId (stateKey MapleSyrup.programId)
    [readonly syrupKey, readonly whirlpool]) .currentValue trader (by decide)

/-- A wallet needs nobody's leave to give its tokens away. -/
theorem framed_of_gift {source destination : Pubkey} {amount : UInt64} {w : Chain} {n : Nat}
    (hwallet : (w.token? source).map (·.authority) = some (.key n)) :
    Framed Suite (fun key => ¬ Derived key) w
      ((moveTokens source destination amount w).getD w) := by
  cases hmoved : moveTokens source destination amount w with
  | none => exact .refl w
  | some w' =>
    refine moveTokens_framed hmoved (fun t ht => ?_) not_suite_tokenProgramId
    rw [ht] at hwallet
    have hauthority : t.authority = .key n := Option.some.inj hwallet
    rw [hauthority]
    rintro ⟨_, _, hsame⟩
    cases hsame

theorem gifted_run :
    Run Untouched (Step curve (OverTrustee curve layout .mapleSyrup Exactly) Suite)
      ((holding, none) :: holderPast) gifted :=
  (holder_run trader_overTrustee).step
    (.outside (@framed_of_gift _ _ _ _ 46 (by decide +kernel)))

/-- After the gift 15 shares are priced, 10 can be withdrawn, and the 5 that are left are worth
5 and belong to nobody. -/
theorem gift_out_of_reach :
    Run Untouched (Step curve (OverTrustee curve layout .mapleSyrup Exactly) Suite)
      ((holding, none) :: holderPast) gifted ∧
    gifted.state? MapleSyrup.AdapterState (stateKey MapleSyrup.programId) = some (syrupState 10) ∧
    ¬ Settles curve layout .mapleSyrup gifted syrupKey (syrupState 10) ∧
    (appraising.apply curve gifted).returnData = (dispatcherId, leBytes64 15) ∧
    ¬ (holderWithdraws 11).Done curve gifted ∧ (holderWithdraws 10).Done curve gifted ∧
    ((holderWithdraws 10).apply curve gifted).state? MapleSyrup.AdapterState
      (stateKey MapleSyrup.programId) = some (syrupState 0) ∧
    balance syrupKey ((holderWithdraws 10).apply curve gifted) = 5 ∧
    (appraising.apply curve ((holderWithdraws 10).apply curve gifted)).returnData =
      (dispatcherId, leBytes64 5) ∧
    ¬ (holderWithdraws 1).Done curve ((holderWithdraws 10).apply curve gifted) := by
  refine ⟨gifted_run, by decide +kernel, fun hsettles => ?_, by decide +kernel, by decide +kernel,
    by decide +kernel, by decide +kernel, by decide +kernel, by decide +kernel, by decide +kernel⟩
  have hpriced : MapleSyrup.tokenAmount (gifted.bytes layout syrupKey) = .ok 15 := by
    decide +kernel
  have hbooked : (15 : UInt64) = 10 := (hsettles.priced 15).mp hpriced
  exact absurd hbooked (by decide)

end Sample

end YieldAdapter.Dispatcher

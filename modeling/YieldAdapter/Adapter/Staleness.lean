import YieldAdapter.Adapter.Pricing
import YieldAdapter.Adapter.Valuation

/-!
# How old a reported value may be

The interface sets a limit on the age of the state a value is read from, and both sides
have an error for exceeding it. Kamino is the adapter that knows the age: it reads the slot
at which the reserve was last refreshed. What its read of the value asks of the accounts, of
the refresh and of the reserve is spelled out here, and the age is not part of it.
-/

set_option autoImplicit false

namespace YieldAdapter

open Solana

/-- The slot field of a reserve is within the limit. -/
def Fresh (clock : Clock) (reserveData : Bytes) : Prop :=
  clock.slot.toNat - maxValueStalenessSlots.toNat ≤ leAt 8 reserveData 16

instance (clock : Clock) (reserveData : Bytes) : Decidable (Fresh clock reserveData) :=
  inferInstanceAs (Decidable (_ ≤ _))

/-- The reserve is long enough, and the shares' part of it is defined and fits a `u64`. -/
def Priceable (reserveData : Bytes) (shares : UInt64) : Prop :=
  2600 ≤ reserveData.length ∧
    proRataFits (totalLiquidity reserveData) (leAt 8 reserveData 2592) shares.toNat

/-- What is returned is the worth of the tracked shares at the pinned reserve, and the reserve
is fresh. -/
def ServesFresh (layout : Layout ProgramState) (key : Pubkey) (w w' : Chain) : Prop :=
  ∀ s, w.state? KaminoUsdc.AdapterState key = some s →
    ∃ v, w'.returnData.2 = leBytes64 v ∧
      KaminoUsdc.collateralValueUsdc (w'.bytes layout s.kaminoReserve) s.header.totalShares =
        .ok v ∧
      Fresh w.clock (w'.bytes layout s.kaminoReserve)

namespace KaminoUsdc

/-- What a read of the value asks of the call and of the accounts it is handed. -/
structure AdapterCurrentValue.Admitted (curve : Curve) (ctx : Context) (w : Chain)
    (adapterData : Bytes) (accounts : AdapterCurrentValue) : Prop where
  slots : ∃ tail, ctx.accounts = accounts.instructionsSysvar :: accounts.position ::
    accounts.adapterState.info :: accounts.reserve :: accounts.lendingMarket ::
      accounts.scopePrices :: accounts.klendProgram :: tail
  accepted : accounts.toValuePrefix.Accepted curve ctx w
  writable : accounts.reserve.isWritable = true
  reserve : accounts.reserve.key = accounts.adapterState.data.kaminoReserve
  owner : w.ownedBy accounts.klendProgram.key accounts.reserve.key = true
  executable : w.executable accounts.klendProgram.key = true
  short : adapterData.length ≤ maxAdapterDataLen
  called : ctx.sysvar.programIds[ctx.sysvar.currentIndex]? = some dispatcherId

/-- `refresh_reserve`, as the adapter issues it. -/
def AdapterCurrentValue.refresh (accounts : AdapterCurrentValue) : Instruction where
  programId := accounts.klendProgram.key
  accounts :=
    [.new accounts.reserve.key false, .newReadonly accounts.lendingMarket.key false,
      .newReadonly accounts.klendProgram.key false, .newReadonly accounts.klendProgram.key false,
      .newReadonly accounts.klendProgram.key false, .newReadonly accounts.scopePrices.key false]
  data := .bytes klendRefreshReserve

/-- The refresh may be called, and leaves `w₁`. -/
def AdapterCurrentValue.Refreshes (exec : Callee ProgramState Event) (ctx : Context) (w : Chain)
    (accounts : AdapterCurrentValue) (w₁ : Chain) : Prop :=
  (accounts.klendProgram.key ∉ ctx.callers ∨ accounts.klendProgram.key = ctx.programId) ∧
    exec ⟨ctx.sysvar, ctx.stack, accounts.refresh⟩ (w.called ctx accounts.refresh) = some w₁

/-- No admitted read has its refresh leave a reserve that is priceable and yet stale. -/
def RefreshedInTime (curve : Curve) (exec : Callee ProgramState Event)
    (layout : Layout ProgramState) (ctx : Context) (adapterData : Bytes) (w : Chain) : Prop :=
  ∀ (accounts : AdapterCurrentValue) (w₁ : Chain), accounts.Admitted curve ctx w adapterData →
    accounts.Refreshes exec ctx w w₁ →
    Priceable (w₁.bytes layout accounts.reserve.key)
      accounts.adapterState.data.header.totalShares →
    Fresh w.clock (w₁.bytes layout accounts.reserve.key)

/-- Whenever a read of the value completes, what it serves is fresh. -/
def ServesOnlyFresh (curve : Curve) (exec : Callee ProgramState Event)
    (layout : Layout ProgramState) (ctx : Context) (adapterData : Bytes) (w : Chain) : Prop :=
  ∀ key w', ctx.accounts[2]?.map (·.key) = some key →
    adapterCurrentValue curve exec ctx layout adapterData w = (.ok (), w') →
      ServesFresh layout key w w'

section Rules

variable {curve : Curve} {exec : Callee ProgramState Event} {ctx : Context} {w w' : Chain}
variable {layout : Layout ProgramState} {adapterData : Bytes}

/-- Once the price is known nothing can fail. -/
theorem reportValueWith_of_price {accounts : ValuePrefix AdapterState}
    {price : Exec Chain (UInt64 × UInt64)} {v asOfSlot : UInt64} {w₁ : Chain}
    (hguard : guardCall ctx accounts.instructionsSysvar adapterData = .ok ())
    (hprice : price w = (.ok (v, asOfSlot), w₁)) :
    reportValueWith ctx accounts adapterData price w =
      (.ok (), { w₁ with
        returnData := (ctx.programId, leBytes64 v)
        events := (ctx.programId,
          .adapterValue accounts.adapterState.data.header.position v asOfSlot) :: w₁.events }) :=
  Exec.bind_ok.mpr ⟨(), w, Exec.ofExcept_ok.mpr ⟨hguard, rfl⟩,
    Exec.bind_ok.mpr ⟨(v, asOfSlot), w₁, hprice, rfl⟩⟩

theorem priceable_iff {reserveData : Bytes} {shares : UInt64} :
    Priceable reserveData shares ↔ ∃ v, collateralValueUsdc reserveData shares = .ok v := by
  constructor
  · rintro ⟨hlong, hfits⟩
    rw [collateralValueUsdc_eq hlong]
    rcases hfits with hzero | ⟨hsupply, hfits⟩
    · have hworth : (0 : UInt64).toNat =
          shares.toNat * totalLiquidity reserveData / leAt 8 reserveData 2592 := by
        rw [hzero, Nat.zero_mul, Nat.zero_div]
        rfl
      exact ⟨0, proRataPrice_ok.mpr ⟨.inl hzero, hworth⟩⟩
    · exact ⟨_, proRataPrice_ok.mpr ⟨.inr ⟨hsupply, hfits⟩, UInt64.toNat_ofNat_of_lt' hfits⟩⟩
  · rintro ⟨v, hv⟩
    have hholds : wordHolds shares shares.toNat := rfl
    exact (((quoted_collateralValueUsdc reserveData).quote hholds).mp hv).1

theorem reserveLastUpdateSlot_ok {reserveData : Bytes} {slot : UInt64} :
    reserveLastUpdateSlot reserveData = .ok slot ↔
      24 ≤ reserveData.length ∧ slot.toNat = leAt 8 reserveData 16 := by
  have hlt : leAt 8 reserveData 16 < 2 ^ 64 := leAt_lt 8 reserveData 16
  simp only [reserveLastUpdateSlot, readU64, except_bind_ok, readField_ok]
  constructor
  · rintro ⟨_, ⟨hlong, rfl⟩, hpure⟩
    refine ⟨hlong, ?_⟩
    rw [← Except.ok.inj hpure]
    exact UInt64.toNat_ofNat_of_lt' hlt
  · rintro ⟨hlong, hslot⟩
    refine ⟨_, ⟨hlong, rfl⟩, congrArg Except.ok ?_⟩
    rw [← UInt64.toNat_inj, hslot]
    exact UInt64.toNat_ofNat_of_lt' hlt

/-- The account checks of a read, and its guard, are what `Admitted` says. -/
theorem AdapterCurrentValue.admitted_iff {accounts : AdapterCurrentValue} :
    accounts.Admitted curve ctx w adapterData ↔
      AdapterCurrentValue.tryAccounts curve ctx w = .ok accounts ∧
        guardCall ctx accounts.instructionsSysvar adapterData = .ok () := by
  constructor
  · intro h
    obtain ⟨tail, hslots⟩ := h.slots
    refine ⟨?_, guardCall_ok.mpr ⟨h.short, h.accepted.sysvar, h.called⟩⟩
    -- the checks of the shared slots come first, then the reserve's and the program's
    have hconstraints : accounts.toValuePrefix.constraints curve ctx = .ok () := by
      simp only [ValuePrefix.constraints, except_bind_ok, checkAddress_ok, checkStateSeeds,
        checkSeeds_ok, checkStatePosition, check_ok]
      exact ⟨(), h.accepted.sysvar, (), h.accepted.seeds, h.accepted.position⟩
    unfold AdapterCurrentValue.tryAccounts
    rw [hslots]
    simp only [except_bind_ok, ValuePrefix.load_ok, checkMut_ok, checkAddress_ok,
      checkKlendProgram_ok]
    exact ⟨accounts.toValuePrefix, ⟨rfl, rfl, rfl, h.accepted.state⟩, (), hconstraints, (),
      h.writable, (), h.reserve, (), ⟨h.owner, h.executable⟩, rfl⟩
  · rintro ⟨haccounts, hguard⟩
    obtain ⟨hshort, -, hcalled⟩ := guardCall_ok.mp hguard
    unfold AdapterCurrentValue.tryAccounts at haccounts
    split at haccounts
    · rename_i hlist
      simp only [except_bind_ok, ValuePrefix.load_ok, checkMut_ok, checkAddress_ok,
        checkKlendProgram_ok] at haccounts
      obtain ⟨slots, ⟨rfl, rfl, rfl, hstate⟩, _, hslots, _, hwritable, _, hreserve, _,
        ⟨howner, hexecutable⟩, hpure⟩ := haccounts
      obtain rfl := Except.ok.inj hpure
      exact ⟨⟨_, hlist⟩, ValuePrefix.accepted_of_constraints hstate hslots, hwritable, hreserve,
        howner, hexecutable, hshort, hcalled⟩
    · simp [throw, throwThe, MonadExceptOf.throw] at haccounts

/-- The refresh takes nothing that an admitted read was not handed. -/
theorem AdapterCurrentValue.Admitted.refresh_ok {accounts : AdapterCurrentValue}
    (h : accounts.Admitted curve ctx w adapterData) :
    refreshReserve curve exec ctx accounts.klendProgram accounts.reserve accounts.lendingMarket
        accounts.scopePrices w = (.ok (), w') ↔
      ∃ w₁, accounts.Refreshes exec ctx w w₁ ∧
        w' = { w₁ with calls := (w.called ctx accounts.refresh).calls, clock := w.clock } := by
  have hallowed : ∀ account ∈ accounts.refresh.accounts, ctx.allows [] account = true := by
    obtain ⟨tail, hslots⟩ := h.slots
    -- each account of the refresh is among those handed in, so its privileges are too
    have hlisted : ∀ info : AccountInfo,
        info ∈ [accounts.reserve, accounts.lendingMarket, accounts.scopePrices,
          accounts.klendProgram] → info ∈ ctx.accounts := by
      intro info hmem
      rw [hslots]
      simp only [List.mem_cons, List.not_mem_nil, or_false] at hmem ⊢
      tauto
    simp only [refresh, AccountMeta.new, AccountMeta.newReadonly, List.forall_mem_cons,
      List.not_mem_nil, false_imp_iff, implies_true, and_true]
    refine ⟨?_, ?_, ?_, ?_, ?_, ?_⟩
    · exact Context.allows_of_mem (hlisted accounts.reserve (by simp)) rfl (by simp)
        fun _ => h.writable
    · exact Context.allows_of_mem (hlisted accounts.lendingMarket (by simp)) rfl (by simp) (by simp)
    · exact Context.allows_of_mem (hlisted accounts.klendProgram (by simp)) rfl (by simp) (by simp)
    · exact Context.allows_of_mem (hlisted accounts.klendProgram (by simp)) rfl (by simp) (by simp)
    · exact Context.allows_of_mem (hlisted accounts.klendProgram (by simp)) rfl (by simp) (by simp)
    · exact Context.allows_of_mem (hlisted accounts.scopePrices (by simp)) rfl (by simp) (by simp)
  -- the accounts the source lists are those of `refresh`
  change invoke curve exec ctx accounts.refresh _ w = _ ↔ _
  rw [invoke_ok_iff]
  constructor
  · rintro ⟨hidle, -, w₁, hrun, rfl⟩
    exact ⟨w₁, ⟨hidle, hrun⟩, rfl⟩
  · rintro ⟨w₁, ⟨hidle, hrun⟩, rfl⟩
    exact ⟨hidle, hallowed, w₁, hrun, rfl⟩

/-- Everything a completed read did, and everything it asked for. The slot is read and
announced, and is not compared with anything. -/
theorem adapterCurrentValue_ok_iff :
    adapterCurrentValue curve exec ctx layout adapterData w = (.ok (), w') ↔
      ∃ (accounts : AdapterCurrentValue) (w₁ : Chain) (v slot : UInt64),
        accounts.Admitted curve ctx w adapterData ∧ accounts.Refreshes exec ctx w w₁ ∧
        collateralValueUsdc (w₁.bytes layout accounts.reserve.key)
          accounts.adapterState.data.header.totalShares = .ok v ∧
        slot.toNat = leAt 8 (w₁.bytes layout accounts.reserve.key) 16 ∧
        w' = { w₁ with
          calls := (w.called ctx accounts.refresh).calls
          clock := w.clock
          returnData := (ctx.programId, leBytes64 v)
          events := (ctx.programId, .adapterValue accounts.adapterState.data.header.position v
            (min w.clock.slot slot)) :: w₁.events } := by
  simp only [adapterCurrentValue, Exec.bind_ok, Exec.read_ok, Exec.ofExcept_ok]
  constructor
  · rintro ⟨_, _, ⟨rfl, rfl⟩, accounts, _, ⟨haccounts, rfl⟩, hrun⟩
    obtain ⟨hguard, v, asOfSlot, w₂, hprice, rfl⟩ := reportValueWith_ok hrun
    have hadmitted := AdapterCurrentValue.admitted_iff.mpr ⟨haccounts, hguard⟩
    simp only [priceShares, Exec.bind_ok, Exec.read_ok, Exec.ofExcept_ok, Exec.pure_ok,
      Prod.mk.injEq, hadmitted.refresh_ok] at hprice
    obtain ⟨_, _, ⟨w₁, hrefreshed, rfl⟩, _, _, ⟨rfl, rfl⟩, value, _, ⟨hvalue, rfl⟩, slot, _,
      ⟨hslot, rfl⟩, ⟨rfl, rfl⟩, rfl⟩ := hprice
    exact ⟨accounts, w₁, v, slot, hadmitted, hrefreshed, hvalue,
      (reserveLastUpdateSlot_ok.mp hslot).2, rfl⟩
  · rintro ⟨accounts, w₁, v, slot, hadmitted, hrefreshed, hvalue, hslot, rfl⟩
    obtain ⟨haccounts, hguard⟩ := AdapterCurrentValue.admitted_iff.mp hadmitted
    -- data long enough to be priced also holds the slot
    have hlong : 24 ≤ (w₁.bytes layout accounts.reserve.key).length :=
      le_trans (by decide) (priceable_iff.mpr ⟨v, hvalue⟩).1
    have hprice : priceShares curve exec ctx layout accounts w =
        (.ok (v, min w.clock.slot slot), { w₁ with
          calls := (w.called ctx accounts.refresh).calls
          clock := w.clock }) := by
      simp only [priceShares, Exec.bind_ok, Exec.read_ok, Exec.ofExcept_ok, Exec.pure_ok,
        hadmitted.refresh_ok]
      exact ⟨(), _, ⟨w₁, hrefreshed, rfl⟩, _, _, ⟨rfl, rfl⟩, v, _, ⟨hvalue, rfl⟩, slot, _,
        ⟨reserveLastUpdateSlot_ok.mpr ⟨hlong, hslot⟩, rfl⟩, rfl, rfl⟩
    exact ⟨w, w, ⟨rfl, rfl⟩, accounts, w, ⟨haccounts, rfl⟩, reportValueWith_of_price hguard hprice⟩

/-- Reads of the value are fresh exactly as far as the refresh sees to it. -/
theorem servesOnlyFresh_iff :
    ServesOnlyFresh curve exec layout ctx adapterData w ↔
      RefreshedInTime curve exec layout ctx adapterData w := by
  have hstate : ∀ {accounts : AdapterCurrentValue}, accounts.Admitted curve ctx w adapterData →
      ctx.accounts[2]?.map (·.key) = some accounts.adapterState.key := by
    intro accounts hadmitted
    obtain ⟨tail, hslots⟩ := hadmitted.slots
    rw [hslots]
    rfl
  constructor
  · intro hserves accounts w₁ hadmitted hrefreshed hpriceable
    obtain ⟨v, hvalue⟩ := priceable_iff.mp hpriceable
    have hslot := UInt64.toNat_ofNat_of_lt' (leAt_lt 8 (w₁.bytes layout accounts.reserve.key) 16)
    have hdone := adapterCurrentValue_ok_iff.mpr
      ⟨accounts, w₁, v, _, hadmitted, hrefreshed, hvalue, hslot, rfl⟩
    obtain ⟨_, -, -, hfresh⟩ := hserves _ _ (hstate hadmitted) hdone accounts.adapterState.data
      hadmitted.accepted.state
    rw [hadmitted.reserve]
    exact hfresh
  · intro hrefreshed key w' hkey hdone s hs
    obtain ⟨accounts, w₁, v, slot, hadmitted, hrefresh, hvalue, -, rfl⟩ :=
      adapterCurrentValue_ok_iff.mp hdone
    obtain rfl := Option.some.inj (hkey.symm.trans (hstate hadmitted))
    obtain rfl := Option.some.inj (hs.symm.trans hadmitted.accepted.state)
    have hfresh := hrefreshed accounts w₁ hadmitted hrefresh (priceable_iff.mpr ⟨v, hvalue⟩)
    rw [hadmitted.reserve] at hvalue hfresh
    exact ⟨v, rfl, hvalue, hfresh⟩

/-- One completed read of a stale reserve is enough. -/
theorem not_servesOnlyFresh {key : Pubkey} {s : AdapterState}
    (hslot : ctx.accounts[2]?.map (·.key) = some key)
    (hstored : w.state? AdapterState key = some s)
    (hdone : (adapterCurrentValue curve exec ctx layout adapterData w).1 = .ok ())
    (hstale : ¬ Fresh w.clock
      ((adapterCurrentValue curve exec ctx layout adapterData w).2.bytes layout s.kaminoReserve)) :
    ¬ ServesOnlyFresh curve exec layout ctx adapterData w := by
  intro hserves
  obtain ⟨_, -, -, hfresh⟩ := hserves key _ hslot (Prod.ext hdone rfl) s hstored
  exact hstale hfresh

end Rules

end KaminoUsdc

end YieldAdapter

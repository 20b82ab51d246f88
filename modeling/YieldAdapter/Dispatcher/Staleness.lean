import YieldAdapter.Adapter.Staleness
import YieldAdapter.Dispatcher.Shares

/-!
# Whether a stale value is ever served

The dispatcher hands on the value that an adapter returns, and looks at nothing but the
value. A read through the dispatcher is therefore as fresh as the adapter's own, and that
one is as fresh as the protocol's refresh leaves the reserve: the limit that the interface
declares is checked on neither side.
-/

set_option autoImplicit false

namespace YieldAdapter.Dispatcher

open Solana

/-- The read of a value is let through to the adapter. -/
structure CurrentValue.Admitted (curve : Curve) (ctx : Context) (w : Chain)
    (accounts : CurrentValue) : Prop where
  accepted : accounts.Accepted curve ctx w
  version : accounts.adapterEntry.data.interfaceVersion = adapterInterfaceVersion
  idle : accounts.adapterProgram.key ∉ ctx.callers ∨ accounts.adapterProgram.key = ctx.programId

/-- The call that a read of the value makes. -/
def CurrentValue.routed (accounts : CurrentValue) : Instruction :=
  currentValueInstruction accounts.adapterProgram accounts.instructionsSysvar
    accounts.position.info accounts.adapterState accounts.remainingAccounts

/-- Whenever a read through the dispatcher completes, what it serves is fresh. -/
def ServesOnlyFresh (curve : Curve) (protocol : Callee ProgramState Event)
    (layout : Layout ProgramState) (ctx : Context) (w : Chain) : Prop :=
  ∀ key w', ctx.accounts[3]?.map (·.key) = some key →
    currentValue curve (Adapter.callee curve layout protocol) ctx w = (.ok (), w') →
      ServesFresh layout key w w'

/-- The call that an admitted read makes is refreshed in time. -/
def RefreshedInTime (curve : Curve) (protocol : Callee ProgramState Event)
    (layout : Layout ProgramState) (ctx : Context) (w : Chain) : Prop :=
  ∀ accounts : CurrentValue, accounts.Admitted curve ctx w →
    KaminoUsdc.RefreshedInTime curve protocol layout
      (Adapter.kaminoUsdc.calledContext ⟨ctx.sysvar, ctx.stack, accounts.routed⟩) []
      (w.called ctx accounts.routed).fresh

section Rules

variable {curve : Curve} {exec protocol : Callee ProgramState Event} {ctx : Context}
variable {w w' : Chain} {layout : Layout ProgramState}

theorem CurrentValue.accepted_iff {accounts : CurrentValue} :
    accounts.Accepted curve ctx w ↔
      CurrentValue.load ctx w = .ok accounts ∧ accounts.constraints curve ctx w = .ok () := by
  constructor
  · intro h
    constructor
    · unfold CurrentValue.load
      rw [h.slots]
      simp only [except_bind_ok, loadState_ok]
      exact ⟨accounts.adapterEntry, ⟨rfl, h.gate.stored⟩, accounts.position, ⟨rfl, h.position⟩, rfl⟩
    · simp only [CurrentValue.constraints, checkAdapterProgram, except_bind_ok,
        checkActiveEntry_ok, check_ok, checkExecutable_ok, checkSeeds_ok, checkAddress_ok]
      exact ⟨(), ⟨h.gate.seeds, h.gate.active⟩, (), ⟨(), h.program, h.gate.executable⟩, (), h.seeds,
        h.sysvar⟩
  · rintro ⟨hload, hconstraints⟩
    exact CurrentValue.accepted_of_load hload hconstraints

/-- Nothing is handed on that the dispatcher was not handed. -/
theorem CurrentValue.Accepted.allowed {accounts : CurrentValue}
    (h : accounts.Accepted curve ctx w) :
    ∀ account ∈ accounts.routed.accounts, ctx.allows [] account = true := by
  have hslots := h.slots
  intro account hmem
  rcases List.mem_append.mp hmem with hfixed | hremaining
  · simp only [AccountMeta.newReadonly, List.mem_cons, List.not_mem_nil, or_false] at hfixed
    rcases hfixed with rfl | rfl | rfl
    · exact Context.allows_of_mem (by rw [hslots]; simp) rfl (by simp) (by simp)
    · exact Context.allows_of_mem (by rw [hslots]; simp) rfl (by simp) (by simp)
    · have hlisted : accounts.adapterState ∈ ctx.accounts := by
        rw [hslots]
        simp
      exact Context.allows_of_mem hlisted rfl (by simp) (by simp)
  · obtain ⟨info, hinfo, rfl⟩ := List.mem_map.mp hremaining
    have hlisted : info ∈ ctx.accounts := by
      rw [hslots]
      simp [hinfo]
    exact Context.allows_of_mem hlisted rfl id id

/-- Everything a completed read did, and everything it asked for: of the adapter's answer
only that it is eight bytes. -/
theorem currentValue_ok_iff :
    currentValue curve exec ctx w = (.ok (), w') ↔
      ∃ (accounts : CurrentValue) (w₁ : Chain) (v : UInt64), accounts.Admitted curve ctx w ∧
        exec ⟨ctx.sysvar, ctx.stack, accounts.routed⟩ (w.called ctx accounts.routed) = some w₁ ∧
        w₁.returnData = (accounts.adapterProgram.key, leBytes64 v) ∧
        w' = { w₁ with
          calls := (w.called ctx accounts.routed).calls
          clock := w.clock
          returnData := (ctx.programId, leBytes64 v)
          events := (ctx.programId, .valueRead accounts.position.key v) :: w₁.events } := by
  simp only [currentValue, routeCurrentValue, emit, setReturnData, Exec.bind_ok, Exec.read_ok,
    Exec.ofExcept_ok, Exec.require_ok, Exec.modify_ok, readReturn_ok, invoke_ok_iff]
  constructor
  · rintro ⟨_, _, ⟨rfl, rfl⟩, accounts, _, ⟨hload, rfl⟩, _, _, ⟨hconstraints, rfl⟩, _, _,
      ⟨hversion, rfl⟩, v, _, ⟨_, _, ⟨hidle, -, w₁, hrun, rfl⟩, hreturned, rfl⟩, _, _, rfl, rfl⟩
    have haccepted := CurrentValue.accepted_of_load hload hconstraints
    exact ⟨accounts, w₁, v, ⟨haccepted, hversion, hidle⟩, hrun, hreturned, rfl⟩
  · rintro ⟨accounts, w₁, v, ⟨haccepted, hversion, hidle⟩, hrun, hreturned, rfl⟩
    obtain ⟨hload, hconstraints⟩ := CurrentValue.accepted_iff.mp haccepted
    exact ⟨w, w, ⟨rfl, rfl⟩, accounts, w, ⟨hload, rfl⟩, (), w, ⟨hconstraints, rfl⟩, (), w,
      ⟨hversion, rfl⟩, v, _, ⟨(), _, ⟨hidle, haccepted.allowed, w₁, hrun, rfl⟩, hreturned, rfl⟩,
      (), _, rfl, rfl⟩

/-- A call for the value of a Kamino position is a run of that adapter's handler. -/
theorem callee_currentValue_iff {call : Call}
    (hprogram : call.instruction.programId = KaminoUsdc.programId)
    (hdata : call.instruction.data = .bytes (encodeCurrentValue [])) :
    Adapter.callee curve layout protocol call w = some w' ↔
      KaminoUsdc.adapterCurrentValue curve protocol (Adapter.kaminoUsdc.calledContext call) layout
        [] w.fresh = (.ok (), w') := by
  have hdecode : AdapterInstruction.decode (encodeCurrentValue []) = .ok (.currentValue []) :=
    decode_encodeCurrentValue (by simp)
  have hentry : Adapter.kaminoUsdc.entry curve protocol layout
      (Adapter.kaminoUsdc.calledContext call) (encodeCurrentValue []) =
        KaminoUsdc.adapterCurrentValue curve protocol (Adapter.kaminoUsdc.calledContext call)
          layout [] := Exec.ofExcept_bind hdecode _
  rw [← hentry]
  constructor
  · intro h
    obtain ⟨data, hdata', hrun⟩ :=
      @Adapter.entry_of_callee curve layout protocol .kaminoUsdc call w w' hprogram h
    obtain rfl := InstructionData.bytes.inj (hdata'.symm.trans hdata)
    exact hrun
  · intro hrun
    -- the runtime finds the adapter's code under its address
    have hfound : Adapter.ofProgramId call.instruction.programId = some .kaminoUsdc := by
      rw [hprogram]
      exact Adapter.ofProgramId_programId .kaminoUsdc
    unfold Adapter.callee Callee.ofProgram
    rw [hfound]
    dsimp only
    rw [hdata]
    dsimp only
    unfold Adapter.calledContext at hrun
    rw [hrun]

/-- The dispatcher's reads are as fresh as the adapter's. -/
theorem servesOnlyFresh_iff
    (hadapter : ctx.accounts[1]?.map (·.key) = some KaminoUsdc.programId) :
    ServesOnlyFresh curve protocol layout ctx w ↔ RefreshedInTime curve protocol layout ctx w := by
  have hslots : ∀ {accounts : CurrentValue}, accounts.Admitted curve ctx w →
      accounts.adapterProgram.key = KaminoUsdc.programId ∧
        ctx.accounts[3]?.map (·.key) = some accounts.adapterState.key := by
    intro accounts hadmitted
    rw [hadmitted.accepted.slots] at hadapter ⊢
    exact ⟨Option.some.inj hadapter, rfl⟩
  constructor
  · intro hserves accounts hadmitted
    obtain ⟨hkamino, hstate⟩ := hslots hadmitted
    -- a run of the adapter alone becomes one of the dispatcher around it
    rw [← KaminoUsdc.servesOnlyFresh_iff]
    intro key w' hkey hread
    obtain rfl : accounts.adapterState.key = key := by
      rw [Adapter.calledContext, Instruction.infos_key] at hkey
      exact Option.some.inj hkey
    obtain ⟨_, _, v, _, -, -, -, -, hleft⟩ := KaminoUsdc.adapterCurrentValue_ok_iff.mp hread
    have hcall := (callee_currentValue_iff hkamino rfl).mpr hread
    have hreturned : w'.returnData = (accounts.adapterProgram.key, leBytes64 v) := by
      rw [hleft, hkamino]
      rfl
    have hdone := currentValue_ok_iff.mpr ⟨accounts, w', v, hadmitted, hcall, hreturned, rfl⟩
    intro s hs
    obtain ⟨u, hu, hvalue, hfresh⟩ := hserves _ _ hstate hdone s hs
    refine ⟨u, ?_, hvalue, hfresh⟩
    rw [hreturned]
    exact hu
  · intro hrefreshed key w' hkey hdone s hs
    -- and a run of the dispatcher has one of the adapter inside
    obtain ⟨accounts, w₁, v, hadmitted, hcall, hreturned, rfl⟩ := currentValue_ok_iff.mp hdone
    obtain ⟨hkamino, hstate⟩ := hslots hadmitted
    obtain rfl := Option.some.inj (hstate.symm.trans hkey)
    have hread := (callee_currentValue_iff hkamino rfl).mp hcall
    have hnamed : (Adapter.kaminoUsdc.calledContext
        ⟨ctx.sysvar, ctx.stack, accounts.routed⟩).accounts[2]?.map (·.key) =
          some accounts.adapterState.key := by
      rw [Adapter.calledContext, Instruction.infos_key]
      rfl
    have hserves := KaminoUsdc.servesOnlyFresh_iff.mpr (hrefreshed accounts hadmitted)
    obtain ⟨u, hu, hvalue, hfresh⟩ := hserves _ _ hnamed hread s hs
    rw [hreturned] at hu
    exact ⟨u, hu, hvalue, hfresh⟩

/-- Nothing is stale before the limit has passed once. -/
theorem refreshedInTime_of_young (hyoung : w.clock.slot.toNat ≤ maxValueStalenessSlots.toNat) :
    RefreshedInTime curve protocol layout ctx w := by
  intro accounts _ accounts' w₁ _ _ _
  have hnone : w.clock.slot.toNat - maxValueStalenessSlots.toNat = 0 :=
    Nat.sub_eq_zero_of_le hyoung
  change w.clock.slot.toNat - maxValueStalenessSlots.toNat ≤ _
  rw [hnone]
  exact Nat.zero_le _

/-- One completed read of a stale reserve is enough. -/
theorem not_servesOnlyFresh {key : Pubkey} {s : KaminoUsdc.AdapterState}
    (hslot : ctx.accounts[3]?.map (·.key) = some key)
    (hstored : w.state? KaminoUsdc.AdapterState key = some s)
    (hdone : (currentValue curve (Adapter.callee curve layout protocol) ctx w).1 = .ok ())
    (hstale : ¬ Fresh w.clock
      ((currentValue curve (Adapter.callee curve layout protocol) ctx w).2.bytes layout
        s.kaminoReserve)) :
    ¬ ServesOnlyFresh curve protocol layout ctx w := by
  intro hserves
  obtain ⟨_, -, -, hfresh⟩ := hserves key _ hslot (Prod.ext hdone rfl) s hstored
  exact hstale hfresh

/-- No stale value is served, by the adapter or through the dispatcher, exactly on the reads
whose refresh leaves no reserve that is priceable and yet stale. -/
theorem no_stale_value_iff (curve : Curve) (protocol : Callee ProgramState Event)
    (layout : Layout ProgramState) :
    (∀ ctx adapterData w, KaminoUsdc.ServesOnlyFresh curve protocol layout ctx adapterData w ↔
      KaminoUsdc.RefreshedInTime curve protocol layout ctx adapterData w) ∧
    ∀ ctx w, ctx.accounts[1]?.map (·.key) = some KaminoUsdc.programId →
      (ServesOnlyFresh curve protocol layout ctx w ↔
        RefreshedInTime curve protocol layout ctx w) :=
  ⟨fun _ _ _ => KaminoUsdc.servesOnlyFresh_iff, fun _ _ => servesOnlyFresh_iff⟩

end Rules

/-! ### A reserve that is not brought up to date -/

namespace Sample

def klend : Pubkey := .key 70

def reserve : Pubkey := .key 71

def collateralMint : Pubkey := .key 72

def liquiditySupply : Pubkey := .key 73

def collateralStock : Pubkey := .key 74

/-- A reserve last refreshed at `slot`, with `available` units under `supply` collateral
tokens. -/
def reserveOf (slot available supply : Nat) : Bytes :=
  List.replicate 16 0 ++ leBytes 8 slot ++ List.replicate 200 0 ++ leBytes 8 available ++
    leBytes 16 0 ++ List.replicate 2344 0 ++ leBytes 8 supply

/-- A klend that sells its collateral one for one, and whose refresh leaves every reserve as
it is. -/
def idleLend : Callee ProgramState Event := fun call w =>
  if call.instruction.programId = klend then
    match call.instruction.data, call.instruction.accounts with
    | .bytes data, [_, _, _, _, _, supply, stock, source, destination, _, _, _] => do
        let amount ← amountAt 8 data
        let w ← pay klend call source.pubkey supply.pubkey amount w
        pay klend call stock.pubkey destination.pubkey amount w
    | _, _ => some w
  else tokenTransfer call w

theorem idleLend_lawful : Lawful Suite idleLend := by
  intro call w w' h
  unfold idleLend at h
  split_ifs at h with hklend
  · split at h
    · simp only [Option.bind_eq_bind, Option.bind_eq_some_iff] at h
      obtain ⟨amount, -, w₁, hin, hout⟩ := h
      exact (pay_framed hin).trans (pay_framed hout)
    · obtain rfl := Option.some.inj h
      exact .refl _
  · exact tokenTransfer_lawful not_suite_tokenProgramId _ _ _ h

/-- The Kamino adapter over that klend. -/
def idler : Callee ProgramState Event := Adapter.callee curve layout idleLend

theorem idler_overAdapters : OverAdapters curve layout idler := ⟨idleLend, idleLend_lawful, rfl⟩

/-- The position's collateral account. -/
def collateralKey : Pubkey :=
  .pda associatedTokenProgramId
    (associatedTokenSeeds (positionKey KaminoUsdc.programId) collateralMint) 255

/-- A reserve of 1000 units under 500 tokens, refreshed at the current slot, 30. -/
def beforeLending : Chain :=
  { funded KaminoUsdc.programId
      [(klend, program), (collateralMint, ⟨tokenProgramId, false, .mint ⟨none, 0, 6, none⟩⟩),
        (reserve, ⟨klend, false, .raw (reserveOf 30 1000 500)⟩),
        (liquiditySupply, usdc (vaultAuthority klend) 1000),
        (collateralStock,
          ⟨tokenProgramId, false, .token ⟨collateralMint, vaultAuthority klend, 500⟩⟩)]
    with clock := ⟨30, 0⟩ }

def lenderOpens : Request :=
  request (openAccounts KaminoUsdc.programId (stateKey KaminoUsdc.programId)
    [readonly reserve, readonly collateralMint, writable collateralKey, readonly tokenProgramId,
      readonly associatedTokenProgramId]) .openPosition idler (by decide)

def lenderDeposits : Request :=
  request (fundAccounts KaminoUsdc.programId (stateKey KaminoUsdc.programId)
    [writable reserve, readonly (.key 75), readonly (.key 76), readonly usdcMint,
      writable liquiditySupply, writable collateralStock, writable collateralKey,
      readonly tokenProgramId, readonly tokenProgramId, readonly (.key 77), readonly klend])
    (.deposit 10) idler (by decide)

def lenderOpened : Chain := lenderOpens.apply curve beforeLending

/-- After 10 were lent. -/
def lent : Chain := lenderDeposits.apply curve lenderOpened

/-- A thousand slots in, with nothing done. -/
def overnight : Chain := { lent with clock := ⟨1000, 0⟩ }

/-- Reserve, lending market, price feed and klend. -/
def reserveAccounts : List AccountInfo :=
  [writable reserve, readonly (.key 75), readonly (.key 77), readonly klend]

/-- Anyone's request for the value of the lender's position. -/
def appraisal : Request :=
  request (valueAccounts KaminoUsdc.programId (stateKey KaminoUsdc.programId) reserveAccounts)
    .currentValue idler (by decide)

/-- The same read, as the adapter sees it. -/
def appraisalBelow : Context :=
  ⟨KaminoUsdc.programId, [dispatcherId], ⟨[dispatcherId], 0⟩,
    [readonly sysvarInstructionsId, readonly (positionKey KaminoUsdc.programId),
      readonly (stateKey KaminoUsdc.programId)] ++ reserveAccounts⟩

/-- Time passes without anyone's leave. -/
theorem framed_of_waiting (w : Chain) (clock : Clock) :
    Framed Suite (fun key => ¬ Derived key) w { w with clock := clock } := .settled rfl rfl

theorem overnight_run : SuiteRun curve layout Untouched
    [(lent, none), (lenderOpened, some lenderDeposits), (beforeLending, some lenderOpens)]
    overnight := by
  have huntouched : Untouched beforeLending := by
    have hfunded := @funded_untouched KaminoUsdc.programId
      [(klend, program), (collateralMint, ⟨tokenProgramId, false, .mint ⟨none, 0, 6, none⟩⟩),
        (reserve, ⟨klend, false, .raw (reserveOf 30 1000 500)⟩),
        (liquiditySupply, usdc (vaultAuthority klend) 1000),
        (collateralStock,
          ⟨tokenProgramId, false, .token ⟨collateralMint, vaultAuthority klend, 500⟩⟩)]
      (by simp [program, usdc])
    exact ⟨hfunded.vacant, hfunded.silent⟩
  refine .step (.step (.step (.start huntouched) ?_) ?_) ?_
  · exact .request lenderOpens idler_overAdapters
  · exact .request lenderDeposits idler_overAdapters
  · exact .outside (framed_of_waiting lent ⟨1000, 0⟩)

/-- The state account of the lender's position. -/
def lentState : KaminoUsdc.AdapterState where
  header :=
    { position := positionKey KaminoUsdc.programId
      adapterProgram := KaminoUsdc.programId
      createdAt := 0
      totalShares := 10 }
  kaminoReserve := reserve
  collateralVault := collateralKey
  bump := 255

/-- A reserve 970 slots old is priced, and its price handed on, as if it were current. -/
theorem stale_value_served :
    SuiteRun curve layout Untouched
      [(lent, none), (lenderOpened, some lenderDeposits), (beforeLending, some lenderOpens)]
      overnight ∧
    (appraisal.apply curve overnight).returnData = (dispatcherId, leBytes64 20) ∧
    ¬ KaminoUsdc.ServesOnlyFresh curve idleLend layout appraisalBelow [] overnight ∧
    ¬ ServesOnlyFresh curve idleLend layout appraisal.ctx overnight := by
  have hstored : overnight.state? KaminoUsdc.AdapterState (stateKey KaminoUsdc.programId) =
      some lentState := by decide +kernel
  refine ⟨overnight_run, by decide +kernel, ?_, ?_⟩
  · exact KaminoUsdc.not_servesOnlyFresh rfl hstored (by decide +kernel) (by decide +kernel)
  · exact not_servesOnlyFresh rfl hstored (by decide +kernel) (by decide +kernel)

/-- In the slot of its refresh the reserve is fresh, and so is what is read from it. -/
theorem no_stale_value_lent :
    ServesOnlyFresh curve idleLend layout appraisal.ctx lent := by
  have hadapter : appraisal.ctx.accounts[1]?.map (·.key) = some KaminoUsdc.programId := rfl
  refine ((no_stale_value_iff curve idleLend layout).2 _ _ hadapter).mpr ?_
  -- thirty slots in, nothing is more than sixty slots old
  exact refreshedInTime_of_young (by decide +kernel)

end Sample

end YieldAdapter.Dispatcher

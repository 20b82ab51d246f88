import YieldAdapter.Adapter.Pricing
import YieldAdapter.Dispatcher.Staleness
import YieldAdapter.Dispatcher.Values

/-!
# Reading values through the dispatcher

A completed `current_value` hands on what the adapter's price formula gives on the accounts
that the position pins, announces it, and changes no account of this repository. Outside
Kamino it changes no account at all, so values can be read in any order and any number of
times. What is read of the Kamino positions on one reserve is each one's part of the
reserve's liquidity, for the shares that the dispatcher has reported.
-/

set_option autoImplicit false

namespace YieldAdapter.Dispatcher

open Solana Accounting

/-- The request asks for the value of a position in `adapter`. -/
def Request.Views (request : Request) (adapter : Adapter) (position : Pubkey) : Prop :=
  request.ix = .currentValue ∧
    request.ctx.accounts[1]?.map (·.key) = some adapter.programId ∧
    request.ctx.accounts[2]?.map (·.key) = some position

/-- What a completed read of a position's value did. The vault is Drift's: it is the third
of the forwarded accounts. -/
structure Viewed (layout : Layout ProgramState) (adapter : Adapter) (request : Request)
    (position : Pubkey) (w w' : Chain) (v : UInt64) : Prop where
  priced : ∃ key s vault, w.state? adapter.State key = some s ∧
    (AdapterAccount.header s).position = position ∧
    (adapter = .driftIf → request.ctx.accounts[7]?.map (·.key) = some vault) ∧
    adapter.value layout w' vault s = .ok v
  returned : w'.returnData = (dispatcherId, leBytes64 v)
  logged : ∃ asOfSlot, Logged [(dispatcherId, .valueRead position v),
    (adapter.programId, .adapterValue position v asOfSlot)] w w'
  keeps : Keeps w w'
  same : adapter ≠ .kaminoUsdc → w'.accounts = w.accounts

/-- The step is a read in one of the adapters other than Kamino's, or it comes to nothing. -/
def Looks (curve : Curve) : Chain × Option Request → Prop
  | (_, none) => False
  | (w, some request) => request.Done curve w →
      ∃ adapter position, adapter ≠ .kaminoUsdc ∧ request.Views adapter position

/-- The shares of a position that the dispatcher has reported minted and not burned. -/
def outstanding (position : Pubkey) (w : Chain) : Nat :=
  minted position (w.emittedBy dispatcherId) - burned position (w.emittedBy dispatcherId)

/-- Some request reports `v` for a Kamino position that pins the reserve at `reserve`, and
its refresh leaves the reserve with `reserveData`. -/
def Appraises (curve : Curve) (layout : Layout ProgramState) (w : Chain) (reserve : Pubkey)
    (reserveData : Bytes) (position : Pubkey) (v : UInt64) : Prop :=
  ∃ (request : Request) (key : Pubkey) (s : KaminoUsdc.AdapterState),
    OverAdapters curve layout request.exec ∧ request.Views .kaminoUsdc position ∧
    request.Done curve w ∧ (request.apply curve w).returnData = (dispatcherId, leBytes64 v) ∧
    w.state? KaminoUsdc.AdapterState key = some s ∧ s.header.position = position ∧
    s.kaminoReserve = reserve ∧ (request.apply curve w).bytes layout reserve = reserveData

section Reading

variable {curve : Curve} {layout : Layout ProgramState} {adapter : Adapter} {request : Request}
variable {w w' : Chain} {position : Pubkey}

/-- Values are computed from the accounts and nothing else. -/
theorem Adapter.value_of_accounts (h : w'.accounts = w.accounts) (vault : Pubkey)
    (s : adapter.State) : adapter.value layout w' vault s = adapter.value layout w vault s := by
  have hbytes : ∀ key, w'.bytes layout key = w.bytes layout key := World.bytes_congr h
  cases adapter <;>
    simp only [Adapter.value, KaminoUsdc.AdapterState.value, MarginfiUsdc.AdapterState.value,
      JupiterLp.AdapterState.value, MapleSyrup.AdapterState.value, DriftIf.AdapterState.value,
      hbytes]

/-- An adapter that priced a position announced its value, and did nothing else to the accounts
of this repository. -/
theorem logged_of_read {protocol : Callee ProgramState Event} {call : Call}
    {data adapterData : Bytes} {v : UInt64} (hprotocol : Lawful Suite protocol)
    (hprogram : call.instruction.programId = adapter.programId)
    (hdata : call.instruction.data = .bytes data)
    (hdecode : AdapterInstruction.decode data = .ok (.currentValue adapterData))
    (hnamed : call.instruction.accounts[1]?.map (·.pubkey) = some position)
    (h : Adapter.callee curve layout protocol call w = some w')
    (hreturned : w'.returnData = (adapter.programId, leBytes64 v)) :
    Keeps w w' ∧ ∃ asOfSlot,
      Logged [(adapter.programId, .adapterValue position v asOfSlot)] w w' := by
  obtain ⟨data', ix, hdata', hdecode', hvalued⟩ := Adapter.completed_of_callee hprogram h
  obtain rfl := InstructionData.bytes.inj (hdata.symm.trans hdata')
  obtain rfl := Except.ok.inj (hdecode.symm.trans hdecode')
  cases hvalued with
  | @valued u asOfSlot _ accounts _ w₁ slots guarded accepted calls =>
    have hframed : Framed Suite (fun key => (adapter.calledContext call).Signer key ∨
        SignedBelow (adapter.calledContext call).stack key) w.fresh w₁ := calls.framed hprotocol
    have hposition : (AdapterAccount.header accounts.adapterState.data).position = position := by
      rw [← call.instruction.infos_key] at hnamed
      have hslot := congrArg (fun l => l[1]?.map AccountInfo.key) slots
      exact accepted.position.trans (Option.some.inj (hslot.symm.trans hnamed))
    obtain rfl : u = v := leBytes64_inj (Prod.mk.inj hreturned).2
    have hkeeps : Keeps w.fresh w₁ := .of_framed hframed
    have hcalled : Logged [] w.fresh w₁ := .of_framed hframed
    refine ⟨hkeeps, asOfSlot, ?_⟩
    rw [hposition]
    exact @Logged.trans _ _ _ _ [_] hcalled (logged_of_events rfl)

theorem viewed_of_done (hexec : OverAdapters curve layout request.exec)
    (hviews : request.Views adapter position) (hdone : request.Done curve w) :
    ∃ v, Viewed layout adapter request position w (request.apply curve w) v := by
  obtain ⟨protocol, hprotocol, hexec⟩ := hexec
  obtain ⟨hix, hadapter, hposition⟩ := hviews
  have hprogram := request.program
  have hcompleted := Request.completed_of_done hdone
  rw [hix, hexec] at hcompleted
  generalize request.apply curve w = w' at hcompleted ⊢
  cases hcompleted with
  | @currentValue v accounts w₁ accepted version routed returned =>
    have hslots := accepted.slots
    rw [hslots] at hadapter hposition
    obtain hadapter : accounts.adapterProgram.key = adapter.programId := Option.some.inj hadapter
    obtain rfl : accounts.position.key = position := Option.some.inj hposition
    have hdecode : AdapterInstruction.decode (encodeCurrentValue []) = .ok (.currentValue []) :=
      decode_encodeCurrentValue (by simp)
    obtain ⟨_, w₂, -, -, hrun, rfl⟩ := invokeSigned_ok routed
    obtain ⟨data, hdata, hentry⟩ := Adapter.entry_of_callee hadapter hrun
    obtain rfl := InstructionData.bytes.inj hdata
    obtain ⟨key, s, u, vault, hreads, hkept, hvault, hvalue⟩ :=
      Adapter.reads_of_entry hdecode hentry
    obtain ⟨_, ix, hdata, hdecode', hvalued⟩ := Adapter.completed_of_callee hadapter hrun
    obtain rfl := InstructionData.bytes.inj hdata
    obtain rfl := Except.ok.inj (hdecode.symm.trans hdecode')
    have hreturned := hreads.returned
    -- what the adapter returned is what the dispatcher read
    obtain rfl : u = v := leBytes64_inj (Prod.mk.inj (hreturned.symm.trans returned)).2
    have hposition : (AdapterAccount.header s).position = accounts.position.key := by
      have hnamed := hreads.named
      rw [Adapter.calledContext, Instruction.infos_key] at hnamed
      exact (Option.some.inj hnamed).symm
    obtain ⟨hkeeps, asOfSlot, hlogged⟩ := logged_of_read hprotocol hadapter rfl hdecode rfl hrun
      (hreturned.trans rfl)
    refine ⟨u, ⟨key, s, vault, hreads.stored, hposition, fun hdrift => ?_, ?_⟩,
      by rw [← hprogram]; rfl, ⟨asOfSlot, ?_⟩, hkeeps, fun hother => hkept hother⟩
    · have hsixth := hvault hdrift
      rw [Adapter.calledContext, Instruction.infos_key] at hsixth
      rw [hslots]
      simpa [currentValueInstruction, forward] using hsixth
    · rw [← hvalue]
      exact Adapter.value_of_accounts rfl vault s
    · have hannounced : Logged [(dispatcherId, .valueRead accounts.position.key u)] w₂
          (announced request.ctx (.valueRead accounts.position.key u) w₂) :=
        logged_announced hprogram
      exact hlogged.trans hannounced

/-- Two state accounts of one position are one. -/
theorem state_of_position (hcanonical : Canonical curve w) {key key' : Pubkey}
    {s s' : adapter.State} (hstored : w.state? adapter.State key = some s)
    (hstored' : w.state? adapter.State key' = some s')
    (hsame : (AdapterAccount.header s').position = (AdapterAccount.header s).position) :
    s' = s := by
  have hfound := hcanonical.found adapter key s (state?_iff_typed?.mp hstored)
  have hfound' := hcanonical.found adapter key' s' (state?_iff_typed?.mp hstored')
  rw [hsame, hfound] at hfound'
  obtain rfl := (Prod.mk.inj (Option.some.inj hfound')).1
  exact Option.some.inj (hstored'.symm.trans hstored)

/-- Looking changes no account. -/
theorem same_of_looks {later : List (Chain × Option Request)}
    (onward : SuiteRun curve layout (· = w) later w')
    (hlooks : ∀ step ∈ later, Looks curve step) : w'.accounts = w.accounts := by
  revert hlooks
  refine onward.invariant (fun later w' => (∀ step ∈ later, Looks curve step) →
    w'.accounts = w.accounts) ?_ ?_
  · rintro _ rfl _
    rfl
  · intro later w₁ label w₂ _ ih hstep hlooks
    have hbefore := ih fun step hmem => hlooks step (.tail _ hmem)
    have hlast := hlooks _ (.head _)
    cases hstep with
    | outside _ => exact absurd hlast id
    | request request hexec =>
      by_cases hdone : request.Done curve w₁
      · obtain ⟨adapter, position, hother, hviews⟩ := hlast hdone
        obtain ⟨_, hviewed⟩ := viewed_of_done hexec hviews hdone
        exact (hviewed.same hother).trans hbefore
      · rw [request.apply_of_not_done hdone]
        exact hbefore

/-- Reading values in the MarginFi, Jupiter, Maple and Drift adapters changes nothing that is
stored: over every sequence of reads, each of which fails or goes to one of these four, of
whatever positions and by whoever, every account stays as it is, and a position that is read
before and after them is reported at one and the same value, if for Drift both name the same
vault. -/
theorem reads_leave_no_trace {past later : List (Chain × Option Request)}
    (run : SuiteRun curve layout Untouched past w)
    (onward : SuiteRun curve layout (· = w) later w')
    (hlooks : ∀ step ∈ later, Looks curve step) :
    w'.accounts = w.accounts ∧ ∀ (adapter : Adapter) (position : Pubkey) (first second : Request),
      adapter ≠ .kaminoUsdc → OverAdapters curve layout first.exec →
        OverAdapters curve layout second.exec → first.Views adapter position →
          second.Views adapter position →
            (adapter = .driftIf →
              first.ctx.accounts[7]?.map (·.key) = second.ctx.accounts[7]?.map (·.key)) →
              first.Done curve w → second.Done curve w' →
                (first.apply curve w).returnData = (second.apply curve w').returnData := by
  have hsame := same_of_looks onward hlooks
  refine ⟨hsame, fun adapter position first second hother hexec₁ hexec₂ hviews₁ hviews₂ hvault
    hdone₁ hdone₂ => ?_⟩
  obtain ⟨v₁, h₁⟩ := viewed_of_done hexec₁ hviews₁ hdone₁
  obtain ⟨v₂, h₂⟩ := viewed_of_done hexec₂ hviews₂ hdone₂
  obtain ⟨key₁, s₁, vault₁, hstored₁, hbacks₁, hnamed₁, hvalue₁⟩ := h₁.priced
  obtain ⟨key₂, s₂, vault₂, hstored₂, hbacks₂, hnamed₂, hvalue₂⟩ := h₂.priced
  rw [World.state?_congr hsame] at hstored₂
  obtain rfl := state_of_position (reported_of_run run).1 hstored₁ hstored₂
    (hbacks₂.trans hbacks₁.symm)
  -- both are priced on the accounts of `w`
  have hprice : adapter.value layout (first.apply curve w) vault₁ s₂ =
      adapter.value layout (second.apply curve w') vault₂ s₂ := by
    refine Adapter.value_congr hstored₁ hbacks₁ (fun h => absurd h hother)
      (fun _ => (h₁.same hother).trans (hsame.symm.trans (h₂.same hother).symm)) fun hdrift => ?_
    exact Option.some.inj ((hnamed₁ hdrift).symm.trans ((hvault hdrift).trans (hnamed₂ hdrift)))
  obtain rfl := Except.ok.inj (hvalue₁.symm.trans (hprice.trans hvalue₂))
  rw [h₁.returned, h₂.returned]

/-- The dispatcher's reports account for the ledger of an adapter that measures. -/
theorem outstanding_of_stored {past : List (Chain × Option Request)}
    (hmeasuring : adapter ≠ .marginfiUsdc) (run : SuiteRun curve layout Untouched past w)
    {key : Pubkey} {s : adapter.State} (hstored : w.state? adapter.State key = some s) :
    outstanding (AdapterAccount.header s).position w =
      (AdapterAccount.header s).totalShares.toNat := by
  obtain ⟨hreported, hbooked⟩ := Reported.of_stored run hstored
  have hbalanced := hreported.balanced fun h => absurd h hmeasuring
  rw [← hreported.agree] at hbalanced
  simp only [ShareLedger.Balanced, ledger, hbooked] at hbalanced
  unfold outstanding
  omega

/-- What is reported of a Kamino position is its part of the reserve. -/
theorem Appraises.value_eq {past : List (Chain × Option Request)} {reserve : Pubkey}
    {reserveData : Bytes} {v : UInt64} (run : SuiteRun curve layout Untouched past w)
    (h : Appraises curve layout w reserve reserveData position v) :
    v.toNat = outstanding position w * totalLiquidity reserveData / leAt 8 reserveData 2592 := by
  obtain ⟨request, key, s, hexec, hviews, hdone, hreturned, hstored, rfl, rfl, rfl⟩ := h
  obtain ⟨u, hviewed⟩ := viewed_of_done hexec hviews hdone
  obtain ⟨key', s', vault, hstored', hbacks, -, hvalue⟩ := hviewed.priced
  have hcanonical := (reported_of_run run).1
  obtain rfl : s' = s := @state_of_position curve .kaminoUsdc w hcanonical key key' s s' hstored
    hstored' hbacks
  obtain rfl : u = v := leBytes64_inj (Prod.mk.inj (hviewed.returned.symm.trans hreturned)).2
  have hledger := @outstanding_of_stored curve layout .kaminoUsdc w past (by simp) run key s'
    hstored
  obtain ⟨-, hquoted⟩ := ((quoted_collateralValueUsdc _).quote rfl).mp hvalue
  rw [hquoted]
  exact congrArg (fun shares => shares * _ / _) hledger.symm

/-- The values of Kamino positions on one reserve are, for each, its part of the reserve's
liquidity for the shares that the dispatcher has reported minted and not burned. Together they
are no more than the part of all these shares, and so no more than the liquidity as long as the
reserve's collateral covers the shares. -/
theorem kamino_values_add_up {past : List (Chain × Option Request)} {reserve : Pubkey}
    {reserveData : Bytes} {positions : List Pubkey} {values : List UInt64}
    (run : SuiteRun curve layout Untouched past w)
    (h : List.Forall₂ (Appraises curve layout w reserve reserveData) positions values) :
    List.Forall₂ (fun position v => v.toNat =
      outstanding position w * totalLiquidity reserveData / leAt 8 reserveData 2592)
      positions values ∧
    (values.map UInt64.toNat).sum ≤
      (positions.map (outstanding · w)).sum * totalLiquidity reserveData /
        leAt 8 reserveData 2592 ∧
    ((positions.map (outstanding · w)).sum ≤ leAt 8 reserveData 2592 →
      (values.map UInt64.toNat).sum ≤ totalLiquidity reserveData) := by
  have hparts : List.Forall₂ (fun position v => v.toNat =
      outstanding position w * totalLiquidity reserveData / leAt 8 reserveData 2592)
      positions values := h.imp fun _ _ happraises => happraises.value_eq run
  have hvalues : values.map UInt64.toNat = (positions.map (outstanding · w)).map
      fun shares => shares * totalLiquidity reserveData / leAt 8 reserveData 2592 := by
    clear h
    induction hparts with
    | nil => rfl
    | cons hpart _ ih => simp only [List.map_cons, hpart, ih]
  have hsum : (values.map UInt64.toNat).sum ≤ (positions.map (outstanding · w)).sum *
      totalLiquidity reserveData / leAt 8 reserveData 2592 := by
    rw [hvalues]
    exact (Superadditive.proRata _ _).sum_map_le _
  refine ⟨hparts, hsum, fun hcovered => hsum.trans ?_⟩
  rcases Nat.eq_zero_or_pos (leAt 8 reserveData 2592) with hnone | hsupply
  · rw [hnone, Nat.div_zero]
    exact Nat.zero_le _
  · refine Nat.div_le_of_le_mul ?_
    exact Nat.mul_le_mul_right _ hcovered

end Reading

/-! ### The staker's and the lender's values -/

namespace Sample

/-- The staker's position, read twice, is worth 6 both times. -/
theorem reads_leave_no_trace_unstaked :
    ((valuing 34).apply curve (unstaked 100 100 10 4)).returnData =
      ((valuing 34).apply curve ((valuing 34).apply curve (unstaked 100 100 10 4))).returnData := by
  have honward : SuiteRun curve layout (· = unstaked 100 100 10 4)
      [(unstaked 100 100 10 4, some (valuing 34))]
      ((valuing 34).apply curve (unstaked 100 100 10 4)) :=
    .step (.start rfl) (.request (valuing 34) insurer_overAdapters)
  have hviews : (valuing 34).Views .driftIf (positionKey DriftIf.programId) := ⟨rfl, rfl, rfl⟩
  have hlooks : ∀ step ∈ [(unstaked 100 100 10 4, some (valuing 34))], Looks curve step := by
    intro step hmem
    obtain rfl := List.mem_singleton.mp hmem
    exact fun _ => ⟨.driftIf, _, by decide, hviews⟩
  exact (reads_leave_no_trace (staker_run 100 100 10 4) honward hlooks).2 .driftIf _ (valuing 34)
    (valuing 34) (by decide) insurer_overAdapters insurer_overAdapters hviews hviews (fun _ => rfl)
    (by decide +kernel) (by decide +kernel)

/-- The lender's 10 shares, of 500 on a reserve of 1000. -/
theorem kamino_values_add_up_overnight :
    ([20].map UInt64.toNat).sum ≤ totalLiquidity (overnight.bytes layout reserve) := by
  have hstored : overnight.state? KaminoUsdc.AdapterState (stateKey KaminoUsdc.programId) =
      some lentState := by decide +kernel
  have happraises : Appraises curve layout overnight reserve (overnight.bytes layout reserve)
      (positionKey KaminoUsdc.programId) 20 :=
    ⟨appraisal, _, lentState, idler_overAdapters, ⟨rfl, rfl, rfl⟩, by decide +kernel,
      by decide +kernel, hstored, rfl, rfl, by decide +kernel⟩
  exact (kamino_values_add_up overnight_run (.cons happraises .nil)).2.2 (by decide +kernel)

end Sample

end YieldAdapter.Dispatcher

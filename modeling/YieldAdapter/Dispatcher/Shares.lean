import Mathlib.Algebra.BigOperators.Group.List.Basic
import YieldAdapter.Accounting.ShareLedger
import YieldAdapter.Dispatcher.Suite

/-!
# The share ledgers

The number of shares an adapter books for a position, with the mints and burns that
its events and the dispatcher's report, follows the abstract share ledger step by
step. Over a run that starts before the programs are used, the four measuring
adapters' ledgers are therefore balanced. The MarginFi ledger is balanced until a
withdrawal of more than is booked completes.
-/

set_option autoImplicit false

namespace YieldAdapter.Dispatcher

open Solana Accounting

/-! ### The ledger of a position -/

/-- The shares that a list of events reports minted for a position. -/
def minted (position : Pubkey) (events : List Event) : Nat :=
  (events.map (sharesMinted position)).sum

/-- The shares that a list of events reports burned for a position. -/
def burned (position : Pubkey) (events : List Event) : Nat :=
  (events.map (sharesBurned position)).sum

/-- The `total_shares` an adapter stores for a position, 0 before it is opened. -/
def bookedShares (curve : Curve) (adapter : Adapter) (position : Pubkey) (w : Chain) : Nat :=
  match findProgramAddress curve adapter.programId
      (adapterStateSeeds adapter.programId position) with
  | some (key, _) => (w.state? adapter.State key).elim 0 fun s =>
      (AdapterAccount.header s).totalShares.toNat
  | none => 0

/-- The ledger of a position, with the record kept by the events of one program. -/
def ledger (curve : Curve) (adapter : Adapter) (position program : Pubkey) (w : Chain) :
    ShareLedger where
  booked := bookedShares curve adapter position w
  minted := minted position (w.emittedBy program)
  burned := burned position (w.emittedBy program)

/-- The programs whose events report on an adapter's ledgers. -/
def Reporter (adapter : Adapter) (program : Pubkey) : Prop :=
  program = dispatcherId ∨ program = adapter.programId

/-- The step completed a withdrawal of more than was booked. -/
def Overdraws (curve : Curve) (adapter : Adapter) (position : Pubkey) :
    Chain × Option Request → Prop
  | (w, label) => ∃ request shares, label = some request ∧ request.ix = .withdraw shares ∧
      request.Done curve w ∧ request.Names position ∧
        bookedShares curve adapter position w < shares.toNat

/-- Every state account is the canonical one of the position it backs, and that is a
position of its own adapter. -/
structure Canonical (curve : Curve) (w : Chain) : Prop where
  found : ∀ (adapter : Adapter) key (s : adapter.State),
    w.typed? adapter.programId key = some (AnchorState.encode s) →
      findProgramAddress curve adapter.programId
        (adapterStateSeeds adapter.programId (AdapterAccount.header s).position) =
          some (key, AdapterAccount.bump s)
  derived : ∀ (adapter : Adapter) key (s : adapter.State),
    w.typed? adapter.programId key = some (AnchorState.encode s) →
      ∃ owner bump, (AdapterAccount.header s).position =
        positionAddress owner adapter.programId bump

section Ledger

variable {curve : Curve} {layout : Layout ProgramState} {w w' : Chain} {adapter : Adapter}
variable {position program key : Pubkey} {log : List (Pubkey × Event)}

theorem Reporter.suite (h : Reporter adapter program) : Suite program := by
  rcases h with rfl | rfl
  · exact suite_dispatcherId
  · exact adapter.suite

@[simp] theorem minted_append (events events' : List Event) :
    minted position (events ++ events') = minted position events + minted position events' := by
  simp [minted]

@[simp] theorem burned_append (events events' : List Event) :
    burned position (events ++ events') = burned position events + burned position events' := by
  simp [burned]

/-- Events that report nothing about a position leave both totals alone. -/
theorem totals_of_unrelated (hlogged : Logged log w w') (hsuite : Suite program)
    (hunrelated : ∀ e ∈ log, Unrelated position e.2) :
    minted position (w'.emittedBy program) = minted position (w.emittedBy program) ∧
      burned position (w'.emittedBy program) = burned position (w.emittedBy program) := by
  have hnew : ∀ e ∈ emissions program log, Unrelated position e :=
    fun e he => hunrelated _ (mem_emissions.mp he)
  have hminted : minted position (emissions program log) = 0 := by
    refine List.sum_eq_zero fun n hn => ?_
    obtain ⟨e, he, rfl⟩ := List.mem_map.mp hn
    exact (hnew e he).1
  have hburned : burned position (emissions program log) = 0 := by
    refine List.sum_eq_zero fun n hn => ?_
    obtain ⟨e, he, rfl⟩ := List.mem_map.mp hn
    exact (hnew e he).2
  rw [hlogged program hsuite, minted_append, burned_append, hminted, hburned, Nat.zero_add,
    Nat.zero_add]
  exact ⟨rfl, rfl⟩

/-- What is booked is the stored total of the canonical account. -/
theorem bookedShares_of_stored {s : adapter.State} {bump : UInt8}
    (hfound : findProgramAddress curve adapter.programId
      (adapterStateSeeds adapter.programId position) = some (key, bump))
    (hstored : w.typed? adapter.programId key = some (AnchorState.encode s)) :
    bookedShares curve adapter position w = (AdapterAccount.header s).totalShares.toNat := by
  have hstate : w.state? adapter.State key = some s := by
    rw [World.state?_eq_some_iff_typed?, Adapter.crateId_state]
    exact hstored
  simp [bookedShares, hfound, hstate]

theorem bookedShares_of_vacant {bump : UInt8}
    (hfound : findProgramAddress curve adapter.programId
      (adapterStateSeeds adapter.programId position) = some (key, bump))
    (hvacant : w.typed? adapter.programId key = none) :
    bookedShares curve adapter position w = 0 := by
  have hstate : w.state? adapter.State key = none := by
    rw [Option.eq_none_iff_forall_ne_some]
    intro s hs
    rw [World.state?_eq_some_iff_typed?, Adapter.crateId_state, hvacant] at hs
    simp at hs
  simp [bookedShares, hfound, hstate]

theorem bookedShares_of_retains (h : Retains w w') :
    bookedShares curve adapter position w' = bookedShares curve adapter position w := by
  unfold bookedShares
  split
  · rename_i key bump hfound
    have hsame : w'.state? adapter.State key = w.state? adapter.State key := by
      refine World.state?_congr_typed? ?_
      rw [Adapter.crateId_state, h adapter key]
    rw [hsame]
  · rfl

/-- Adjusting the account of one position leaves what is booked for the others. -/
theorem bookedShares_of_adjusts_ne {other : Adapter} {position' : Pubkey} {bump : UInt8}
    {s : ProgramState} (h : Adjusts adapter key s w w')
    (hfound : findProgramAddress curve adapter.programId
      (adapterStateSeeds adapter.programId position) = some (key, bump))
    (hne : other = adapter → position' ≠ position) :
    bookedShares curve other position' w' = bookedShares curve other position' w := by
  unfold bookedShares
  split
  · rename_i key' bump' hfound'
    -- another position has another canonical account
    have hother : ¬ (other = adapter ∧ key' = key) := by
      rintro ⟨rfl, rfl⟩
      have hseeds := findProgramAddress_eq_pda hfound
      rw [findProgramAddress_eq_pda hfound'] at hseeds
      simp only [adapterStateSeeds, Pubkey.pda.injEq, Seeds.text.injEq, Seeds.addr.injEq] at hseeds
      exact hne rfl hseeds.2.1.2.2.1
    have hsame : w'.state? other.State key' = w.state? other.State key' := by
      refine World.state?_congr_typed? ?_
      rw [Adapter.crateId_state, h other key', if_neg hother]
    rw [hsame]
  · rfl

/-- An adapter and the dispatcher each report once on a movement of funds. -/
theorem emissions_pair (h : Reporter adapter program) (e e' : Event) :
    emissions program [(dispatcherId, e), (adapter.programId, e')] = [e] ∨
      emissions program [(dispatcherId, e), (adapter.programId, e')] = [e'] := by
  rcases h with rfl | rfl
  · left
    simp [adapter.programId_ne_dispatcherId]
  · right
    simp [adapter.programId_ne_dispatcherId.symm]

/-- Both reports of a movement of funds count. -/
theorem totals_of_pair (position : Pubkey) (hreporter : Reporter adapter program) {e e' : Event}
    (hlogged : Logged [(dispatcherId, e), (adapter.programId, e')] w w')
    (hminted : sharesMinted position e = sharesMinted position e')
    (hburned : sharesBurned position e = sharesBurned position e') :
    minted position (w'.emittedBy program) =
        minted position (w.emittedBy program) + sharesMinted position e ∧
      burned position (w'.emittedBy program) =
        burned position (w.emittedBy program) + sharesBurned position e := by
  rw [hlogged program hreporter.suite, minted_append, burned_append, Nat.add_comm,
    Nat.add_comm (burned _ _)]
  rcases emissions_pair hreporter e e' with hnew | hnew
  · rw [hnew]
    simp [minted, burned]
  · rw [hnew, hminted, hburned]
    simp [minted, burned]

/-- What a withdrawal leaves, in any adapter. -/
theorem remaining_toNat {booked shares total : UInt64}
    (h : adapter.remaining booked shares = some total) :
    total.toNat = booked.toNat - shares.toNat := by
  by_cases hmarginfi : adapter = .marginfiUsdc
  · subst hmarginfi
    simp only [Adapter.remaining, MarginfiUsdc.remainingShares] at h
    split_ifs at h with hall
    · obtain rfl := Option.some.inj h
      rw [UInt64.le_iff_toNat_le] at hall
      have hzero : (0 : UInt64).toNat = 0 := rfl
      omega
    · have hsub := checkedSub_eq_some.mp h
      omega
  · have hsub : checkedSub booked shares = some total := by cases adapter <;> trivial
    have htotal := checkedSub_eq_some.mp hsub
    omega

/-- The measuring adapters refuse to burn more than is booked. -/
theorem remaining_covers (hmeasuring : adapter ≠ .marginfiUsdc) {booked shares total : UInt64}
    (h : adapter.remaining booked shares = some total) : shares.toNat ≤ booked.toNat := by
  have hsub : checkedSub booked shares = some total := by cases adapter <;> trivial
  have htotal := checkedSub_eq_some.mp hsub
  omega

theorem not_overdraws_of_ix {request : Request} (h : ∀ shares, request.ix ≠ .withdraw shares) :
    ¬ Overdraws curve adapter position (w, some request) := by
  rintro ⟨request', shares, hlabel, hix, -⟩
  obtain rfl := Option.some.inj hlabel
  exact h shares hix

theorem not_overdraws_of_le {request : Request} {shares : UInt64}
    (hix : request.ix = .withdraw shares)
    (hle : shares.toNat ≤ bookedShares curve adapter position w) :
    ¬ Overdraws curve adapter position (w, some request) := by
  rintro ⟨request', shares', hlabel, hix', -, -, hexceeds⟩
  obtain rfl := Option.some.inj hlabel
  obtain rfl := Ix.withdraw.inj (hix.symm.trans hix')
  exact absurd hexceeds (Nat.not_lt.mpr hle)

/-- What a step posts to the ledger of a position, as both programs record it. -/
structure Posted (curve : Curve) (adapter : Adapter) (position : Pubkey) (w w' : Chain)
    (label : Option Request) (posting : Posting) : Prop where
  follows : ∀ program, Reporter adapter program →
    ledger curve adapter position program w' =
      (ledger curve adapter position program w).post posting
  covered : ∀ program, (ledger curve adapter position program w).Covers posting ∨
    adapter = .marginfiUsdc ∧ Overdraws curve adapter position (w, label)

/-- A step that books nothing for a position and reports nothing about it. -/
theorem Posted.none {label : Option Request}
    (hbooked : bookedShares curve adapter position w' = bookedShares curve adapter position w)
    (hlogged : Logged log w w') (hunrelated : ∀ e ∈ log, Unrelated position e.2) :
    Posted curve adapter position w w' label .none where
  follows program hreporter := by
    obtain ⟨hminted, hburned⟩ := totals_of_unrelated hlogged hreporter.suite hunrelated
    simp only [ledger, ShareLedger.post_none, hbooked, hminted, hburned]
  covered _ := .inl trivial

/-- Every step posts to every ledger. -/
theorem posted_of_served {label : Option Request} (hcanonical : Canonical curve w)
    (h : Served curve w w' label) (adapter : Adapter) (owner : Pubkey) (bump : UInt8) :
    ∃ posting, Posted curve adapter (positionAddress owner adapter.programId bump) w w' label
      posting := by
  cases h with
  | quiet retains logged unrelated idle =>
    exact ⟨.none, .none (bookedShares_of_retains retains) logged
      fun e he => unrelated e he adapter owner bump⟩
  | @opened request adapter' s owner' position key ix serves found vacant empty adjusts logged =>
    -- opening announces no shares, and the new account books none
    refine ⟨.none, .none ?_ logged fun e he => ?_⟩
    · by_cases hsame : adapter = adapter' ∧ positionAddress owner adapter.programId bump = position
      · obtain ⟨rfl, rfl⟩ := hsame
        have hstored := (adjusts adapter key).trans (if_pos ⟨rfl, rfl⟩)
        rw [bookedShares_of_stored found hstored, bookedShares_of_vacant found vacant, empty]
        rfl
      · exact bookedShares_of_adjusts_ne adjusts found fun h h' => hsame ⟨h, h'⟩
    · obtain rfl := List.mem_singleton.mp he
      exact ⟨rfl, rfl⟩
  | @deposited request adapter' s position key amount shares total ix serves stored total_eq adjusts
      logged =>
    -- the account served is its position's canonical one, so the ledger read is this one
    have hfound := hcanonical.found adapter' key s stored
    rw [serves.backs] at hfound
    by_cases hsame : position = positionAddress owner adapter.programId bump
    · obtain ⟨owner', bump', hposition⟩ := serves.derived
      -- a position of the dispatcher belongs to one adapter
      obtain rfl : adapter = adapter' :=
        Adapter.programId_inj (positionAddress_inj (hsame.symm.trans hposition)).2.1
      have hstored := (adjusts adapter key).trans (if_pos ⟨rfl, rfl⟩)
      refine ⟨.mint shares.toNat, fun program hreporter => ?_, fun _ => .inl trivial⟩
      obtain ⟨hminted, hburned⟩ := totals_of_pair position hreporter logged rfl rfl
      rw [← hsame]
      simp only [ledger, ShareLedger.post, hminted, hburned, bookedShares_of_stored hfound hstored,
        bookedShares_of_stored hfound stored, AdapterAccount.header_setTotalShares, total_eq]
      simp [sharesMinted, sharesBurned]
    · refine ⟨.none, .none ?_ logged fun e he => ?_⟩
      -- the deposit is to another position: both of its events name that one
      · exact bookedShares_of_adjusts_ne adjusts hfound fun _ h => hsame h.symm
      · rcases List.mem_pair.mp he with rfl | rfl
        · simp [Unrelated, sharesMinted, sharesBurned, hsame]
        · simp [Unrelated, sharesMinted, sharesBurned, hsame]
  | @withdrawn request adapter' s position key shares amountOut total ix serves stored remains
      adjusts logged =>
    have hfound := hcanonical.found adapter' key s stored
    rw [serves.backs] at hfound
    by_cases hsame : position = positionAddress owner adapter.programId bump
    · obtain ⟨owner', bump', hposition⟩ := serves.derived
      obtain rfl : adapter = adapter' :=
        Adapter.programId_inj (positionAddress_inj (hsame.symm.trans hposition)).2.1
      have hstored := (adjusts adapter key).trans (if_pos ⟨rfl, rfl⟩)
      have hbooked := bookedShares_of_stored hfound stored
      rw [← hsame]
      refine ⟨.burn shares.toNat, fun program hreporter => ?_, fun program => ?_⟩
      · obtain ⟨hminted, hburned⟩ := totals_of_pair position hreporter logged rfl rfl
        simp only [ledger, ShareLedger.post, hminted, hburned, hbooked,
          bookedShares_of_stored hfound hstored, AdapterAccount.header_setTotalShares,
          remaining_toNat remains]
        simp [sharesMinted, sharesBurned]
      · -- only MarginFi completes a withdrawal of more than is booked
        by_cases hcovered : shares.toNat ≤ bookedShares curve adapter position w
        · exact .inl hcovered
        have hmarginfi : adapter = .marginfiUsdc := by
          by_contra hmeasuring
          exact hcovered (hbooked ▸ remaining_covers hmeasuring remains)
        exact .inr ⟨hmarginfi, request, shares, rfl, ix, serves.done, serves.named,
          Nat.lt_of_not_le hcovered⟩
    · refine ⟨.none, .none ?_ logged fun e he => ?_⟩
      · exact bookedShares_of_adjusts_ne adjusts hfound fun _ h => hsame h.symm
      · rcases List.mem_pair.mp he with rfl | rfl
        · simp [Unrelated, sharesMinted, sharesBurned, hsame]
        · simp [Unrelated, sharesMinted, sharesBurned, hsame]

/-- Adjusting a canonical account keeps all of them canonical. -/
theorem Canonical.of_adjusts (h : Canonical curve w) {t : adapter.State}
    (hadjusts : Adjusts adapter key (AnchorState.encode t) w w')
    (hfound : findProgramAddress curve adapter.programId
      (adapterStateSeeds adapter.programId (AdapterAccount.header t).position) =
        some (key, AdapterAccount.bump t))
    (hderived : ∃ owner bump, (AdapterAccount.header t).position =
      positionAddress owner adapter.programId bump) : Canonical curve w' := by
  -- what is stored now was stored before, or is the adjusted state
  have hcases : ∀ (other : Adapter) k (s : other.State),
      w'.typed? other.programId k = some (AnchorState.encode s) →
        w.typed? other.programId k = some (AnchorState.encode s) ∨
          ∃ hsame : other = adapter, k = key ∧ hsame ▸ s = t := by
    intro other k s hstored
    rw [hadjusts other k] at hstored
    split_ifs at hstored with hadjusted
    · obtain ⟨rfl, rfl⟩ := hadjusted
      exact .inr ⟨rfl, rfl, (AnchorState.encode_inj (Option.some.inj hstored)).symm⟩
    · exact .inl hstored
  constructor
  · intro other k s hstored
    rcases hcases other k s hstored with hbefore | ⟨rfl, rfl, rfl⟩
    · exact h.found other k s hbefore
    · exact hfound
  · intro other k s hstored
    rcases hcases other k s hstored with hbefore | ⟨rfl, rfl, rfl⟩
    · exact h.derived other k s hbefore
    · exact hderived

theorem Canonical.of_served {label : Option Request} (h : Canonical curve w)
    (hserved : Served curve w w' label) : Canonical curve w' := by
  cases hserved with
  | quiet retains logged unrelated idle =>
    constructor
    · intro adapter key s hstored
      exact h.found adapter key s ((retains adapter key).symm.trans hstored)
    · intro adapter key s hstored
      exact h.derived adapter key s ((retains adapter key).symm.trans hstored)
  | opened ix serves found vacant empty adjusts logged =>
    refine h.of_adjusts adjusts (by rw [serves.backs]; exact found) ?_
    obtain ⟨owner, bump, hposition⟩ := serves.derived
    exact ⟨owner, bump, serves.backs.trans hposition⟩
  | deposited ix serves stored total_eq adjusts logged =>
    exact h.of_adjusts adjusts (by simpa using h.found _ _ _ stored)
      (by simpa using h.derived _ _ _ stored)
  | withdrawn ix serves stored remains adjusts logged =>
    exact h.of_adjusts adjusts (by simpa using h.found _ _ _ stored)
      (by simpa using h.derived _ _ _ stored)

end Ledger

/-! ### The ledgers over a run -/

/-- How a position's ledger stands to the reports of a run. -/
structure Reported (curve : Curve) (adapter : Adapter) (position : Pubkey)
    (past : List (Chain × Option Request)) (w : Chain) : Prop where
  agree : ledger curve adapter position dispatcherId w =
    ledger curve adapter position adapter.programId w
  backed : (ledger curve adapter position adapter.programId w).Backed
  balanced : (adapter = .marginfiUsdc → ∀ step ∈ past, ¬ Overdraws curve adapter position step) →
    (ledger curve adapter position adapter.programId w).Balanced

section Runs

variable {curve : Curve} {layout : Layout ProgramState} {past : List (Chain × Option Request)}
variable {w w' last : Chain} {adapter : Adapter}

/-- Before the programs are used every ledger is empty. -/
theorem Untouched.ledger_eq_empty (h : Untouched w) {position program : Pubkey}
    (hreporter : Reporter adapter program) :
    ledger curve adapter position program w = .empty := by
  have hbooked : bookedShares curve adapter position w = 0 := by
    unfold bookedShares
    split
    · have hstate : ∀ key, w.state? adapter.State key = none := by
        intro key
        rw [Option.eq_none_iff_forall_ne_some]
        intro s hs
        rw [World.state?_eq_some_iff_typed?, Adapter.crateId_state,
          h.vacant adapter] at hs
        simp at hs
      rw [hstate]
      rfl
    · rfl
  simp only [ledger, hbooked, h.silent program hreporter.suite]
  rfl

theorem Untouched.canonical (h : Untouched w) : Canonical curve w where
  found adapter key s hstored := by simp [h.vacant adapter] at hstored
  derived adapter key s hstored := by simp [h.vacant adapter] at hstored

/-- A posting keeps what the reports say true. -/
theorem Reported.of_posted {position : Pubkey} {label : Option Request} {posting : Posting}
    (h : Reported curve adapter position past w)
    (hposted : Posted curve adapter position w w' label posting) :
    Reported curve adapter position ((w, label) :: past) w' where
  agree := by
    rw [hposted.follows _ (.inl rfl), hposted.follows _ (.inr rfl), h.agree]
  backed := by
    rw [hposted.follows _ (.inr rfl)]
    exact h.backed.post posting
  balanced hcareful := by
    rw [hposted.follows _ (.inr rfl)]
    have hbefore := h.balanced fun hmarginfi step hstep =>
      hcareful hmarginfi step (.tail _ hstep)
    refine hbefore.post ?_
    rcases hposted.covered adapter.programId with hcovers | ⟨hmarginfi, hoverdraws⟩
    · exact hcovers
    · exact absurd hoverdraws (hcareful hmarginfi _ (.head _))

/-- In every state a run reaches, the accounts are canonical and the reports explain
every ledger. -/
theorem reported_of_run (run : SuiteRun curve layout Untouched past last) :
    Canonical curve last ∧ ∀ (adapter : Adapter) owner bump,
      Reported curve adapter (positionAddress owner adapter.programId bump) past last := by
  refine run.invariant (fun past w => Canonical curve w ∧ ∀ (adapter : Adapter) owner bump,
    Reported curve adapter (positionAddress owner adapter.programId bump) past w) ?_ ?_
  · intro w hstart
    refine ⟨hstart.canonical, fun adapter owner bump => ?_⟩
    have hempty : ∀ {position program}, Reporter adapter program →
        ledger curve adapter position program w = .empty := fun h => hstart.ledger_eq_empty h
    constructor
    · rw [hempty (.inl rfl), hempty (.inr rfl)]
    · rw [hempty (.inr rfl)]
      exact ShareLedger.balanced_empty.backed
    · intro _
      rw [hempty (.inr rfl)]
      exact ShareLedger.balanced_empty
  · intro past w label w' _ ⟨hcanonical, hreported⟩ hstep
    have hserved := served_of_step hstep
    refine ⟨hcanonical.of_served hserved, fun adapter owner bump => ?_⟩
    obtain ⟨posting, hposted⟩ := posted_of_served hcanonical hserved adapter owner bump
    exact (hreported adapter owner bump).of_posted hposted

/-- A completed withdrawal from the position that `s` backs adjusted `s` and nothing else. -/
theorem withdrawn_of_done {request : Request} {key : Pubkey} {s : adapter.State} {shares : UInt64}
    (hcanonical : Canonical curve w) (hserved : Served curve w w' (some request))
    (hdone : request.Done curve w) (hix : request.ix = .withdraw shares)
    (hstored : w.typed? adapter.programId key = some (AnchorState.encode s))
    (hnames : request.Names (AdapterAccount.header s).position) :
    ∃ total, adapter.remaining (AdapterAccount.header s).totalShares shares = some total ∧
      Adjusts adapter key (AnchorState.encode (AdapterAccount.setTotalShares s total)) w w' := by
  obtain ⟨owner, bump, hposition⟩ := hcanonical.derived adapter key s hstored
  generalize hlabel : some request = label at hserved
  cases hserved with
  | quiet retains logged unrelated idle =>
    exact absurd (hposition ▸ hnames) (idle request adapter owner bump hlabel.symm hdone)
  | opened ix =>
    obtain rfl := Option.some.inj hlabel
    simp [hix] at ix
  | deposited ix =>
    obtain rfl := Option.some.inj hlabel
    simp [hix] at ix
  | @withdrawn other adapter' s' position key' shares' amountOut total ix serves stored remains
      adjusts logged =>
    obtain rfl := Option.some.inj hlabel
    obtain rfl : shares = shares' := by simpa [hix] using ix
    -- the request names one position, which determines the adapter, the account and the state
    have hsame : position = (AdapterAccount.header s).position :=
      Option.some.inj (serves.named.2.symm.trans hnames.2)
    obtain ⟨owner', bump', hposition'⟩ := serves.derived
    obtain rfl : adapter = adapter' := Adapter.programId_inj
      (positionAddress_inj (hposition.symm.trans (hsame.symm.trans hposition'))).2.1
    have hfound := hcanonical.found adapter key s hstored
    have hfound' := hcanonical.found adapter key' s' stored
    rw [serves.backs, hsame, hfound] at hfound'
    obtain rfl := (Prod.mk.inj (Option.some.inj hfound')).1
    obtain rfl : s = s' := AnchorState.encode_inj (Option.some.inj (hstored.symm.trans stored))
    exact ⟨total, remains, adjusts⟩

/-- The ledger in `s` is the difference of what the adapter reported minted and burned
for the position, and the dispatcher reported the same. -/
structure Explained (adapter : Adapter) (s : adapter.State) (w : Chain) : Prop where
  difference : minted (AdapterAccount.header s).position (w.emittedBy adapter.programId) =
    burned (AdapterAccount.header s).position (w.emittedBy adapter.programId) +
      (AdapterAccount.header s).totalShares.toNat
  mints : minted (AdapterAccount.header s).position (w.emittedBy dispatcherId) =
    minted (AdapterAccount.header s).position (w.emittedBy adapter.programId)
  burns : burned (AdapterAccount.header s).position (w.emittedBy dispatcherId) =
    burned (AdapterAccount.header s).position (w.emittedBy adapter.programId)

/-- A ledger of more burned than minted is not explained. -/
theorem not_explained_of_lt {s : adapter.State}
    (h : minted (AdapterAccount.header s).position (w.emittedBy adapter.programId) <
      burned (AdapterAccount.header s).position (w.emittedBy adapter.programId)) :
    ¬ Explained adapter s w := by
  intro hexplained
  have hdifference := hexplained.difference
  omega

/-- A request changes no state account, except for the `total_shares` of the one that
backs the position it names. -/
def Confined (curve : Curve) (w : Chain) (request : Request) : Prop :=
  ∀ (adapter : Adapter) key (s : adapter.State), w.state? adapter.State key = some s →
    (request.apply curve w).state? adapter.State key = some s ∨
      request.Names (AdapterAccount.header s).position ∧ ∃ total,
        (request.apply curve w).state? adapter.State key =
          some (AdapterAccount.setTotalShares s total)

/-- A withdrawal of more than is booked for the position it names fails and changes
nothing. -/
def RefusesExcess (curve : Curve) (layout : Layout ProgramState) (adapter : Adapter) (w : Chain) :
    Prop :=
  ∀ key (s : adapter.State) (request : Request) (shares : UInt64),
    w.state? adapter.State key = some s → OverAdapters curve layout request.exec →
      request.ix = .withdraw shares → request.Names (AdapterAccount.header s).position →
        (AdapterAccount.header s).totalShares < shares →
          ¬ request.Done curve w ∧ request.apply curve w = w

theorem state?_iff_typed? {key : Pubkey} {s : adapter.State} :
    w.state? adapter.State key = some s ↔
      w.typed? adapter.programId key = some (AnchorState.encode s) := by
  rw [World.state?_eq_some_iff_typed?, Adapter.crateId_state]

/-- What the reports say of a state account that is stored. -/
theorem Reported.of_stored {key : Pubkey} {s : adapter.State}
    (run : SuiteRun curve layout Untouched past last)
    (hstored : last.state? adapter.State key = some s) :
    Reported curve adapter (AdapterAccount.header s).position past last ∧
      bookedShares curve adapter (AdapterAccount.header s).position last =
        (AdapterAccount.header s).totalShares.toNat := by
  obtain ⟨hcanonical, hreported⟩ := reported_of_run run
  rw [state?_iff_typed?] at hstored
  obtain ⟨owner, bump, hposition⟩ := hcanonical.derived adapter key s hstored
  refine ⟨?_, bookedShares_of_stored (hcanonical.found adapter key s hstored) hstored⟩
  rw [hposition]
  exact hreported adapter owner bump

/-- What adjusting one account does to any of them. -/
theorem confined_of_adjusts {key k : Pubkey} {other : Adapter} {s : adapter.State}
    {t : other.State} {total : UInt64} {request : Request}
    (hstored : w.typed? adapter.programId key = some (AnchorState.encode s))
    (hadjusts : Adjusts adapter key
      (AnchorState.encode (AdapterAccount.setTotalShares s total)) w w')
    (hnames : request.Names (AdapterAccount.header s).position)
    (h : w.state? other.State k = some t) :
    w'.state? other.State k = some t ∨ request.Names (AdapterAccount.header t).position ∧
      ∃ total, w'.state? other.State k = some (AdapterAccount.setTotalShares t total) := by
  simp only [state?_iff_typed?] at h ⊢
  have hafter := hadjusts other k
  by_cases hadjusted : other = adapter ∧ k = key
  · obtain ⟨rfl, rfl⟩ := hadjusted
    obtain rfl : s = t := AnchorState.encode_inj (Option.some.inj (hstored.symm.trans h))
    exact .inr ⟨hnames, total, hafter.trans (if_pos ⟨rfl, rfl⟩)⟩
  · exact .inl ((hafter.trans (if_neg hadjusted)).trans h)

theorem confined_of_request {request : Request}
    (hexec : OverAdapters curve layout request.exec) : Confined curve w request := by
  intro other k t h
  have hserved := served_of_request (w := w) hexec
  generalize request.apply curve w = w' at hserved
  generalize hlabel : some request = label at hserved
  cases hserved with
  | quiet retains logged unrelated idle =>
    left
    rw [state?_iff_typed?] at h ⊢
    rw [retains other k, h]
  | @opened opening adapter s owner position key ix serves found vacant empty adjusts logged =>
    left
    rw [state?_iff_typed?] at h ⊢
    rw [adjusts other k, if_neg, h]
    -- the account it opens was vacant
    rintro ⟨rfl, rfl⟩
    simp [vacant] at h
  | deposited ix serves stored total_eq adjusts logged =>
    obtain rfl := Option.some.inj hlabel
    exact confined_of_adjusts stored adjusts (serves.backs ▸ serves.named) h
  | withdrawn ix serves stored remains adjusts logged =>
    obtain rfl := Option.some.inj hlabel
    exact confined_of_adjusts stored adjusts (serves.backs ▸ serves.named) h

/-- A measuring adapter completes no withdrawal of more than is booked. -/
theorem refusesExcess_of_canonical (hmeasuring : adapter ≠ .marginfiUsdc)
    (hcanonical : Canonical curve w) : RefusesExcess curve layout adapter w := by
  intro key s request shares hstored hexec hix hnames hexceeds
  have hundone : ¬ request.Done curve w := by
    intro hdone
    rw [state?_iff_typed?] at hstored
    obtain ⟨total, hremains, -⟩ := withdrawn_of_done hcanonical (served_of_request hexec) hdone hix
      hstored hnames
    have hcovered := remaining_covers hmeasuring hremains
    rw [UInt64.lt_iff_toNat_lt] at hexceeds
    omega
  exact ⟨hundone, Request.apply_of_not_done hundone⟩

/-- The ledgers of the measuring adapters, over every run: they are what the reported
mints and burns leave, a withdrawal of more than is booked fails, and a request moves
the ledger of the position it names only. -/
theorem share_ledger (hmeasuring : adapter ≠ .marginfiUsdc)
    (run : SuiteRun curve layout Untouched past last) :
    (∀ key (s : adapter.State), last.state? adapter.State key = some s →
      Explained adapter s last) ∧
    RefusesExcess curve layout adapter last ∧
    ∀ w request, (w, some request) ∈ past → Confined curve w request := by
  refine ⟨fun key s hstored => ?_, refusesExcess_of_canonical hmeasuring (reported_of_run run).1,
    fun w request hmem => ?_⟩
  · obtain ⟨hreported, hbooked⟩ := Reported.of_stored run hstored
    have hbalanced := hreported.balanced fun h => absurd h hmeasuring
    have hagree := hreported.agree
    simp only [ShareLedger.Balanced, ledger, hbooked] at hbalanced
    simp only [ledger, ShareLedger.mk.injEq] at hagree
    exact ⟨hbalanced, hagree.2.1, hagree.2.2⟩
  · obtain ⟨_, -, _, hstep⟩ := run.step_of_mem hmem
    cases hstep with
    | request _ hexec => exact confined_of_request hexec

/-- What every run leaves of a MarginFi ledger: both programs report the same, and the
reports bound the ledger. A completed withdrawal leaves the difference, or nothing if it
asked for all that is booked or more. -/
theorem marginfi_ledger (run : SuiteRun curve layout Untouched past last) {key : Pubkey}
    {s : MarginfiUsdc.AdapterState}
    (hstored : last.state? MarginfiUsdc.AdapterState key = some s) :
    (minted s.header.position (last.emittedBy dispatcherId) =
        minted s.header.position (last.emittedBy MarginfiUsdc.programId) ∧
      burned s.header.position (last.emittedBy dispatcherId) =
        burned s.header.position (last.emittedBy MarginfiUsdc.programId)) ∧
    minted s.header.position (last.emittedBy MarginfiUsdc.programId) ≤
      burned s.header.position (last.emittedBy MarginfiUsdc.programId) +
        s.header.totalShares.toNat ∧
    ∀ (request : Request) (shares : UInt64), OverAdapters curve layout request.exec →
      request.ix = .withdraw shares → request.Names s.header.position →
        (request.Done curve last → (request.apply curve last).state? MarginfiUsdc.AdapterState key =
          some { s with header := { s.header with totalShares :=
            if s.header.totalShares ≤ shares then 0 else s.header.totalShares - shares } }) ∧
        (¬ request.Done curve last → request.apply curve last = last) := by
  obtain ⟨hreported, hbooked⟩ := @Reported.of_stored _ _ _ _ .marginfiUsdc _ _ run hstored
  have hagree := hreported.agree
  have hbacked := hreported.backed
  simp only [ledger, ShareLedger.mk.injEq] at hagree
  refine ⟨hagree.2, ?_, fun request shares hexec hix hnames => ⟨fun hdone => ?_,
    Request.apply_of_not_done⟩⟩
  · simp only [ShareLedger.Backed, ledger, hbooked] at hbacked
    exact hbacked
  · have htyped := (@state?_iff_typed? last .marginfiUsdc key s).mp hstored
    obtain ⟨total, hremains, hadjusts⟩ := @withdrawn_of_done _ _ _ .marginfiUsdc request key s
      shares (reported_of_run run).1 (served_of_request hexec) hdone hix htyped hnames
    have hafter := (hadjusts .marginfiUsdc key).trans (if_pos ⟨rfl, rfl⟩)
    obtain rfl := Option.some.inj ((MarginfiUsdc.remainingShares_eq _ _).symm.trans hremains)
    exact (@state?_iff_typed? _ .marginfiUsdc key _).mpr hafter

/-- The reports explain a MarginFi ledger as long as no withdrawal from its position was
completed that asked for more than was booked. -/
theorem marginfi_ledger_of_careful (run : SuiteRun curve layout Untouched past last) {key : Pubkey}
    {s : MarginfiUsdc.AdapterState}
    (hstored : last.state? MarginfiUsdc.AdapterState key = some s)
    (hcareful : ∀ step ∈ past, ¬ Overdraws curve .marginfiUsdc s.header.position step) :
    Explained .marginfiUsdc s last := by
  obtain ⟨hreported, hbooked⟩ := @Reported.of_stored _ _ _ _ .marginfiUsdc _ _ run hstored
  have hagree := hreported.agree
  have hbalanced := hreported.balanced fun _ => hcareful
  simp only [ShareLedger.Balanced, ledger, hbooked] at hbalanced
  simp only [ledger, ShareLedger.mk.injEq] at hagree
  exact ⟨hbalanced, hagree.2.1, hagree.2.2⟩

end Runs

/-! ### A saver with the lender, and a stake with the fund -/

namespace Sample

/-- The state account of the owner's position in an adapter. -/
def stateKey (X : Pubkey) : Pubkey := .pda X (adapterStateSeeds X (positionKey X)) 255

/-- The whitelisted adapter `X`, 100 USDC of the owner's, and a protocol's accounts. -/
def funded (X : Pubkey) (accounts : List (Pubkey × Account ProgramState)) : Chain :=
  World.ofAccounts (listed X ++ (aliceAta, usdc alice 100) :: accounts)

/-- Nothing has been opened there yet. -/
theorem funded_untouched {X : Pubkey} {accounts : List (Pubkey × Account ProgramState)}
    (huntyped : ∀ entry ∈ accounts, ∀ s, entry.2.data ≠ .anchor s) :
    Untouched (funded X accounts) where
  vacant adapter key := by
    rw [Option.eq_none_iff_forall_ne_some]
    intro s hs
    obtain ⟨executable, hstored⟩ := World.typed?_eq_some.mp hs
    have hmem := World.mem_of_ofAccounts hstored
    rcases List.mem_append.mp hmem with hlisted | hmem
    · -- the only typed account is the whitelist entry
      simp only [listed, program, List.mem_cons, Prod.mk.injEq, Account.mk.injEq, reduceCtorEq,
        and_false, List.not_mem_nil, or_false, false_or] at hlisted
      exact adapter.programId_ne_dispatcherId hlisted.2.1
    · rcases List.mem_cons.mp hmem with hata | hmem
      · simp [usdc] at hata
      · exact huntyped _ hmem s rfl
  silent _ _ := rfl

def bankVault : Pubkey := .key 24

/-- Program, group, account and bank. -/
def bankAccounts : List AccountInfo :=
  [readonly lender, readonly (.key 21), writable (.key 22), writable (.key 23)]

/-- The MarginFi adapter over a lender that leaves `dust` of each deposit behind. -/
def saver (dust : UInt64) : Callee ProgramState Event :=
  Adapter.callee curve layout (lend dust)

def savings : Chain :=
  funded MarginfiUsdc.programId
    [(lender, program), (bankVault, usdc (vaultAuthority lender) 0)]

def saverOpens (dust : UInt64) : Request :=
  request (openAccounts MarginfiUsdc.programId (stateKey MarginfiUsdc.programId) bankAccounts)
    .openPosition (saver dust) (by decide)

def saverDeposits (dust : UInt64) : Request :=
  request (fundAccounts MarginfiUsdc.programId (stateKey MarginfiUsdc.programId)
    (bankAccounts ++ [writable bankVault, readonly tokenProgramId])) (.deposit 10) (saver dust)
    (by decide)

def saverWithdraws (dust shares : UInt64) : Request :=
  request (fundAccounts MarginfiUsdc.programId (stateKey MarginfiUsdc.programId)
    (bankAccounts ++ [readonly (vaultAuthority lender), writable bankVault,
      readonly tokenProgramId, readonly (.key 25)])) (.withdraw shares) (saver dust) (by decide)

def saverOpened (dust : UInt64) : Chain := (saverOpens dust).apply curve savings

def saved (dust : UInt64) : Chain := (saverDeposits dust).apply curve (saverOpened dust)

/-- After 10 were deposited and `shares` asked back. -/
def swept (dust shares : UInt64) : Chain := (saverWithdraws dust shares).apply curve (saved dust)

def saverPast (dust shares : UInt64) : List (Chain × Option Request) :=
  [(saved dust, some (saverWithdraws dust shares)), (saverOpened dust, some (saverDeposits dust)),
    (savings, some (saverOpens dust))]

theorem saver_overAdapters (dust : UInt64) : OverAdapters curve layout (saver dust) :=
  ⟨lend dust, lend_lawful dust, rfl⟩

theorem saver_run (dust shares : UInt64) :
    SuiteRun curve layout Untouched (saverPast dust shares) (swept dust shares) := by
  refine .step (.step (.step (.start (funded_untouched ?_)) ?_) ?_) ?_
  · simp [program, usdc]
  · exact .request (saverOpens dust) (saver_overAdapters dust)
  · exact .request (saverDeposits dust) (saver_overAdapters dust)
  · exact .request (saverWithdraws dust shares) (saver_overAdapters dust)

/-- The state account of the saver's position. -/
def savingsState (total : UInt64) : MarginfiUsdc.AdapterState where
  header :=
    { position := positionKey MarginfiUsdc.programId
      adapterProgram := MarginfiUsdc.programId
      createdAt := 0
      totalShares := total }
  marginfiGroup := .key 21
  marginfiAccount := .key 22
  bank := .key 23
  bump := 255

def spotMarket : Pubkey := .key 31

def stake : Pubkey := .key 32

def ifVault : Pubkey := .key 34

/-- Program, state, spot market, stake and user stats. -/
def stakeAccounts : List AccountInfo :=
  [readonly fund, writable (.key 35), writable spotMarket, writable stake, writable (.key 33)]

/-- A fund of `shares` insurance shares over `vault` USDC. -/
def insured (vault : UInt64) (shares : Nat) : Chain :=
  funded DriftIf.programId
    [(fund, program), (ifVault, usdc (vaultAuthority fund) vault),
      (spotMarket, ⟨fund, false, .raw (spotMarketOf shares)⟩)]

/-- The Drift adapter over the fund. -/
def insurer : Callee ProgramState Event := Adapter.callee curve layout insure

def stakerOpens : Request :=
  request (openAccounts DriftIf.programId (stateKey DriftIf.programId)
    [readonly fund, writable (.key 35), readonly spotMarket, writable (.key 33), writable stake,
      readonly DriftIf.sysvarRentId]) .openPosition insurer (by decide)

def stakerDeposits (amount : UInt64) : Request :=
  request (fundAccounts DriftIf.programId (stateKey DriftIf.programId)
    (stakeAccounts ++ [writable (.key 36), writable ifVault, readonly (.key 37),
      readonly tokenProgramId])) (.deposit amount) insurer (by decide)

def stakerWithdraws (shares : UInt64) : Request :=
  request (fundAccounts DriftIf.programId (stateKey DriftIf.programId)
    (stakeAccounts ++ [writable ifVault, readonly (.key 37), readonly tokenProgramId]))
    (.withdraw shares) insurer (by decide)

/-- Anyone's request for the value of the staker's position. -/
def valuing (vault : Nat) : Request :=
  request (valueAccounts DriftIf.programId (stateKey DriftIf.programId)
    [readonly stake, readonly spotMarket, readonly (.key vault)]) .currentValue insurer (by rfl)

def stakerOpened (vault : UInt64) (shares : Nat) : Chain :=
  stakerOpens.apply curve (insured vault shares)

def staked (vault : UInt64) (shares : Nat) (amount : UInt64) : Chain :=
  (stakerDeposits amount).apply curve (stakerOpened vault shares)

/-- After `amount` was deposited and `burnt` shares asked back. -/
def unstaked (vault : UInt64) (shares : Nat) (amount burnt : UInt64) : Chain :=
  (stakerWithdraws burnt).apply curve (staked vault shares amount)

def stakerPast (vault : UInt64) (shares : Nat) (amount burnt : UInt64) :
    List (Chain × Option Request) :=
  [(staked vault shares amount, some (stakerWithdraws burnt)),
    (stakerOpened vault shares, some (stakerDeposits amount)),
    (insured vault shares, some stakerOpens)]

theorem insurer_overAdapters : OverAdapters curve layout insurer := ⟨insure, insure_lawful, rfl⟩

theorem staker_run (vault : UInt64) (shares : Nat) (amount burnt : UInt64) :
    SuiteRun curve layout Untouched (stakerPast vault shares amount burnt)
      (unstaked vault shares amount burnt) := by
  refine .step (.step (.step (.start (funded_untouched ?_)) ?_) ?_) ?_
  · simp [program, usdc]
  · exact .request stakerOpens insurer_overAdapters
  · exact .request (stakerDeposits amount) insurer_overAdapters
  · exact .request (stakerWithdraws burnt) insurer_overAdapters

/-- The state account of the staker's position. -/
def stakeState (total : UInt64) : DriftIf.AdapterState where
  header :=
    { position := positionKey DriftIf.programId
      adapterProgram := DriftIf.programId
      createdAt := 0
      totalShares := total }
  spotMarket := spotMarket
  insuranceFundStake := stake
  userStats := .key 33
  bump := 255

/-- At share price one, 10 deposited and 4 asked back. -/
theorem share_ledger_unstaked :
    (∀ key (s : DriftIf.AdapterState),
      (unstaked 100 100 10 4).state? DriftIf.AdapterState key = some s →
        Explained .driftIf s (unstaked 100 100 10 4)) ∧
    (unstaked 100 100 10 4).state? DriftIf.AdapterState (stateKey DriftIf.programId) =
      some (stakeState 6) ∧
    minted (positionKey DriftIf.programId)
      ((unstaked 100 100 10 4).emittedBy DriftIf.programId) = 10 :=
  ⟨(@share_ledger _ _ _ _ .driftIf (by decide) (staker_run 100 100 10 4)).1, by decide +kernel,
    by decide +kernel⟩

theorem booked_saved :
    bookedShares curve .marginfiUsdc (positionKey MarginfiUsdc.programId) (saved 0) = 10 := by
  decide +kernel

/-- 10 deposited and 4 asked back. -/
theorem marginfi_ledger_saved : Explained .marginfiUsdc (savingsState 6) (swept 0 4) := by
  have hstored : (swept 0 4).state? MarginfiUsdc.AdapterState (stateKey MarginfiUsdc.programId) =
      some (savingsState 6) := by decide +kernel
  refine marginfi_ledger_of_careful (saver_run 0 4) hstored ?_
  unfold saverPast
  refine List.forall_mem_cons.mpr ⟨not_overdraws_of_le rfl ?_, List.forall_mem_cons.mpr
    ⟨not_overdraws_of_ix fun _ h => ?_, List.forall_mem_singleton.mpr
      (not_overdraws_of_ix fun _ h => ?_)⟩⟩
  · exact le_of_le_of_eq (by decide) booked_saved.symm
  · cases h
  · cases h

/-- 10 deposited and 25 asked back: the withdrawal completes, and more is reported burned
than was ever minted. -/
theorem marginfi_overdrawn :
    SuiteRun curve layout Untouched (saverPast 0 25) (swept 0 25) ∧
    (saved 0).state? MarginfiUsdc.AdapterState (stateKey MarginfiUsdc.programId) =
      some (savingsState 10) ∧
    (saverWithdraws 0 25).Done curve (saved 0) ∧
    (swept 0 25).state? MarginfiUsdc.AdapterState (stateKey MarginfiUsdc.programId) =
      some (savingsState 0) ∧
    minted (positionKey MarginfiUsdc.programId)
      ((swept 0 25).emittedBy MarginfiUsdc.programId) = 10 ∧
    burned (positionKey MarginfiUsdc.programId)
      ((swept 0 25).emittedBy MarginfiUsdc.programId) = 25 ∧
    ¬ Explained .marginfiUsdc (savingsState 0) (swept 0 25) := by
  refine ⟨saver_run 0 25, by decide +kernel, by decide +kernel, by decide +kernel,
    by decide +kernel, by decide +kernel, ?_⟩
  exact not_explained_of_lt (by decide +kernel)

end Sample

end YieldAdapter.Dispatcher

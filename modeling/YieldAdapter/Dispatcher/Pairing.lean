import YieldAdapter.Dispatcher.EventLog
import YieldAdapter.Dispatcher.Vaults

/-!
# Positions and their state accounts

A position is stored twice: the dispatcher's record says whose it is and in which adapter,
the adapter's state account holds its ledger. One request creates both, nothing removes
either, and no program writes the other's. So in every state that is reached over the
adapters, each record has exactly one state account, and no state account is without its
record, as long as no program below calls an adapter back to initialize one. Of what is
stored only counters and switches ever move.
-/

set_option autoImplicit false

namespace YieldAdapter.Dispatcher

open Solana

/-- The dispatcher holds a position of `adapter`'s at this address. -/
def OpenIn (adapter : Adapter) (position : Pubkey) (w : Chain) : Prop :=
  ∃ p, w.state? Position position = some p ∧ p.adapterProgram = adapter.programId

/-- The state account of `adapter` at `key` holds the ledger of `position`. -/
def Backs (adapter : Adapter) (key position : Pubkey) (w : Chain) : Prop :=
  ∃ s : adapter.State, w.state? adapter.State key = some s ∧
    (AdapterAccount.header s).position = position

/-- Records and state accounts belong together. -/
def Paired (w : Chain) : Prop :=
  ∀ (adapter : Adapter) (position : Pubkey),
    OpenIn adapter position w ↔ ∃ key, Backs adapter key position w

section Pairing

variable {curve : Curve} {layout : Layout ProgramState} {w w' : Chain} {adapter : Adapter}
variable {position key : Pubkey} {label : Option Request} {event : Option Event}

theorem openIn_congr (h : ∀ key, w'.state? Position key = w.state? Position key) :
    OpenIn adapter position w' ↔ OpenIn adapter position w := by
  simp only [OpenIn, h]

/-- An event that opens nothing leaves every position as it is. -/
theorem Announced.openIn_iff (h : Announced curve w w' event)
    (hevent : ∀ owner adapterProgram opened,
      event ≠ some (.positionOpened owner adapterProgram opened)) :
    OpenIn adapter position w' ↔ OpenIn adapter position w := by
  cases h with
  | silent hentries hpositions => exact openIn_congr hpositions
  | listed found vacant active hentries hpositions => exact openIn_congr hpositions
  | switched isActive stored hentries hpositions => exact openIn_congr hpositions
  | opened lets found vacant hentries hpositions => exact absurd rfl (hevent _ _ _)
  | served about stored lets hentries hpositions => exact openIn_congr hpositions

/-- An event that opens a position adds that one. -/
theorem Announced.openIn_of_opened {owner adapterProgram opened : Pubkey}
    (h : Announced curve w w' (some (.positionOpened owner adapterProgram opened))) :
    OpenIn adapter position w' ↔
      position = opened ∧ adapterProgram = adapter.programId ∨ OpenIn adapter position w := by
  cases h with
  | @opened _ p lets found vacant hentries hpositions =>
    unfold OpenIn
    rw [hpositions]
    split_ifs with hposition
    · subst hposition
      simp [vacant]
    · simp [hposition]
  | served about stored lets hentries hpositions => cases about

theorem backs_of_retains (h : Retains w w') :
    Backs adapter key position w' ↔ Backs adapter key position w := by
  simp only [Backs, state?_iff_typed?, h adapter key]

/-- Moving a ledger leaves it with the position it is of. -/
theorem backs_of_adjusts {moved : Adapter} {k : Pubkey} {s : moved.State} {total : UInt64}
    (hstored : w.typed? moved.programId k = some (AnchorState.encode s))
    (h : Adjusts moved k (AnchorState.encode (AdapterAccount.setTotalShares s total)) w w') :
    Backs adapter key position w' ↔ Backs adapter key position w := by
  simp only [Backs, state?_iff_typed?, h adapter key]
  split_ifs with hmoved
  · obtain ⟨rfl, rfl⟩ := hmoved
    -- the header differs in the total only
    have hposition : (AdapterAccount.header (AdapterAccount.setTotalShares s total)).position =
        (AdapterAccount.header s).position := by
      rw [AdapterAccount.header_setTotalShares]
    constructor
    · rintro ⟨t, ht, hbacks⟩
      obtain rfl := AnchorState.encode_inj (Option.some.inj ht)
      exact ⟨s, hstored, hposition.symm.trans hbacks⟩
    · rintro ⟨t, ht, hbacks⟩
      obtain rfl := AnchorState.encode_inj (Option.some.inj (hstored.symm.trans ht))
      exact ⟨_, rfl, hposition.trans hbacks⟩
  · exact Iff.rfl

/-- Creating a state account adds the ledger of one position. -/
theorem backs_of_created {created : Adapter} {k : Pubkey} {s : created.State}
    (hvacant : w.typed? created.programId k = none)
    (h : Adjusts created k (AnchorState.encode s) w w') :
    Backs adapter key position w' ↔
      (created = adapter ∧ key = k ∧ (AdapterAccount.header s).position = position) ∨
        Backs adapter key position w := by
  simp only [Backs, state?_iff_typed?, h adapter key]
  split_ifs with hcreated
  · obtain ⟨rfl, rfl⟩ := hcreated
    constructor
    · rintro ⟨t, ht, hbacks⟩
      obtain rfl := AnchorState.encode_inj (Option.some.inj ht)
      exact .inl ⟨rfl, rfl, hbacks⟩
    · rintro (⟨-, -, hbacks⟩ | ⟨t, ht, -⟩)
      · exact ⟨s, rfl, hbacks⟩
      · rw [hvacant] at ht
        cases ht
  · constructor
    · exact .inr
    · rintro (⟨rfl, rfl, -⟩ | hbacks)
      · exact absurd ⟨rfl, rfl⟩ hcreated
      · exact hbacks

/-- The event of a step is the one that is on record after it. -/
theorem event_of_logged {log : List (Pubkey × Event)} (hlogged : Logged log w w')
    (hemitted : w'.emittedBy dispatcherId = event.toList ++ w.emittedBy dispatcherId) :
    event.toList = emissions dispatcherId log := by
  have hlog := hlogged dispatcherId suite_dispatcherId
  rw [hemitted] at hlog
  exact List.append_cancel_right hlog

/-- Every step keeps records and state accounts together. -/
theorem Paired.step (h : Paired w) (hserved : Served curve w w' label)
    (hreports : Reports curve w label event) (hannounced : Announced curve w w' event)
    (hemitted : w'.emittedBy dispatcherId = event.toList ++ w.emittedBy dispatcherId) :
    Paired w' := by
  intro adapter position
  cases hserved with
  | quiet retains logged unrelated idle =>
    simp only [backs_of_retains retains, ← h adapter position]
    by_cases hopens : ∀ owner adapterProgram opened,
        event ≠ some (.positionOpened owner adapterProgram opened)
    · exact hannounced.openIn_iff hopens
    push Not at hopens
    obtain ⟨owner, adapterProgram, opened, rfl⟩ := hopens
    rw [hannounced.openIn_of_opened]
    refine or_iff_right ?_
    rintro ⟨rfl, hprogram⟩
    -- a position opened in an adapter would have been named by the request
    cases hannounced with
    | opened lets found vacant hentries hpositions =>
      cases hreports with
      | opened done ix signed routed named =>
        have haddress := findProgramAddress_eq_pda found
        rw [hprogram] at haddress
        exact idle _ adapter _ _ rfl done
          ⟨by rw [ix]; rfl, named.trans (congrArg some haddress)⟩
    | served about stored lets hentries hpositions => cases about
  | @opened request created s owner opened k ix serves found vacant empty adjusts logged =>
    have hevent := event_of_logged logged hemitted
    obtain rfl : event = some (.positionOpened owner created.programId opened) := by
      cases event with
      | none => simp at hevent
      | some event => simpa using hevent
    rw [hannounced.openIn_of_opened, h adapter position]
    simp only [backs_of_created vacant adjusts, serves.backs, exists_or]
    refine or_congr_left ⟨?_, ?_⟩
    · rintro ⟨rfl, hprogram⟩
      exact ⟨k, Adapter.programId_inj hprogram, rfl, rfl⟩
    · rintro ⟨_, rfl, rfl, rfl⟩
      exact ⟨rfl, rfl⟩
  | @deposited request moved s moved' k amount shares total ix serves stored total_eq adjusts
      logged =>
    have hevent := event_of_logged logged hemitted
    simp only [backs_of_adjusts stored adjusts, ← h adapter position]
    refine hannounced.openIn_iff fun owner adapterProgram opened hsame => ?_
    simp [hsame, moved.programId_ne_dispatcherId] at hevent
  | @withdrawn request moved s moved' k shares amountOut total ix serves stored remains adjusts
      logged =>
    have hevent := event_of_logged logged hemitted
    simp only [backs_of_adjusts stored adjusts, ← h adapter position]
    refine hannounced.openIn_iff fun owner adapterProgram opened hsame => ?_
    simp [hsame, moved.programId_ne_dispatcherId] at hevent

theorem paired_of_run {past : List (Chain × Option Request)}
    (run : SuiteRun curve layout (fun w => Unused w ∧ Untouched w) past w) : Paired w := by
  refine run.invariant (fun _ w => Paired w) ?_ ?_
  · rintro w₀ ⟨hunused, huntouched⟩ adapter position
    have hnone : w₀.state? Position position = none := hunused.state?_eq_none rfl _
    simp [OpenIn, Backs, state?_iff_typed?, hnone, huntouched.vacant]
  · rintro past w₁ label w₂ - hpaired hstep
    obtain ⟨event, hreports, hannounced, hemitted⟩ := announced_of_step (hostile_of_step hstep)
    exact hpaired.step (served_of_step hstep) hreports hannounced hemitted

/-- Over every run from before the dispatcher's first use, in which the adapters are called by
the dispatcher only, a position is recorded in an adapter exactly if the adapter holds a state
account for it, and then it holds exactly one. -/
theorem position_state_paired {past : List (Chain × Option Request)}
    (run : SuiteRun curve layout (fun w => Unused w ∧ Untouched w) past w) (adapter : Adapter)
    (position : Pubkey) :
    OpenIn adapter position w ↔ ∃! key, Backs adapter key position w := by
  have hcanonical := (reported_of_run (run.mono_start fun _ => And.right)).1
  rw [paired_of_run run adapter position]
  refine ⟨fun ⟨key, s, hstored, hbacks⟩ => ⟨key, ⟨s, hstored, hbacks⟩, ?_⟩, ExistsUnique.exists⟩
  rintro k ⟨t, ht, hbacks'⟩
  rw [state?_iff_typed?] at hstored ht
  exact (hcanonical.eq_of_position hstored ht (hbacks'.trans hbacks.symm)).1

/-! ### What is fixed for good -/

@[simp] theorem setTotalShares_self (s : adapter.State) :
    AdapterAccount.setTotalShares s (AdapterAccount.header s).totalShares = s := by
  cases adapter <;> rfl

@[simp] theorem setTotalShares_setTotalShares (s : adapter.State) (total total' : UInt64) :
    AdapterAccount.setTotalShares (AdapterAccount.setTotalShares s total) total' =
      AdapterAccount.setTotalShares s total' := by
  cases adapter <;> rfl

/-- A step moves at most the total of a state account. -/
theorem Served.state_kept (h : Served curve w w' label) {s : adapter.State}
    (hstored : w.state? adapter.State key = some s) :
    ∃ total, w'.state? adapter.State key = some (AdapterAccount.setTotalShares s total) := by
  rw [state?_iff_typed?] at hstored
  have hsame : w'.typed? adapter.programId key = w.typed? adapter.programId key →
      ∃ total, w'.state? adapter.State key = some (AdapterAccount.setTotalShares s total) := by
    intro h
    refine ⟨(AdapterAccount.header s).totalShares, ?_⟩
    rw [state?_iff_typed?, h, setTotalShares_self]
    exact hstored
  have hmoved : ∀ {moved : Adapter} {k : Pubkey} {t : moved.State} {total : UInt64},
      w.typed? moved.programId k = some (AnchorState.encode t) →
        Adjusts moved k (AnchorState.encode (AdapterAccount.setTotalShares t total)) w w' →
          ∃ total, w'.state? adapter.State key = some (AdapterAccount.setTotalShares s total) := by
    intro moved k t total ht hadjusts
    by_cases hthis : adapter = moved ∧ key = k
    · obtain ⟨rfl, rfl⟩ := hthis
      obtain rfl := AnchorState.encode_inj (Option.some.inj (ht.symm.trans hstored))
      exact ⟨total, state?_iff_typed?.mpr ((hadjusts adapter key).trans (if_pos ⟨rfl, rfl⟩))⟩
    · exact hsame ((hadjusts adapter key).trans (if_neg hthis))
  cases h with
  | quiet retains logged unrelated idle => exact hsame (retains adapter key)
  | @opened request created t owner opened k ix serves found vacant empty adjusts logged =>
    -- where an account was created there was none
    refine hsame ((adjusts adapter key).trans (if_neg ?_))
    rintro ⟨rfl, rfl⟩
    rw [vacant] at hstored
    cases hstored
  | deposited ix serves stored total_eq adjusts logged => exact hmoved stored adjusts
  | withdrawn ix serves stored remains adjusts logged => exact hmoved stored adjusts

/-- A position that is recorded is not recorded anew. -/
theorem Announced.position_kept (h : Announced curve w w' event) {p : Position}
    (hstored : w.state? Position key = some p) : w'.state? Position key = some p := by
  cases h with
  | silent hentries hpositions => exact (hpositions key).trans hstored
  | listed found vacant active hentries hpositions => exact (hpositions key).trans hstored
  | switched isActive stored hentries hpositions => exact (hpositions key).trans hstored
  | opened lets found vacant hentries hpositions =>
    refine (hpositions key).trans ((if_neg ?_).trans hstored)
    rintro rfl
    rw [vacant] at hstored
    cases hstored
  | served about stored lets hentries hpositions => exact (hpositions key).trans hstored

/-- From any state on, whatever is asked and whatever the protocols do short of calling the
adapters back, nothing that the six programs store is ever removed, and nothing in it changes but
the registry's count, which grows, the switch of an entry and the total of a state account.
Positions stay as they were opened, and whatever an adapter pinned when a position was opened
stays pinned. -/
theorem records_fixed {later : List (Chain × Option Request)}
    (onward : SuiteRun curve layout (· = w) later w') :
    Kept w w' ∧
    (∀ key p, w.state? Position key = some p → w'.state? Position key = some p) ∧
    ∀ (adapter : Adapter) key (s : adapter.State), w.state? adapter.State key = some s →
      ∃ total, w'.state? adapter.State key = some (AdapterAccount.setTotalShares s total) := by
  refine ⟨kept_of_run (onward.mono fun _ _ _ => hostile_of_step), ?_, ?_⟩
  · refine onward.invariant (fun _ w' => ∀ key p, w.state? Position key = some p →
      w'.state? Position key = some p) ?_ ?_
    · rintro _ rfl key p hstored
      exact hstored
    · intro later w₁ label w₂ _ ih hstep key p hstored
      obtain ⟨event, -, hannounced, -⟩ := announced_of_step (hostile_of_step hstep)
      exact hannounced.position_kept (ih key p hstored)
  · refine onward.invariant (fun _ w' => ∀ (adapter : Adapter) key (s : adapter.State),
      w.state? adapter.State key = some s →
        ∃ total, w'.state? adapter.State key = some (AdapterAccount.setTotalShares s total)) ?_ ?_
    · rintro _ rfl adapter key s hstored
      exact ⟨(AdapterAccount.header s).totalShares, by rw [setTotalShares_self]; exact hstored⟩
    · intro later w₁ label w₂ _ ih hstep adapter key s hstored
      obtain ⟨total, hbefore⟩ := ih adapter key s hstored
      obtain ⟨total', hafter⟩ := (served_of_step hstep).state_kept hbefore
      exact ⟨total', by rw [hafter, setTotalShares_setTotalShares]⟩

end Pairing

namespace Sample

/-- The saver's position has its MarginFi account's ledger, and no Kamino ledger stands at it. -/
theorem position_state_paired_saved :
    (∃! key, Backs .marginfiUsdc key (positionKey MarginfiUsdc.programId) fundedSavings) ∧
      ¬ ∃! key, Backs .kaminoUsdc key (positionKey MarginfiUsdc.programId) fundedSavings := by
  have hstored : fundedSavings.state? Position (positionKey MarginfiUsdc.programId) = some
      { owner := alice, adapterProgram := MarginfiUsdc.programId
        usdcPool := poolKey MarginfiUsdc.programId, usdcMint := usdcMint, createdAt := 0
        bump := 255 } := by decide +kernel
  have hpaired := position_state_paired fundedSavings_run
  refine ⟨(hpaired .marginfiUsdc _).mp ⟨_, hstored, rfl⟩, fun hkamino => ?_⟩
  obtain ⟨p, hstored', hprogram⟩ := (hpaired .kaminoUsdc _).mpr hkamino
  obtain rfl := Option.some.inj (hstored.symm.trans hstored')
  exact absurd hprogram (by decide)

/-- A withdrawal of 4 leaves the saver's position and what the lender's adapter pinned for it. -/
theorem records_fixed_swept :
    (sweptSavings 4).state? Position (positionKey MarginfiUsdc.programId) =
      fundedSavings.state? Position (positionKey MarginfiUsdc.programId) ∧
    ∃ total, (sweptSavings 4).state? MarginfiUsdc.AdapterState (stateKey MarginfiUsdc.programId) =
      some (savingsState total) := by
  have honward : SuiteRun curve layout (· = fundedSavings)
      [(fundedSavings, some (saverWithdraws 0 4))] (sweptSavings 4) :=
    .step (.start rfl) (.request (saverWithdraws 0 4) (saver_overAdapters 0))
  obtain ⟨-, hpositions, hstates⟩ := records_fixed honward
  have hopened : (fundedSavings.state? Position (positionKey MarginfiUsdc.programId)).isSome =
      true := by decide +kernel
  obtain ⟨p, hstored⟩ := Option.isSome_iff_exists.mp hopened
  have hbooked : fundedSavings.state? MarginfiUsdc.AdapterState
      (stateKey MarginfiUsdc.programId) = some (savingsState 10) := by decide +kernel
  exact ⟨(hpositions _ p hstored).trans hstored.symm, hstates .marginfiUsdc _ _ hbooked⟩

end Sample

end YieldAdapter.Dispatcher

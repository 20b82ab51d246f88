import YieldAdapter.Dispatcher.Custody
import YieldAdapter.Dispatcher.EventLog
import YieldAdapter.Dispatcher.Pool

/-!
# Positions nobody acts for

A completed request touches the position of the owner who signed it and goes through an
adapter that is switched on. What is stored and held for an owner who does not act, and
for every owner while the adapter is switched off, therefore stays, whatever else happens
on the chain. Token accounts are taken without delegates, as everywhere in this model.
-/

set_option autoImplicit false

namespace YieldAdapter.Dispatcher

open Solana Accounting

theorem CurrentValue.Accepted.routed {curve : Curve} {ctx : Context} {w : Chain}
    {accounts : CurrentValue} (h : accounts.Accepted curve ctx w) :
    routedAdapter ctx .currentValue = some accounts.adapterProgram.key := by
  unfold routedAdapter
  rw [h.slots]
  rfl

section Requests

variable {curve : Curve} {w : Chain} {request : Request} {owner adapterProgram : Pubkey}
variable {bump : UInt8}

/-- Who completes a request that names a position acts for its owner. -/
theorem actsFor_of_names (hdone : request.Done curve w)
    (hnames : request.Names (positionAddress owner adapterProgram bump)) :
    request.ActsFor owner adapterProgram := by
  have hcompleted := Request.completed_of_done hdone
  have hprogram := request.program
  generalize request.apply curve w = w' at hcompleted
  generalize hix : request.ix = ix at hcompleted
  -- the seeds that were checked or derived are those of the position named
  have hsame : ∀ {owner' adapterProgram' key : Pubkey} {bump' : UInt8},
      createProgramAddress curve request.ctx.programId (positionSeeds owner' adapterProgram')
        bump' = some key → key = positionAddress owner adapterProgram bump →
        owner' = owner ∧ adapterProgram' = adapterProgram := by
    intro owner' adapterProgram' key bump' hseeds hkey
    obtain ⟨-, haddress⟩ := createProgramAddress_eq_some.mp hseeds
    rw [hkey, hprogram] at haddress
    obtain ⟨howner, hadapter, -⟩ := positionAddress_inj haddress
    exact ⟨howner.symm, hadapter.symm⟩
  cases hcompleted with
  | initializeRegistry | whitelistAdapter | pauseAdapter | currentValue =>
    simp [Request.Names, hix, Ix.movesFunds] at hnames
  | openPosition loaded gate version created pooled routed owned =>
    obtain ⟨rfl, rfl⟩ := hsame (findProgramAddress_create (initState_ok created).1)
      (loaded.named hnames)
    exact ⟨loaded.signer, hnames.1, by rw [hix]; exact loaded.routed⟩
  | deposit accepted positive version funded routed returned owned =>
    obtain ⟨rfl, rfl⟩ := hsame accepted.seeds (accepted.named hnames)
    exact ⟨accepted.signer, hnames.1, by rw [hix]; exact accepted.routed_deposit _⟩
  | withdraw accepted positive version routed returned paid owned =>
    obtain ⟨rfl, rfl⟩ := hsame accepted.seeds (accepted.named hnames)
    exact ⟨accepted.signer, hnames.1, by rw [hix]; exact accepted.routed_withdraw _⟩

/-- What is routed to an adapter completes only if the adapter is let through. -/
theorem letsThrough_of_done (hdone : request.Done curve w)
    (hrouted : routedAdapter request.ctx request.ix = some adapterProgram) :
    LetsThrough curve w adapterProgram := by
  have hcompleted := Request.completed_of_done hdone
  have hprogram := request.program
  generalize request.apply curve w = w' at hcompleted
  generalize request.ix = ix at hcompleted hrouted
  cases hcompleted with
  | initializeRegistry | whitelistAdapter | pauseAdapter => cases hrouted
  | openPosition loaded gate version created pooled routed owned =>
    obtain rfl := Option.some.inj (loaded.routed.symm.trans hrouted)
    exact gate.letsThrough hprogram
  | deposit accepted positive version funded routed returned owned =>
    obtain rfl := Option.some.inj ((accepted.routed_deposit _).symm.trans hrouted)
    exact accepted.gate.letsThrough hprogram
  | withdraw accepted positive version routed returned paid owned =>
    obtain rfl := Option.some.inj ((accepted.routed_withdraw _).symm.trans hrouted)
    exact accepted.gate.letsThrough hprogram
  | currentValue accepted version routed returned =>
    obtain rfl := Option.some.inj (accepted.routed.symm.trans hrouted)
    exact accepted.gate.letsThrough hprogram

/-- A step whose request does not name a position posts nothing to it. -/
theorem eventPosting_of_reports {label : Option Request} {event : Option Event} {position : Pubkey}
    (h : Reports curve w label event)
    (hnames : ∀ request, label = some request → request.Done curve w → ¬ request.Names position) :
    eventPosting position event = .none := by
  cases h with
  | outside | failed | founded | listed | switched | opened => rfl
  | @deposited request position' amount shares done ix named =>
    have hne : position' ≠ position := by
      rintro rfl
      exact hnames request rfl done ⟨by rw [ix]; rfl, named⟩
    simp [eventPosting, eventPosting?, notice?, Notice.posting?, hne]
  | @withdrawn request position' shares amountOut done ix named =>
    have hne : position' ≠ position := by
      rintro rfl
      exact hnames request rfl done ⟨by rw [ix]; rfl, named⟩
    simp [eventPosting, eventPosting?, notice?, Notice.posting?, hne]
  | @valued request position' value done ix named =>
    by_cases hposition : position' = position
    · simp [eventPosting, eventPosting?, notice?, Notice.posting?, hposition]
    · simp [eventPosting, eventPosting?, notice?, Notice.posting?, hposition]

/-- Nor does it open it. -/
theorem position_of_reports {w' : Chain} {label : Option Request} {event : Option Event}
    {position : Pubkey} (h : Reports curve w label event) (hannounced : Announced curve w w' event)
    (hnames : ∀ request, label = some request → request.Done curve w → ¬ request.Names position) :
    w'.state? Position position = w.state? Position position := by
  cases hannounced with
  | silent hentries hpositions => exact hpositions position
  | listed found vacant active hentries hpositions => exact hpositions position
  | switched isActive stored hentries hpositions => exact hpositions position
  | @opened position' p lets found vacant hentries hpositions =>
    cases h with
    | opened done ix signed routed named =>
      rw [hpositions, if_neg]
      rintro rfl
      exact hnames _ rfl done ⟨by rw [ix]; rfl, named⟩
  | served about stored lets hentries hpositions => exact hpositions position

/-- What a position holds does not shrink in a step whose request does not name it. -/
theorem held_of_step {w' : Chain} {label : Option Request} {position account : Pubkey}
    {t : TokenAccount}
    (h : Step curve (Lawful (· = dispatcherId)) (· = dispatcherId) w label w')
    (hderived : Derived position)
    (hnames : ∀ request, label = some request → request.Done curve w → ¬ request.Names position)
    (ht : w.token? account = some t) (hauthority : t.authority = position) :
    ∃ t', w'.token? account = some t' ∧ t'.mint = t.mint ∧ t'.authority = t.authority ∧
      t.amount ≤ t'.amount := by
  cases h with
  | request request hexec =>
    have hframed := framed_of_not_names hexec hderived (hnames request rfl)
    exact hframed.debited account t ht (not_not.mpr hauthority)
  | outside hframed => exact hframed.debited account t ht (not_not.mpr (hauthority ▸ hderived))

end Requests

/-! ### Idle owners -/

/-- What is kept for a position in an adapter: its record, its state account and what its
token accounts hold. What was announced about it in between are readings of its value. -/
structure Unmoved (adapter : Adapter) (position : Pubkey) (w w' : Chain) : Prop where
  record : w'.state? Position position = w.state? Position position
  ledger : ∀ key (s : adapter.State), w.state? adapter.State key = some s →
    (AdapterAccount.header s).position = position → w'.state? adapter.State key = some s
  held : ∀ account t, w.token? account = some t → t.authority = position →
    ∃ t', w'.token? account = some t' ∧ t'.mint = t.mint ∧ t'.authority = t.authority ∧
      t.amount ≤ t'.amount
  unposted : ∃ reads, postings position w' = reads ++ postings position w ∧
    ∀ posting ∈ reads, posting = .none

section Idle

variable {curve : Curve} {layout : Layout ProgramState} {adapter : Adapter} {owner : Pubkey}
variable {bump : UInt8} {position : Pubkey} {w w' w'' : Chain} {label : Option Request}

theorem Unmoved.refl (adapter : Adapter) (position : Pubkey) (w : Chain) :
    Unmoved adapter position w w where
  record := rfl
  ledger _ _ h _ := h
  held _ t h _ := ⟨t, h, rfl, rfl, UInt64.le_refl _⟩
  unposted := ⟨[], rfl, by simp⟩

theorem Unmoved.trans (h : Unmoved adapter position w w') (h' : Unmoved adapter position w' w'') :
    Unmoved adapter position w w'' where
  record := h'.record.trans h.record
  ledger key s hstored hbacks := h'.ledger key s (h.ledger key s hstored hbacks) hbacks
  held account t ht hauthority := by
    obtain ⟨t₁, ht₁, hmint, hauthority₁, hle⟩ := h.held account t ht hauthority
    obtain ⟨t₂, ht₂, hmint₂, hauthority₂, hle₂⟩ :=
      h'.held account t₁ ht₁ (hauthority₁.trans hauthority)
    exact ⟨t₂, ht₂, hmint₂.trans hmint, hauthority₂.trans hauthority₁, UInt64.le_trans hle hle₂⟩
  unposted := by
    obtain ⟨reads, hreads, hnone⟩ := h.unposted
    obtain ⟨reads', hreads', hnone'⟩ := h'.unposted
    refine ⟨reads' ++ reads, by rw [hreads', hreads, List.append_assoc], fun posting hmem => ?_⟩
    rcases List.mem_append.mp hmem with hmem | hmem
    · exact hnone' posting hmem
    · exact hnone posting hmem

/-- A step in which nobody acts for the owner moves nothing of the owner's. -/
theorem unmoved_of_step (h : Step curve (OverAdapters curve layout) Suite w label w')
    (hidle : ∀ request, label = some request → request.Done curve w →
      ¬ request.ActsFor owner adapter.programId) :
    Unmoved adapter (positionAddress owner adapter.programId bump) w w' := by
  have hnames : ∀ request, label = some request → request.Done curve w →
      ¬ request.Names (positionAddress owner adapter.programId bump) :=
    fun request hlabel hdone hnames => hidle request hlabel hdone (actsFor_of_names hdone hnames)
  have hderived := derived_positionAddress owner adapter.programId bump
  obtain ⟨event, hreports, hannounced, hemitted⟩ := announced_of_step (hostile_of_step h)
  refine ⟨position_of_reports hreports hannounced hnames, fun key s hstored hbacks => ?_,
    fun account t => held_of_step (hostile_of_step h) hderived hnames, _,
    postings_of_event hemitted _, fun posting hmem => ?_⟩
  · cases h with
    | request request hexec =>
      rcases confined_of_request hexec adapter key s hstored with hsame | ⟨hnamed, -⟩
      · exact hsame
      · have hundone : ¬ request.Done curve w :=
          fun hdone => hnames request rfl hdone (hbacks ▸ hnamed)
        rw [Request.apply_of_not_done hundone]
        exact hstored
    | outside hframed =>
      rw [state?_iff_typed?] at hstored ⊢
      rw [hframed.typed?_eq adapter.suite]
      exact hstored
  · -- what was announced about the position, if anything, posts nothing
    have hnone := eventPosting_of_reports hreports hnames
    rw [Option.mem_toList] at hmem
    rw [eventPosting, hmem] at hnone
    exact hnone

/-- While an owner does not act through an adapter, whatever all others do, and whatever the
protocols do below the adapters, the owner's position there stays as it was opened, its ledger
and the rest of its state account stay as they are, its token accounts, on which no delegate is
approved, do not shrink, and all that is announced about it are readings of its value. -/
theorem idle_position_kept {later : List (Chain × Option Request)}
    (run : SuiteRun curve layout (· = w) later w') (bump : UInt8)
    (hidle : ∀ v request, (v, some request) ∈ later → request.Done curve v →
      ¬ request.ActsFor owner adapter.programId) :
    Unmoved adapter (positionAddress owner adapter.programId bump) w w' := by
  revert hidle
  refine run.invariant (fun later w' => (∀ v request, (v, some request) ∈ later →
    request.Done curve v → ¬ request.ActsFor owner adapter.programId) →
      Unmoved adapter (positionAddress owner adapter.programId bump) w w') ?_ ?_
  · rintro _ rfl _
    exact .refl adapter _ _
  · intro later w₁ label w₂ _ ih hstep hidle
    refine (ih fun v request hmem => hidle v request (.tail _ hmem)).trans
      (unmoved_of_step hstep fun request hlabel => ?_)
    exact hidle w₁ request (hlabel ▸ .head _)

end Idle

/-! ### Adapters that are switched off -/

section Off

variable {curve : Curve} {w w' : Chain} {entry : Pubkey} {e : AdapterEntry}
variable {label : Option Request}

/-- The one step that switches an adapter on again. -/
def Resumes (curve : Curve) (entry : Pubkey) : Chain × Option Request → Prop
  | (_, none) => False
  | (w, some request) => request.Done curve w ∧ request.ix = .pauseAdapter false ∧
      request.ctx.accounts[2]?.map (·.key) = some entry

/-- No token account of a position in the adapter shrinks. -/
def HoldsOn (adapterProgram : Pubkey) (w w' : Chain) : Prop :=
  ∀ owner bump account t, w.token? account = some t →
    t.authority = positionAddress owner adapterProgram bump →
      ∃ t', w'.token? account = some t' ∧ t'.mint = t.mint ∧ t'.authority = t.authority ∧
        t.amount ≤ t'.amount

theorem HoldsOn.refl (adapterProgram : Pubkey) (w : Chain) : HoldsOn adapterProgram w w :=
  fun _ _ _ t h _ => ⟨t, h, rfl, rfl, UInt64.le_refl _⟩

theorem HoldsOn.trans {adapterProgram : Pubkey} {w'' : Chain} (h : HoldsOn adapterProgram w w')
    (h' : HoldsOn adapterProgram w' w'') : HoldsOn adapterProgram w w'' := by
  intro owner bump account t ht hauthority
  obtain ⟨t₁, ht₁, hmint, hauthority₁, hle⟩ := h owner bump account t ht hauthority
  obtain ⟨t₂, ht₂, hmint₂, hauthority₂, hle₂⟩ :=
    h' owner bump account t₁ ht₁ (hauthority₁.trans hauthority)
  exact ⟨t₂, ht₂, hmint₂.trans hmint, hauthority₂.trans hauthority₁, UInt64.le_trans hle hle₂⟩

/-- Nothing that is routed to an adapter switched off completes. -/
theorem not_done_of_off {entries : List Pubkey} (hroster : Roster curve w entries)
    (hstored : w.state? AdapterEntry entry = some e) (hoff : e.isActive = false)
    {request : Request} (hrouted : routedAdapter request.ctx request.ix = some e.adapterProgram) :
    ¬ request.Done curve w := by
  intro hdone
  have hon := (letsThrough_of_done hdone hrouted).switch_eq hroster
  have hfound := (hroster.entered entry e (World.state?_eq_some_iff_typed?.mp hstored)).found
  simp [switch, hfound, hstored, hoff] at hon

/-- The entry of an adapter is its only one. -/
theorem Roster.entry_unique {entries : List Pubkey} (h : Roster curve w entries) {entry' : Pubkey}
    {e' : AdapterEntry} (hstored : w.state? AdapterEntry entry = some e)
    (hstored' : w.state? AdapterEntry entry' = some e')
    (hsame : e.adapterProgram = e'.adapterProgram) : entry = entry' := by
  have hfound := (h.entered entry e (World.state?_eq_some_iff_typed?.mp hstored)).found
  have hfound' := (h.entered entry' e' (World.state?_eq_some_iff_typed?.mp hstored')).found
  rw [hsame, hfound', Option.some_inj] at hfound
  exact (Prod.mk.inj hfound).1.symm

/-- An entry that is switched off stays so until it is switched on. -/
theorem entry_of_reports {entries : List Pubkey} {event : Option Event}
    (hroster : Roster curve w entries) (hreports : Reports curve w label event)
    (hannounced : Announced curve w w' event) (hstored : w.state? AdapterEntry entry = some e)
    (hoff : e.isActive = false) (hresumes : ¬ Resumes curve entry (w, label)) :
    w'.state? AdapterEntry entry = some e := by
  cases hannounced with
  | silent hentries hpositions => rw [hentries, hstored]
  | @listed entry' e' found vacant active hentries hpositions =>
    rw [hentries, if_neg, hstored]
    rintro rfl
    rw [vacant] at hstored
    cases hstored
  | @switched entry' e' isActive stored hentries hpositions =>
    rw [hentries]
    split_ifs with hentry
    · subst hentry
      obtain rfl := Option.some.inj (hstored.symm.trans stored)
      generalize hadapter : e.adapterProgram = adapterProgram at hreports
      cases hreports with
      | @switched request paused entry'' e'' done ix named stored' =>
        obtain rfl := hroster.entry_unique hstored stored' hadapter
        -- to pause it once more changes nothing, and nobody lifts the pause
        cases paused with
        | true =>
          obtain ⟨adapterProgram, interfaceVersion, name, isActive, addedAt, bump⟩ := e
          obtain rfl : isActive = false := hoff
          rw [← hadapter]
          rfl
        | false => exact absurd ⟨done, ix, named⟩ hresumes
    · exact hstored
  | opened lets found vacant hentries hpositions => rw [hentries, hstored]
  | served about stored lets hentries hpositions => rw [hentries, hstored]

/-- From the moment an adapter is switched off until it is switched on again, whoever sends the
requests and whatever the programs called are, its entry stays off, no request routed to it
completes, and what the positions in it hold, without a delegate approved on it, does not
shrink. -/
theorem adapter_off_freezes {past later : List (Chain × Option Request)}
    (run : HostileRun curve Unfounded past w) (onward : HostileRun curve (· = w) later w')
    (hstored : w.state? AdapterEntry entry = some e) (hoff : e.isActive = false)
    (hstays : ∀ step ∈ later, ¬ Resumes curve entry step) :
    w'.state? AdapterEntry entry = some e ∧
    (∀ v request, (v, some request) ∈ later →
      routedAdapter request.ctx request.ix = some e.adapterProgram → ¬ request.Done curve v) ∧
    HoldsOn e.adapterProgram w w' := by
  obtain ⟨entries, hroster⟩ := roster_of_run run
  have hinvariant : (∃ entries, Roster curve w' entries) ∧
      w'.state? AdapterEntry entry = some e ∧
      (∀ v request, (v, some request) ∈ later →
        routedAdapter request.ctx request.ix = some e.adapterProgram → ¬ request.Done curve v) ∧
      HoldsOn e.adapterProgram w w' := by
    revert hstays
    refine onward.invariant (fun later w' => (∀ step ∈ later, ¬ Resumes curve entry step) →
      (∃ entries, Roster curve w' entries) ∧ w'.state? AdapterEntry entry = some e ∧
      (∀ v request, (v, some request) ∈ later →
        routedAdapter request.ctx request.ix = some e.adapterProgram → ¬ request.Done curve v) ∧
      HoldsOn e.adapterProgram w w') ?_ ?_
    · rintro _ rfl _
      exact ⟨⟨entries, hroster⟩, hstored, fun _ _ h => absurd h List.not_mem_nil, .refl _ _⟩
    · intro later w₁ label w₂ _ ih hstep hstays
      obtain ⟨⟨entries₁, hroster₁⟩, hstored₁, hrefused, hholds⟩ :=
        ih fun step hmem => hstays step (.tail _ hmem)
      obtain ⟨signed, henrolled⟩ := enrolled_of_step hstep
      obtain ⟨event, hreports, hannounced, -⟩ := announced_of_step hstep
      have hrefused₁ : ∀ request : Request,
          routedAdapter request.ctx request.ix = some e.adapterProgram →
            ¬ request.Done curve w₁ := fun _ => not_done_of_off hroster₁ hstored₁ hoff
      refine ⟨hroster₁.step henrolled, entry_of_reports hroster₁ hreports hannounced hstored₁ hoff
        (hstays _ (.head _)), fun v request hmem hrouted => ?_, hholds.trans ?_⟩
      · rcases List.mem_cons.mp hmem with hlast | hearlier
        · obtain ⟨rfl, -⟩ := Prod.mk.inj hlast
          exact hrefused₁ request hrouted
        · exact hrefused v request hearlier hrouted
      -- to name one of its positions is to be routed to the adapter
      · intro owner bump account t ht hauthority
        exact held_of_step hstep (derived_positionAddress _ _ _) (fun request _ hdone hnames =>
          hrefused₁ request (actsFor_of_names hdone hnames).2.2 hdone) ht hauthority
  obtain ⟨-, hentry, hrefused, hholds⟩ := hinvariant
  exact ⟨hentry, hrefused, hholds⟩

end Off

/-! ### The saver's adapter is paused -/

namespace Sample

def saverPauses : Request :=
  request [signer admin, readonly registryKey, writable (entryKey MarginfiUsdc.programId)]
    (.pauseAdapter true) (saver 0) (by decide)

def pausedSavings : Chain := saverPauses.apply curve fundedSavings

/-- The admin acts, the saver does not. -/
theorem idle_position_kept_paused :
    Unmoved .marginfiUsdc (positionKey MarginfiUsdc.programId) fundedSavings pausedSavings ∧
      saverPauses.Done curve fundedSavings := by
  have honward : SuiteRun curve layout (· = fundedSavings) [(fundedSavings, some saverPauses)]
      pausedSavings :=
    .step (.start rfl) (.request saverPauses (saver_overAdapters 0))
  have hidle : ∀ v request, (v, some request) ∈ [(fundedSavings, some saverPauses)] →
      request.Done curve v → ¬ request.ActsFor alice Adapter.marginfiUsdc.programId := by
    rintro v request hmem - hacts
    obtain ⟨-, hrequest⟩ := Prod.mk.inj (List.mem_singleton.mp hmem)
    obtain rfl := Option.some.inj hrequest
    exact absurd hacts.2.1 (by decide)
  exact ⟨idle_position_kept honward 255 hidle, by decide +kernel⟩

/-- The saver's withdrawal of 4 then fails. -/
theorem adapter_off_freezes_paused :
    ¬ (saverWithdraws 0 4).Done curve pausedSavings ∧
      (saverWithdraws 0 4).Done curve fundedSavings := by
  have hrun : HostileRun curve Unfounded
      ((fundedSavings, some saverPauses) :: fundedPast) pausedSavings :=
    ((fundedSavings_run.step (.request saverPauses (saver_overAdapters 0))).mono
      fun _ _ _ => hostile_of_step).mono_start fun _ h => h.1.unfounded
  have honward : HostileRun curve (· = pausedSavings)
      [(pausedSavings, some (saverWithdraws 0 4))]
      ((saverWithdraws 0 4).apply curve pausedSavings) :=
    .step (.start rfl) (.request (saverWithdraws 0 4) (saver_overAdapters 0).lawful)
  have hstored : pausedSavings.state? AdapterEntry (entryKey MarginfiUsdc.programId) = some
      { adapterProgram := MarginfiUsdc.programId, interfaceVersion := 1, name := "x"
        isActive := false, addedAt := 0, bump := 255 } := by decide +kernel
  refine ⟨(adapter_off_freezes hrun honward hstored rfl fun step hmem => ?_).2.1 _ _
    (List.mem_singleton.mpr rfl) rfl, by decide +kernel⟩
  obtain rfl := List.mem_singleton.mp hmem
  rintro ⟨-, hix, -⟩
  cases hix

end Sample

end YieldAdapter.Dispatcher

import Mathlib.Data.List.ReduceOption
import YieldAdapter.Accounting.Router
import YieldAdapter.Dispatcher.Roster
import YieldAdapter.Dispatcher.Shares

/-!
# The dispatcher's log

Every request that completes, except the one that founds the registry, announces
itself by one event. The events alone, whoever sent the requests and whatever the
programs called did in between, tell which adapters are listed and switched on, which
positions are open in them, and what the adapters booked: read as notices, they replay
to the router that the stored accounts make up.
-/

set_option autoImplicit false

namespace YieldAdapter.Dispatcher

open Solana Accounting

/-! ### Requests and their events -/

/-- What a step of a run announces, by what it was asked and by its accounts. -/
inductive Reports (curve : Curve) (w : Chain) : Option Request → Option Event → Prop
  | outside : Reports curve w none none
  | failed {request : Request} (failed : ¬ request.Done curve w) :
      Reports curve w (some request) none
  | founded {request : Request} (done : request.Done curve w)
      (ix : request.ix = .initializeRegistry) : Reports curve w (some request) none
  | listed {request : Request} {name : String} {interfaceVersion : UInt8} {adapterProgram : Pubkey}
      (done : request.Done curve w) (ix : request.ix = .whitelistAdapter name interfaceVersion)
      (named : request.ctx.accounts[3]?.map (·.key) = some adapterProgram) :
      Reports curve w (some request) (some (.adapterWhitelisted adapterProgram name
        interfaceVersion))
  | switched {request : Request} {paused : Bool} {entry : Pubkey} {e : AdapterEntry}
      (done : request.Done curve w) (ix : request.ix = .pauseAdapter paused)
      (named : request.ctx.accounts[2]?.map (·.key) = some entry)
      (stored : w.state? AdapterEntry entry = some e) :
      Reports curve w (some request) (some (.adapterPaused e.adapterProgram (!paused)))
  | opened {request : Request} {owner adapterProgram position : Pubkey}
      (done : request.Done curve w) (ix : request.ix = .openPosition)
      (signed : request.ctx.accounts[0]?.map (·.key) = some owner)
      (routed : routedAdapter request.ctx request.ix = some adapterProgram)
      (named : request.ctx.accounts[3]?.map (·.key) = some position) :
      Reports curve w (some request) (some (.positionOpened owner adapterProgram position))
  | deposited {request : Request} {position : Pubkey} {amount : UInt64} (shares : UInt64)
      (done : request.Done curve w) (ix : request.ix = .deposit amount)
      (named : request.ctx.accounts[3]?.map (·.key) = some position) :
      Reports curve w (some request) (some (.deposited position amount shares))
  | withdrawn {request : Request} {position : Pubkey} {shares : UInt64} (amountOut : UInt64)
      (done : request.Done curve w) (ix : request.ix = .withdraw shares)
      (named : request.ctx.accounts[3]?.map (·.key) = some position) :
      Reports curve w (some request) (some (.withdrawn position shares amountOut))
  | valued {request : Request} {position : Pubkey} (value : UInt64)
      (done : request.Done curve w) (ix : request.ix = .currentValue)
      (named : request.ctx.accounts[2]?.map (·.key) = some position) :
      Reports curve w (some request) (some (.valueRead position value))

/-! ### Events as notices -/

/-- What an event of the dispatcher's announces. -/
def notice? : Event → Option (Notice Pubkey Pubkey Pubkey)
  | .adapterWhitelisted adapterProgram _ _ => some (.listed adapterProgram)
  | .adapterPaused adapterProgram isActive => some (.switched adapterProgram isActive)
  | .positionOpened owner adapterProgram position => some (.opened position owner adapterProgram)
  | .deposited position _ shares => some (.served position (.mint shares.toNat))
  | .withdrawn position shares _ => some (.served position (.burn shares.toNat))
  | .valueRead position _ => some (.served position .none)
  | .adapterDeposit .. | .adapterWithdraw .. | .adapterValue .. => none

/-- What the dispatcher has announced, newest first. -/
def notices (w : Chain) : List (Notice Pubkey Pubkey Pubkey) :=
  (w.emittedBy dispatcherId).filterMap notice?

/-- The switch in the whitelist entry of an adapter. -/
def switch (curve : Curve) (w : Chain) (adapterProgram : Pubkey) : Option Bool :=
  (findProgramAddress curve dispatcherId (entrySeeds adapterProgram)).bind fun found =>
    (w.state? AdapterEntry found.1).map (·.isActive)

/-- The owner and the adapter of a stored position. -/
def route (w : Chain) (position : Pubkey) : Option (Pubkey × Pubkey) :=
  (w.state? Position position).map fun p => (p.owner, p.adapterProgram)

/-! ### What one step announces and stores -/

/-- The entry of an adapter is stored and lets calls through to it. -/
def LetsThrough (curve : Curve) (w : Chain) (adapterProgram : Pubkey) : Prop :=
  ∃ entry e, w.state? AdapterEntry entry = some e ∧ e.isActive = true ∧
    createProgramAddress curve dispatcherId (entrySeeds adapterProgram) e.bump = some entry

/-- How the entries and the positions change along with the event of a step. -/
inductive Announced (curve : Curve) (w w' : Chain) : Option Event → Prop
  | silent (entries : ∀ key, w'.state? AdapterEntry key = w.state? AdapterEntry key)
      (positions : ∀ key, w'.state? Position key = w.state? Position key) :
      Announced curve w w' none
  | listed {entry : Pubkey} {e : AdapterEntry}
      (found : findProgramAddress curve dispatcherId (entrySeeds e.adapterProgram) =
        some (entry, e.bump))
      (vacant : w.state? AdapterEntry entry = none) (active : e.isActive = true)
      (entries : ∀ key, w'.state? AdapterEntry key =
        if key = entry then some e else w.state? AdapterEntry key)
      (positions : ∀ key, w'.state? Position key = w.state? Position key) :
      Announced curve w w' (some (.adapterWhitelisted e.adapterProgram e.name e.interfaceVersion))
  | switched {entry : Pubkey} {e : AdapterEntry} (isActive : Bool)
      (stored : w.state? AdapterEntry entry = some e)
      (entries : ∀ key, w'.state? AdapterEntry key =
        if key = entry then some { e with isActive } else w.state? AdapterEntry key)
      (positions : ∀ key, w'.state? Position key = w.state? Position key) :
      Announced curve w w' (some (.adapterPaused e.adapterProgram isActive))
  | opened {position : Pubkey} {p : Position} (lets : LetsThrough curve w p.adapterProgram)
      (found : findProgramAddress curve dispatcherId (positionSeeds p.owner p.adapterProgram) =
        some (position, p.bump))
      (vacant : w.state? Position position = none)
      (entries : ∀ key, w'.state? AdapterEntry key = w.state? AdapterEntry key)
      (positions : ∀ key, w'.state? Position key =
        if key = position then some p else w.state? Position key) :
      Announced curve w w' (some (.positionOpened p.owner p.adapterProgram position))
  | served {event : Event} {position : Pubkey} {p : Position} {posting : Posting}
      (about : notice? event = some (.served position posting))
      (stored : w.state? Position position = some p)
      (lets : LetsThrough curve w p.adapterProgram)
      (entries : ∀ key, w'.state? AdapterEntry key = w.state? AdapterEntry key)
      (positions : ∀ key, w'.state? Position key = w.state? Position key) :
      Announced curve w w' (some event)

section Steps

variable {curve : Curve} {w w' : Chain} {exec : Callee ProgramState Event} {ctx : Context}

/-- Where the typed accounts agree, so do the entries and the positions. -/
private theorem views_of_typed (h : ∀ key, w'.typed? dispatcherId key = w.typed? dispatcherId key) :
    (∀ key, w'.state? AdapterEntry key = w.state? AdapterEntry key) ∧
      ∀ key, w'.state? Position key = w.state? Position key :=
  ⟨fun key => World.state?_congr_typed? (h key), fun key => World.state?_congr_typed? (h key)⟩

/-- What is read at a type of the dispatcher's after one account was written. -/
private theorem state?_of_typed {τ : Type} [AnchorState ProgramState τ]
    (hτ : AnchorState.programId ProgramState τ = dispatcherId) {key : Pubkey} {s : ProgramState}
    (h : ∀ k, w'.typed? dispatcherId k = if k = key then some s else w.typed? dispatcherId k)
    (k : Pubkey) :
    w'.state? τ k = if k = key then AnchorState.decode s else w.state? τ k := by
  rw [World.state?_eq_bind, World.state?_eq_bind, hτ, h]
  split_ifs <;> rfl

/-- Writing an account of another type changes nothing at this one. -/
private theorem state?_of_other {τ : Type} [AnchorState ProgramState τ]
    (hτ : AnchorState.programId ProgramState τ = dispatcherId) {key : Pubkey} {s : ProgramState}
    (h : ∀ k, w'.typed? dispatcherId k = if k = key then some s else w.typed? dispatcherId k)
    (hnew : AnchorState.decode (τ := τ) s = none) (hold : w.state? τ key = none) (k : Pubkey) :
    w'.state? τ k = w.state? τ k := by
  rw [state?_of_typed hτ h]
  split_ifs with hk
  · rw [hk, hnew, hold]
  · rfl

private theorem state?_of_vacant {τ : Type} [AnchorState ProgramState τ] {key : Pubkey}
    (h : w.accounts key = none) : w.state? τ key = none := by
  rw [World.state?_eq_bind, World.typed?_of_vacant h]
  rfl

/-- An account of one type is not of another. -/
private theorem state?_of_stored {τ τ' : Type} [AnchorState ProgramState τ]
    [AnchorState ProgramState τ'] {key : Pubkey} {s : τ} (h : w.state? τ key = some s)
    (hsame : AnchorState.programId ProgramState τ' = AnchorState.programId ProgramState τ)
    (hother : AnchorState.decode (τ := τ') (AnchorState.encode s : ProgramState) = none) :
    w.state? τ' key = none := by
  rw [World.state?_eq_bind, hsame, World.state?_eq_some_iff_typed?.mp h]
  exact hother

theorem Gate.letsThrough {adapterEntry : Loaded AdapterEntry} {adapterProgram : AccountInfo}
    (h : Gate curve ctx w adapterEntry adapterProgram) (hprogram : ctx.programId = dispatcherId) :
    LetsThrough curve w adapterProgram.key := by
  have hseeds := h.seeds
  rw [hprogram] at hseeds
  exact ⟨_, _, h.stored, h.active, hseeds⟩

/-- The account written last, over a world with the typed accounts of `w`. -/
private theorem typed?_of_closing {τ : Type} [AnchorState ProgramState τ]
    (hprogram : ctx.programId = dispatcherId)
    (h : ∀ k, w'.typed? dispatcherId k = w.typed? dispatcherId k) (key : Pubkey) (state : τ)
    (k : Pubkey) :
    (written ctx key state w').typed? dispatcherId k =
      if k = key then some (AnchorState.encode state) else w.typed? dispatcherId k := by
  rw [typed?_written hprogram, h]

private theorem emittedBy_written {τ : Type} [AnchorState ProgramState τ] {key : Pubkey}
    {state : τ} : (written ctx key state w).emittedBy dispatcherId = w.emittedBy dispatcherId := rfl

private theorem emittedBy_announced {event : Event} (hprogram : ctx.programId = dispatcherId) :
    (announced ctx event w).emittedBy dispatcherId = event :: w.emittedBy dispatcherId := by
  simp [announced, World.emittedBy, hprogram]

/-- What a request announces, and what it does along with it. -/
theorem announced_of_request {request : Request} (hexec : Lawful (· = dispatcherId) request.exec) :
    ∃ event, Reports curve w (some request) event ∧
      Announced curve w (request.apply curve w) event ∧
      (request.apply curve w).emittedBy dispatcherId =
        event.toList ++ w.emittedBy dispatcherId := by
  rcases request.apply_cases curve w with ⟨⟨e, w₁, hrun⟩, hunchanged⟩ | ⟨hrun, hcompleted⟩
  · rw [hunchanged]
    refine ⟨none, .failed ?_, .silent (fun _ => rfl) fun _ => rfl, rfl⟩
    simp [Request.Done, hrun]
  have hdone : request.Done curve w := congrArg Prod.fst hrun
  have hprogram := request.program
  generalize request.apply curve w = w' at hcompleted
  generalize hix : request.ix = ix at hcompleted
  cases hcompleted with
  | @initializeRegistry accounts bump w₁ loaded created owned =>
    have hframed : Framed (· = dispatcherId) (fun _ => False) w.fresh w₁ :=
      initState_leaves.of_ok created
    have hvacant := (initState_ok created).2.1
    have hafter := typed?_of_closing (w := w.fresh) hprogram (typed?_of_initState created)
      accounts.registry.key ({ admin := accounts.admin.key, adapterCount := 0, bump } : Registry)
    refine ⟨none, .founded hdone hix, .silent ?_ ?_, hframed.emittedBy_eq rfl⟩
    · exact state?_of_other rfl hafter rfl (state?_of_vacant hvacant)
    · exact state?_of_other rfl hafter rfl (state?_of_vacant hvacant)
  | @whitelistAdapter name interfaceVersion bump adapterCount addedAt accounts w₁ loaded passed
      created short version room counted ownedRegistry ownedEntry =>
    obtain ⟨found, vacant, -⟩ := initState_ok created
    obtain ⟨⟨_, hslots⟩, -, hregistry⟩ := WhitelistAdapter.load_ok loaded
    rw [hprogram] at found
    have hframed : Framed (· = dispatcherId) (fun _ => False) w.fresh w₁ :=
      initState_leaves.of_ok created
    -- the registry is written first, then the entry
    have hcounted := typed?_of_closing (w := w.fresh) hprogram (typed?_of_initState created)
      accounts.registry.key { accounts.registry.data with adapterCount }
    have hregistry' : w.state? Registry accounts.registry.key = some accounts.registry.data :=
      hregistry
    have hentries := state?_of_other (τ := AdapterEntry) rfl hcounted rfl
      (state?_of_stored hregistry' rfl rfl)
    have hpositions := state?_of_other (τ := Position) rfl hcounted rfl
      (state?_of_stored hregistry' rfl rfl)
    have hlisted := fun w₂ : Chain => typed?_of_closing hprogram
      (fun k => Eq.refl (w₂.typed? dispatcherId k)) accounts.adapterEntry.key
      ({ adapterProgram := accounts.adapterProgram.key, interfaceVersion, name
         isActive := true, addedAt, bump } : AdapterEntry)
    refine ⟨_, .listed hdone hix (by rw [hslots]; rfl), .listed (e :=
      { adapterProgram := accounts.adapterProgram.key, interfaceVersion, name
        isActive := true, addedAt, bump }) found (state?_of_vacant vacant) rfl
      (fun k => ?_) (fun k => ?_), ?_⟩
    · refine (state?_of_typed rfl (hlisted _) k).trans ?_
      congr 1
      exact hentries k
    · refine (state?_of_other rfl (hlisted _) rfl ?_ k).trans (hpositions k)
      exact (hpositions _).trans (state?_of_vacant vacant)
    · rw [emittedBy_written, emittedBy_written, emittedBy_announced hprogram,
        hframed.emittedBy_eq rfl]
      rfl
  | @pauseAdapter paused accounts loaded passed owned =>
    obtain ⟨⟨_, hslots⟩, -, -, hentry⟩ := PauseAdapter.load_ok loaded
    have hentry : w.state? AdapterEntry accounts.adapterEntry.key =
      some accounts.adapterEntry.data := hentry
    have hafter := typed?_of_closing hprogram (fun k => Eq.refl (w.typed? dispatcherId k))
      accounts.adapterEntry.key { accounts.adapterEntry.data with isActive := !paused }
    refine ⟨_, .switched hdone hix (by rw [hslots]; rfl) hentry,
      .switched (!paused) hentry (state?_of_typed rfl hafter)
        (state?_of_other rfl hafter rfl (state?_of_stored hentry rfl rfl)), ?_⟩
    rw [emittedBy_written, emittedBy_announced hprogram]
    rfl
  | @openPosition accounts bump createdAt w₁ w₂ w₃ loaded gate version created pooled routed
      owned =>
    obtain ⟨_, _, hslots⟩ := loaded.slots
    obtain ⟨found, vacant, -⟩ := initState_ok created
    rw [hprogram] at found
    let event : Event := .positionOpened accounts.owner.key accounts.adapterProgram.key
      accounts.position.key
    let p : Position :=
      { owner := accounts.owner.key
        adapterProgram := accounts.adapterProgram.key
        usdcPool := accounts.positionUsdcPool.key
        usdcMint := accounts.usdcMint.key
        createdAt, bump }
    have hafter : ∀ key, (written request.ctx accounts.position.key p
        (announced request.ctx event w₃)).typed? dispatcherId key =
          if key = accounts.position.key then some (.position p) else
            w.typed? dispatcherId key :=
      typed?_of_opening (w := w.fresh) hprogram hexec created pooled routed
    have hcreated : Framed (· = dispatcherId) (fun _ => False) w.fresh w₁ :=
      initState_leaves.of_ok created
    have hpooled : Framed (· = dispatcherId) (fun _ => False) w₁ w₂ :=
      initAssociatedToken_leaves.of_ok pooled
    have hvacant := state?_of_vacant (w := w) vacant (τ := AdapterEntry)
    refine ⟨_, .opened hdone hix (by rw [hslots]; rfl) (by rw [hix, loaded.routed])
      (by rw [hslots]; rfl), .opened (p := p) (gate.letsThrough hprogram) found
        (state?_of_vacant vacant) (state?_of_other rfl hafter rfl hvacant)
        (state?_of_typed rfl hafter), ?_⟩
    rw [emittedBy_written, emittedBy_announced hprogram,
      (invokeSigned_framed hexec routed).emittedBy_eq rfl, hpooled.emittedBy_eq rfl,
      hcreated.emittedBy_eq rfl]
    rfl
  | @deposit amount shares accounts w₁ w₂ accepted positive version funded routed returned owned =>
    obtain ⟨_, hslots⟩ := accepted.slots
    have hafter : ∀ key, (written request.ctx accounts.position.key accounts.position.data
        (announced request.ctx (.deposited accounts.position.key amount shares) w₂)).typed?
          dispatcherId key = w.typed? dispatcherId key :=
      typed?_of_deposit (w := w.fresh) hprogram hexec accepted funded routed
    obtain ⟨hentries, hpositions⟩ := views_of_typed hafter
    refine ⟨_, .deposited shares hdone hix (by rw [hslots]; rfl),
      .served rfl accepted.position ?_ hentries hpositions, ?_⟩
    · rw [← accepted.program]
      exact accepted.gate.letsThrough hprogram
    · rw [emittedBy_written, emittedBy_announced hprogram,
        (invokeSigned_framed hexec routed).emittedBy_eq rfl,
        (invokeSigned_framed hexec funded).emittedBy_eq rfl]
      rfl
  | @withdraw shares amountOut accounts w₁ w₂ accepted positive version routed returned paid
      owned =>
    obtain ⟨_, hslots⟩ := accepted.slots
    have hafter : ∀ key, (written request.ctx accounts.position.key accounts.position.data
        (announced request.ctx (.withdrawn accounts.position.key shares amountOut) w₂)).typed?
          dispatcherId key = w.typed? dispatcherId key :=
      typed?_of_withdraw (w := w.fresh) hprogram hexec accepted routed paid
    obtain ⟨hentries, hpositions⟩ := views_of_typed hafter
    refine ⟨_, .withdrawn amountOut hdone hix (by rw [hslots]; rfl),
      .served rfl accepted.position ?_ hentries hpositions, ?_⟩
    · rw [← accepted.program]
      exact accepted.gate.letsThrough hprogram
    · rw [emittedBy_written, emittedBy_announced hprogram,
        (payOut_framed hexec paid).emittedBy_eq rfl,
        (invokeSigned_framed hexec routed).emittedBy_eq rfl]
      rfl
  | @currentValue value accounts w₁ accepted version routed returned =>
    have hframed := invokeSigned_framed hexec routed
    obtain ⟨hentries, hpositions⟩ := views_of_typed (w := w) fun key => hframed.typed?_eq rfl key
    refine ⟨_, .valued value hdone hix (by rw [accepted.slots]; rfl),
      .served rfl accepted.position ?_ hentries hpositions, ?_⟩
    · rw [← accepted.program]
      exact accepted.gate.letsThrough hprogram
    · rw [emittedBy_announced hprogram]
      exact congrArg _ (hframed.emittedBy_eq rfl)

/-- So for any step of a run. -/
theorem announced_of_step {label : Option Request}
    (h : Step curve (Lawful (· = dispatcherId)) (· = dispatcherId) w label w') :
    ∃ event, Reports curve w label event ∧ Announced curve w w' event ∧
      w'.emittedBy dispatcherId = event.toList ++ w.emittedBy dispatcherId := by
  cases h with
  | request request hexec => exact announced_of_request hexec
  | outside hframed =>
    exact ⟨none, .outside, .silent (hframed.state?_eq rfl) (hframed.state?_eq rfl),
      hframed.emittedBy_eq rfl⟩

/-- A step over the adapters is one in which the programs called may do anything. -/
theorem hostile_of_step {layout : Layout ProgramState} {label : Option Request}
    (h : Step curve (OverAdapters curve layout) Suite w label w') :
    Step curve (Lawful (· = dispatcherId)) (· = dispatcherId) w label w' := by
  cases h with
  | request request hexec =>
    obtain ⟨protocol, hprotocol, hexec⟩ := hexec
    exact .request request (hexec ▸ Adapter.callee_lawful hprotocol)
  | outside hframed => exact .outside (hframed.mono (fun _ => .inl) fun _ => id)

/-- Every completed request but the founding one leaves exactly one event, of its own kind
and with its own arguments, in the order the requests completed; nothing else does. -/
theorem log_of_run {past : List (Chain × Option Request)}
    (run : HostileRun curve (· = w) past w') :
    ∃ events, List.Forall₂ (fun step event => Reports curve step.1 step.2 event) past events ∧
      w'.emittedBy dispatcherId = events.reduceOption ++ w.emittedBy dispatcherId := by
  refine run.invariant (fun past w' => ∃ events,
    List.Forall₂ (fun step event => Reports curve step.1 step.2 event) past events ∧
      w'.emittedBy dispatcherId = events.reduceOption ++ w.emittedBy dispatcherId) ?_ ?_
  · rintro _ rfl
    exact ⟨[], .nil, rfl⟩
  · rintro past w₁ label w₂ - ⟨events, hreports, hemitted⟩ hstep
    obtain ⟨event, hreport, -, hevent⟩ := announced_of_step hstep
    refine ⟨event :: events, .cons hreport hreports, ?_⟩
    rw [hevent, hemitted]
    cases event <;> rfl

end Steps

/-! ### The log and the stored accounts -/

/-- The log is that of a router with the switches and the positions that are stored. -/
structure Tracks (rule : Pubkey → Rule) (curve : Curve) (w : Chain) : Prop where
  legal : Router.Legal rule (notices w)
  active : (Router.read rule (notices w)).active = switch curve w
  routed : (Router.read rule (notices w)).routed = route w

/-- Every position stands at the address of its owner and adapter. -/
def Placed (curve : Curve) (w : Chain) : Prop :=
  ∀ key p, w.state? Position key = some p →
    findProgramAddress curve dispatcherId (positionSeeds p.owner p.adapterProgram) =
      some (key, p.bump)

section Tracks

variable {curve : Curve} {w w' : Chain} {entries : List Pubkey} {event : Option Event}
variable {rule : Pubkey → Rule}

theorem entrySeeds_inj {adapterProgram adapterProgram' : Pubkey}
    (h : entrySeeds adapterProgram = entrySeeds adapterProgram') :
    adapterProgram = adapterProgram' := by
  simpa [entrySeeds] using h

/-- An adapter that is let through is switched on at the address of its own entry. -/
theorem LetsThrough.switch_eq {adapterProgram : Pubkey} (h : LetsThrough curve w adapterProgram)
    (hroster : Roster curve w entries) : switch curve w adapterProgram = some true := by
  obtain ⟨entry, e, hstored, hactive, hseeds⟩ := h
  have hfound := (hroster.entered entry e (World.state?_eq_some_iff_typed?.mp hstored)).found
  obtain ⟨-, hsame, -⟩ := createProgramAddress_inj hseeds (findProgramAddress_create hfound)
  rw [entrySeeds_inj hsame]
  simp [switch, hfound, hstored, hactive]

/-- Writing the entry of one adapter moves the switch of that adapter. -/
theorem switch_of_entries {adapterProgram entry : Pubkey} {bump : UInt8} {e : AdapterEntry}
    (hfound : findProgramAddress curve dispatcherId (entrySeeds adapterProgram) =
      some (entry, bump))
    (h : ∀ key, w'.state? AdapterEntry key =
      if key = entry then some e else w.state? AdapterEntry key) :
    switch curve w' = Function.update (switch curve w) adapterProgram (some e.isActive) := by
  funext other
  by_cases hother : other = adapterProgram
  · subst hother
    simp [switch, hfound, h]
  · rw [Function.update_of_ne hother]
    unfold switch
    cases hkey : findProgramAddress curve dispatcherId (entrySeeds other) with
    | none => rfl
    | some found =>
      have hne : found.1 ≠ entry := by
        intro hsame
        have hpda := findProgramAddress_eq_pda hkey
        rw [hsame, findProgramAddress_eq_pda hfound] at hpda
        injection hpda with _ hseeds
        exact hother (entrySeeds_inj hseeds).symm
      simp [h, hne]

theorem switch_congr (h : ∀ key, w'.state? AdapterEntry key = w.state? AdapterEntry key) :
    switch curve w' = switch curve w := by
  funext adapterProgram
  simp only [switch, h]

theorem route_congr (h : ∀ key, w'.state? Position key = w.state? Position key) :
    route w' = route w := by
  funext position
  simp only [route, h]

/-- Opening a position routes it. -/
theorem route_of_positions {position : Pubkey} {p : Position}
    (h : ∀ key, w'.state? Position key = if key = position then some p else w.state? Position key) :
    route w' = Function.update (route w) position (some (p.owner, p.adapterProgram)) := by
  funext key
  simp only [route, h, Function.update_apply]
  split_ifs <;> rfl

theorem notices_cons {event : Event} {notice : Notice Pubkey Pubkey Pubkey}
    (hnotice : notice? event = some notice)
    (hemitted : w'.emittedBy dispatcherId = event :: w.emittedBy dispatcherId) :
    notices w' = notice :: notices w := by
  unfold notices
  rw [hemitted, List.filterMap_cons_some hnotice]

/-- A step keeps the log the log of the router, if it covers the burn it announces. -/
theorem Tracks.step (h : Tracks rule curve w) (hroster : Roster curve w entries)
    (hannounced : Announced curve w w' event)
    (hemitted : w'.emittedBy dispatcherId = event.toList ++ w.emittedBy dispatcherId)
    (hcovers : ∀ position posting, event.bind notice? = some (.served position posting) →
      ∀ opening ∈ route w position, rule opening.2 = .exact →
        ((Router.read rule (notices w)).ledger position).Covers posting) :
    Tracks rule curve w' := by
  have hlegal := h.legal
  have hactive := h.active
  have hrouted := h.routed
  cases hannounced with
  | silent hentries hpositions =>
    have hsame : notices w' = notices w := congrArg (List.filterMap notice?) hemitted
    refine ⟨?_, ?_, ?_⟩
    · rwa [hsame]
    · rw [hsame, switch_congr hentries, hactive]
    · rw [hsame, route_congr hpositions, hrouted]
  | @listed entry e found vacant active hentries hpositions =>
    have hlog := notices_cons rfl hemitted
    have hunlisted : switch curve w e.adapterProgram = none := by simp [switch, found, vacant]
    refine ⟨?_, ?_, ?_⟩
    · rw [hlog, Router.legal_cons]
      exact ⟨hlegal, by simp only [Router.Due, hactive, hunlisted]⟩
    · rw [hlog, switch_of_entries found hentries, active, ← hactive]
      rfl
    · rw [hlog, route_congr hpositions, ← hrouted]
      rfl
  | @switched entry e isActive stored hentries hpositions =>
    have hlog := notices_cons rfl hemitted
    have hfound := (hroster.entered entry e (World.state?_eq_some_iff_typed?.mp stored)).found
    have hlisted : switch curve w e.adapterProgram = some e.isActive := by
      simp [switch, hfound, stored]
    refine ⟨?_, ?_, ?_⟩
    · rw [hlog, Router.legal_cons]
      exact ⟨hlegal, by simp only [Router.Due, hactive, hlisted, Option.isSome_some]⟩
    · rw [hlog, switch_of_entries hfound hentries, ← hactive]
      rfl
    · rw [hlog, route_congr hpositions, ← hrouted]
      rfl
  | @opened position p lets found vacant hentries hpositions =>
    have hlog := notices_cons rfl hemitted
    have hunrouted : route w position = none := by simp [route, vacant]
    refine ⟨?_, ?_, ?_⟩
    · rw [hlog, Router.legal_cons]
      refine ⟨hlegal, ?_⟩
      simp only [Router.Due, hactive, hrouted, hunrouted, lets.switch_eq hroster, and_self]
    · rw [hlog, switch_congr hentries, ← hactive]
      rfl
    · rw [hlog, route_of_positions hpositions, ← hrouted]
      rfl
  | @served event position p posting about stored lets hentries hpositions =>
    have hlog := notices_cons about hemitted
    have hopen : route w position = some (p.owner, p.adapterProgram) := by simp [route, stored]
    refine ⟨?_, ?_, ?_⟩
    · rw [hlog, Router.legal_cons]
      refine ⟨hlegal, (p.owner, p.adapterProgram), ?_, ?_, ?_⟩
      · rw [hrouted, hopen]
        rfl
      · rw [hactive]
        exact lets.switch_eq hroster
      · exact hcovers position posting about _ hopen
    · rw [hlog, switch_congr hentries, ← hactive, Router.read_cons, Router.next_served_active]
    · rw [hlog, route_congr hpositions, ← hrouted, Router.read_cons, Router.next_served_routed]

theorem Unused.unfounded (h : Unused w) : Unfounded w := by
  intro key
  rw [h key]
  simp

theorem Unused.state?_eq_none {τ : Type} [AnchorState ProgramState τ] (h : Unused w)
    (hτ : AnchorState.programId ProgramState τ = dispatcherId) (key : Pubkey) :
    w.state? τ key = none := by
  rw [World.state?_eq_bind, hτ, h key]
  rfl

/-- An unused chain has the accounts that an empty log tells of. -/
theorem Unused.tracks (h : Unused w) (hsilent : w.emittedBy dispatcherId = []) :
    Tracks rule curve w := by
  have hempty : notices w = [] := by simp [notices, hsilent]
  have hentries := h.state?_eq_none (τ := AdapterEntry) rfl
  have hpositions := h.state?_eq_none (τ := Position) rfl
  refine ⟨?_, ?_, ?_⟩
  · rw [hempty]
    exact Router.legal_nil
  · rw [hempty]
    funext adapterProgram
    simp [switch, Router.empty, hentries]
  · rw [hempty]
    funext position
    simp [route, Router.empty, hpositions]

theorem Unused.placed (h : Unused w) : Placed curve w := by
  intro key p hstored
  rw [h.state?_eq_none rfl] at hstored
  cases hstored

/-- Positions stay where they were opened. -/
theorem Placed.step (h : Placed curve w) (hannounced : Announced curve w w' event) :
    Placed curve w' := by
  intro key p hstored
  cases hannounced with
  | silent hentries hpositions => exact h key p (hpositions key ▸ hstored)
  | listed found vacant active hentries hpositions => exact h key p (hpositions key ▸ hstored)
  | switched isActive stored hentries hpositions => exact h key p (hpositions key ▸ hstored)
  | opened lets found vacant hentries hpositions =>
    rw [hpositions] at hstored
    split_ifs at hstored with hkey
    · obtain rfl := Option.some.inj hstored
      rw [hkey]
      exact found
    · exact h key p hstored
  | served about stored lets hentries hpositions => exact h key p (hpositions key ▸ hstored)

theorem placed_of_run {past : List (Chain × Option Request)}
    (run : HostileRun curve Unused past w) : Placed curve w := by
  refine run.invariant (fun _ w => Placed curve w) (fun _ hunused => hunused.placed) ?_
  rintro past w₁ label w₂ - hplaced hstep
  obtain ⟨event, -, hannounced, -⟩ := announced_of_step hstep
  exact hplaced.step hannounced

theorem tracks_of_run {past : List (Chain × Option Request)}
    (run : HostileRun curve (fun w => Unused w ∧ w.emittedBy dispatcherId = []) past w) :
    Tracks (fun _ => .unbooked) curve w := by
  have hinvariant : (∃ entries, Roster curve w entries) ∧ Tracks (fun _ => .unbooked) curve w := by
    refine run.invariant (fun _ w => (∃ entries, Roster curve w entries) ∧
      Tracks (fun _ => .unbooked) curve w) ?_ ?_
    · rintro w₀ ⟨hunused, hsilent⟩
      exact ⟨⟨[], hunused.unfounded.roster⟩, hunused.tracks hsilent⟩
    · rintro past w₁ label w₂ - ⟨⟨entries, hroster⟩, htracks⟩ hstep
      obtain ⟨signed, henrolled⟩ := enrolled_of_step hstep
      obtain ⟨event, -, hannounced, hemitted⟩ := announced_of_step hstep
      refine ⟨hroster.step henrolled, ?_⟩
      exact htracks.step hroster hannounced hemitted fun _ _ _ _ _ h => nomatch h
  exact hinvariant.2

/-- Whoever sends the requests and whatever the adapters are, the events are the log of a
router: an adapter is listed once and switched only from then on, and a position is opened
once, and opened and used only while its adapter is switched on. What is listed, switched on
and open is what they say. -/
theorem log_tells_accounts {past : List (Chain × Option Request)}
    (run : HostileRun curve (fun w => Unused w ∧ w.emittedBy dispatcherId = []) past w) :
    Router.Legal (fun _ => .unbooked) (notices w) ∧
    (∀ adapterProgram, switch curve w adapterProgram =
      (notices w).findSome? (·.switch? adapterProgram)) ∧
    (∀ adapterProgram, (switch curve w adapterProgram).isSome = true ↔
      .listed adapterProgram ∈ notices w) ∧
    (∀ position owner adapterProgram, route w position = some (owner, adapterProgram) ↔
      .opened position owner adapterProgram ∈ notices w) ∧
    ∀ later position owner adapterProgram earlier,
      notices w = later ++ .opened position owner adapterProgram :: earlier →
        ∀ owner' adapterProgram', .opened position owner' adapterProgram' ∉ later ++ earlier := by
  obtain ⟨hlegal, hactive, hrouted⟩ := tracks_of_run run
  refine ⟨hlegal, fun adapterProgram => ?_, fun adapterProgram => ?_,
    fun position owner adapterProgram => ?_,
    fun later position owner adapterProgram earlier hlog => ?_⟩
  · rw [← hactive]
    exact Router.read_active (notices w) adapterProgram
  · rw [← hactive]
    exact hlegal.listed_iff
  · rw [← hrouted]
    exact hlegal.routed_iff
  · rw [hlog] at hlegal
    exact hlegal.opened_once

end Tracks

/-! ### The log and the ledgers -/

/-- How the shares of an adapter's positions are booked: MarginFi caps a burn at what is
booked, the others refuse it, and what other programs book is not known. -/
def bookingRule (adapterProgram : Pubkey) : Rule :=
  match Adapter.ofProgramId adapterProgram with
  | none => .unbooked
  | some .marginfiUsdc => .capped
  | some _ => .exact

/-- The ledger of a stored position, with the dispatcher's record of it. -/
def ledgerOf (curve : Curve) (w : Chain) (position : Pubkey) : ShareLedger :=
  match (route w position).bind fun opening => Adapter.ofProgramId opening.2 with
  | some adapter => ledger curve adapter position dispatcherId w
  | none => .empty

/-- The router that the stored accounts make up. -/
def routerOf (curve : Curve) (w : Chain) : Router Pubkey Pubkey Pubkey where
  active := switch curve w
  routed := route w
  ledger := ledgerOf curve w

/-- What the dispatcher announced about a position. -/
def postings (position : Pubkey) (w : Chain) : List Posting :=
  (notices w).filterMap (·.posting? position)

/-- What was minted and burned for a position, without the readings of its value. -/
def movements (position : Pubkey) (w : Chain) : List Posting :=
  (postings position w).filter (· ≠ .none)

/-- The adapters' ledgers are what the postings to each position leave. -/
def Posts (curve : Curve) (w : Chain) : Prop :=
  ∀ (adapter : Adapter) owner bump,
    ledger curve adapter (positionAddress owner adapter.programId bump) dispatcherId w =
      (bookingRule adapter.programId).replay
        (postings (positionAddress owner adapter.programId bump) w)

section Ledgers

variable {curve : Curve} {layout : Layout ProgramState} {w w' : Chain} {event : Option Event}
variable {past : List (Chain × Option Request)} {adapter : Adapter} {owner : Pubkey} {bump : UInt8}

theorem book_bookingRule (adapter : Adapter) (l : ShareLedger) (posting : Posting) :
    (bookingRule adapter.programId).book l posting = l.post posting := by
  unfold bookingRule
  rw [Adapter.ofProgramId_programId]
  cases adapter <;> rfl

theorem bookingRule_eq_exact :
    bookingRule adapter.programId = .exact ↔ adapter ≠ .marginfiUsdc := by
  unfold bookingRule
  rw [Adapter.ofProgramId_programId]
  cases adapter <;> simp

/-- What an event posts to a position, if it is about it. -/
def eventPosting? (position : Pubkey) (event : Option Event) : Option Posting :=
  (event.bind notice?).bind (·.posting? position)

/-- What it posts there, nothing if it is about another. -/
def eventPosting (position : Pubkey) (event : Option Event) : Posting :=
  (eventPosting? position event).getD .none

/-- The postings to a position grow by that of the event. -/
theorem postings_of_event
    (hemitted : w'.emittedBy dispatcherId = event.toList ++ w.emittedBy dispatcherId)
    (position : Pubkey) :
    postings position w' = (eventPosting? position event).toList ++ postings position w := by
  unfold postings notices eventPosting?
  rw [hemitted]
  cases event with
  | none => rfl
  | some event =>
    rw [Option.toList_some, List.singleton_append, List.filterMap_cons, Option.bind_some]
    cases hnotice : notice? event with
    | none => rfl
    | some notice =>
      dsimp only
      rw [List.filterMap_cons, Option.bind_some]
      cases notice.posting? position <;> rfl

theorem Announced.notice {event : Event} (h : Announced curve w w' (some event)) :
    ∃ notice, notice? event = some notice := by
  cases h with
  | listed | switched | opened => exact ⟨_, rfl⟩
  | served about => exact ⟨_, about⟩

/-- The events count in the totals what they post. -/
theorem totals_of_event (hannounced : Announced curve w w' event) (position : Pubkey)
    (l : ShareLedger) :
    (l.post (eventPosting position event)).minted = minted position event.toList + l.minted ∧
      (l.post (eventPosting position event)).burned = burned position event.toList + l.burned := by
  cases event with
  | none => simp [eventPosting, eventPosting?, minted, burned]
  | some event =>
    obtain ⟨notice, hnotice⟩ := hannounced.notice
    cases event with
    | adapterWhitelisted | adapterPaused | positionOpened =>
      simp [eventPosting, eventPosting?, notice?, Notice.posting?, minted, burned, sharesMinted,
        sharesBurned]
    | deposited p amount shares | withdrawn p shares amount | valueRead p value =>
      by_cases hp : p = position
      · simp [eventPosting, eventPosting?, notice?, Notice.posting?, minted, burned, sharesMinted,
          sharesBurned, hp, ShareLedger.post, Nat.add_comm]
      · simp [eventPosting, eventPosting?, notice?, Notice.posting?, minted, burned, sharesMinted,
          sharesBurned, hp]
    | adapterDeposit | adapterWithdraw | adapterValue => cases hnotice

/-- Replaying the postings follows the event. -/
theorem replay_postings
    (hemitted : w'.emittedBy dispatcherId = event.toList ++ w.emittedBy dispatcherId)
    (position : Pubkey) :
    (bookingRule adapter.programId).replay (postings position w') =
      ((bookingRule adapter.programId).replay (postings position w)).post
        (eventPosting position event) := by
  rw [postings_of_event hemitted, eventPosting]
  cases eventPosting? position event with
  | none => rfl
  | some posting => exact book_bookingRule adapter _ _

/-- A step posts to each ledger what its event says, and a measuring adapter covers it. -/
theorem Posts.step {label : Option Request} (h : Posts curve w) (hcanonical : Canonical curve w)
    (hserved : Served curve w w' label) (hannounced : Announced curve w w' event)
    (hemitted : w'.emittedBy dispatcherId = event.toList ++ w.emittedBy dispatcherId) :
    Posts curve w' ∧ ∀ (adapter : Adapter) owner bump, adapter ≠ .marginfiUsdc →
      (ledger curve adapter (positionAddress owner adapter.programId bump) dispatcherId w).Covers
        (eventPosting (positionAddress owner adapter.programId bump) event) := by
  -- the posting of the step is that of its event, since both add the same to the record
  have hposted : ∀ (adapter : Adapter) owner bump,
      ledger curve adapter (positionAddress owner adapter.programId bump) dispatcherId w' =
        (ledger curve adapter (positionAddress owner adapter.programId bump) dispatcherId w).post
          (eventPosting (positionAddress owner adapter.programId bump) event) ∧
      (adapter ≠ .marginfiUsdc →
        (ledger curve adapter (positionAddress owner adapter.programId bump) dispatcherId w).Covers
          (eventPosting (positionAddress owner adapter.programId bump) event)) := by
    intro adapter owner bump
    obtain ⟨posting, hfollows, hcovered⟩ := posted_of_served hcanonical hserved adapter owner bump
    have hfollows := hfollows dispatcherId (.inl rfl)
    obtain ⟨hminted, hburned⟩ := totals_of_event hannounced
      (positionAddress owner adapter.programId bump)
      (ledger curve adapter (positionAddress owner adapter.programId bump) dispatcherId w)
    obtain ⟨hsame, hcovers⟩ := ShareLedger.post_unique _ posting
      (eventPosting (positionAddress owner adapter.programId bump) event)
      (by rw [← hfollows, hminted]; simp [ledger, hemitted])
      (by rw [← hfollows, hburned]; simp [ledger, hemitted])
    refine ⟨hfollows.trans hsame, fun hmeasuring => ?_⟩
    rcases hcovered dispatcherId with hcovered | ⟨hmarginfi, -⟩
    · exact hcovers hcovered
    · exact absurd hmarginfi hmeasuring
  refine ⟨fun adapter owner bump => ?_, fun adapter owner bump => (hposted adapter owner bump).2⟩
  rw [(hposted adapter owner bump).1, h adapter owner bump, replay_postings hemitted]

/-- The ledger of a position in one of the adapters is that of its address. -/
theorem ledgerOf_of_route (hplaced : Placed curve w) {position : Pubkey} {opening : Pubkey × Pubkey}
    (hroute : route w position = some opening)
    (hadapter : Adapter.ofProgramId opening.2 = some adapter) :
    ledgerOf curve w position = ledger curve adapter position dispatcherId w ∧
      ∃ bump, position = positionAddress opening.1 adapter.programId bump := by
  refine ⟨?_, ?_⟩
  · unfold ledgerOf
    simp [hroute, hadapter]
  · obtain ⟨p, hstored, rfl⟩ := Option.map_eq_some_iff.mp hroute
    have hposition := findProgramAddress_eq_pda (hplaced position p hstored)
    have hprogram : p.adapterProgram = adapter.programId := Adapter.ofProgramId_eq_some hadapter
    rw [hprogram] at hposition
    exact ⟨p.bump, hposition⟩

/-- Where the log is tracked, a position's ledger is the one the log reads as. -/
theorem read_ledger_eq (htracks : Tracks bookingRule curve w) (hplaced : Placed curve w)
    (hposts : Posts curve w) :
    (Router.read bookingRule (notices w)).ledger = ledgerOf curve w := by
  funext position
  rw [htracks.legal.ledger_eq, htracks.routed]
  cases hroute : route w position with
  | none => simp [ledgerOf, hroute]
  | some opening =>
    rw [Option.elim_some]
    cases hadapter : Adapter.ofProgramId opening.2 with
    | none => simp [bookingRule, ledgerOf, hroute, hadapter, Rule.replay_unbooked]
    | some adapter =>
      obtain ⟨hledger, bump, hposition⟩ := ledgerOf_of_route hplaced hroute hadapter
      rw [hledger, hposition, hposts adapter opening.1 bump, Adapter.ofProgramId_eq_some hadapter]
      rfl

theorem Untouched.posts (h : Untouched w) : Posts curve w := by
  intro adapter owner bump
  rw [h.ledger_eq_empty (.inl rfl), postings, notices, h.silent _ suite_dispatcherId]
  rfl

/-- The ledgers over a run are what the events posted to them. -/
theorem posts_of_run (run : SuiteRun curve layout Untouched past w) :
    Canonical curve w ∧ Posts curve w := by
  refine run.invariant (fun _ w => Canonical curve w ∧ Posts curve w) ?_ ?_
  · exact fun w₀ huntouched => ⟨huntouched.canonical, huntouched.posts⟩
  · rintro past w₁ label w₂ - ⟨hcanonical, hposts⟩ hstep
    have hserved := served_of_step hstep
    obtain ⟨event, -, hannounced, hemitted⟩ := announced_of_step (hostile_of_step hstep)
    exact ⟨hcanonical.of_served hserved,
      (hposts.step hcanonical hserved hannounced hemitted).1⟩

/-- In every state of every run over the adapters the dispatcher's events replay, each of them
being due, to the router that the stored accounts make up. -/
theorem log_replays
    (run : SuiteRun curve layout (fun w => Unused w ∧ Untouched w) past w) :
    Router.replay bookingRule (notices w) = some (routerOf curve w) := by
  have hinvariant : (∃ entries, Roster curve w entries) ∧ Tracks bookingRule curve w ∧
      Placed curve w := by
    refine run.invariant (fun _ w => (∃ entries, Roster curve w entries) ∧
      Tracks bookingRule curve w ∧ Placed curve w) ?_ ?_
    · rintro w₀ ⟨hunused, huntouched⟩
      exact ⟨⟨[], hunused.unfounded.roster⟩,
        hunused.tracks (huntouched.silent _ suite_dispatcherId), hunused.placed⟩
    · rintro past w₁ label w₂ hrun ⟨⟨entries, hroster⟩, htracks, hplaced⟩ hstep
      obtain ⟨hcanonical, hposts⟩ := posts_of_run (hrun.mono_start fun _ => And.right)
      obtain ⟨signed, henrolled⟩ := enrolled_of_step (hostile_of_step hstep)
      obtain ⟨event, -, hannounced, hemitted⟩ := announced_of_step (hostile_of_step hstep)
      obtain ⟨-, hcovered⟩ := hposts.step hcanonical (served_of_step hstep) hannounced hemitted
      refine ⟨hroster.step henrolled, ?_, hplaced.step hannounced⟩
      refine htracks.step hroster hannounced hemitted fun position posting hevent opening hopening
        hexact => ?_
      -- the position is that of a measuring adapter, whose burns are covered
      rw [read_ledger_eq htracks hplaced hposts]
      cases hadapter : Adapter.ofProgramId opening.2 with
      | none => simp [bookingRule, hadapter] at hexact
      | some adapter =>
        rw [Adapter.ofProgramId_eq_some hadapter, bookingRule_eq_exact] at hexact
        obtain ⟨hledger, bump, hposition⟩ := ledgerOf_of_route hplaced hopening hadapter
        have hposting : eventPosting position event = posting := by
          simp [eventPosting, eventPosting?, hevent, Notice.posting?]
        rw [hledger, ← hposting, hposition]
        exact hcovered adapter opening.1 bump hexact
  obtain ⟨-, htracks, hplaced⟩ := hinvariant
  refine Router.replay_eq_some.mpr ⟨htracks.legal, ?_⟩
  ext1
  · exact htracks.active
  · exact htracks.routed
  · exact read_ledger_eq htracks hplaced (posts_of_run (run.mono_start fun _ => And.right)).2

/-- The shares booked for a position depend on its own deposits and withdrawals alone: any two
runs that announced the same mints and burns of it, in the same order, book the same, whatever
else was sent in between, by whomever, however often its value was read, and over whatever
protocols. -/
theorem shares_of_own_postings {layout' : Layout ProgramState} {w₁ w₂ : Chain}
    {past₁ past₂ : List (Chain × Option Request)}
    (run₁ : SuiteRun curve layout Untouched past₁ w₁)
    (run₂ : SuiteRun curve layout' Untouched past₂ w₂) (adapter : Adapter) (owner : Pubkey)
    (bump : UInt8)
    (hsame : movements (positionAddress owner adapter.programId bump) w₁ =
      movements (positionAddress owner adapter.programId bump) w₂) :
    bookedShares curve adapter (positionAddress owner adapter.programId bump) w₁ =
      bookedShares curve adapter (positionAddress owner adapter.programId bump) w₂ := by
  have hposts₁ := (posts_of_run run₁).2 adapter owner bump
  have hposts₂ := (posts_of_run run₂).2 adapter owner bump
  -- readings are replayed to nothing
  rw [← Rule.replay_filter] at hposts₁ hposts₂
  unfold movements at hsame
  rw [← hsame, ← hposts₁] at hposts₂
  exact congrArg ShareLedger.booked hposts₂.symm

end Ledgers

/-! ### Founded, listed, opened, saved and swept -/

namespace Sample

/-- A MarginFi lender, before the dispatcher was ever used. -/
def unusedSavings : Chain :=
  World.ofAccounts [(systemProgramId, program), (tokenProgramId, program),
    (associatedTokenProgramId, program), (MarginfiUsdc.programId, program),
    (usdcMint, ⟨tokenProgramId, false, .mint ⟨none, 0, 6, none⟩⟩), (aliceAta, usdc alice 100),
    (lender, program), (bankVault, usdc (vaultAuthority lender) 0)]

def saverFounds : Request := { founding with exec := saver 0 }

def saverLists : Request :=
  request [signer admin, writable registryKey, writable (entryKey MarginfiUsdc.programId),
    readonly MarginfiUsdc.programId, readonly systemProgramId] (.whitelistAdapter "x" 1) (saver 0)
    (by decide)

def listedSavings : Chain := saverLists.apply curve (saverFounds.apply curve unusedSavings)

def openedSavings : Chain := (saverOpens 0).apply curve listedSavings

def fundedSavings : Chain := (saverDeposits 0).apply curve openedSavings

/-- After 10 were deposited and `shares` asked back. -/
def sweptSavings (shares : UInt64) : Chain := (saverWithdraws 0 shares).apply curve fundedSavings

theorem unusedSavings_unused : Unused unusedSavings := by
  intro key
  rw [Option.eq_none_iff_forall_ne_some]
  intro s hs
  obtain ⟨executable, hstored⟩ := World.typed?_eq_some.mp hs
  have hmem := World.mem_of_ofAccounts hstored
  simp [program, usdc] at hmem

theorem unusedSavings_untouched : Untouched unusedSavings where
  vacant adapter key := by
    rw [Option.eq_none_iff_forall_ne_some]
    intro s hs
    obtain ⟨executable, hstored⟩ := World.typed?_eq_some.mp hs
    have hmem := World.mem_of_ofAccounts hstored
    simp [program, usdc] at hmem
  silent _ _ := rfl

/-- The steps up to the deposit. -/
def fundedPast : List (Chain × Option Request) :=
  [(openedSavings, some (saverDeposits 0)), (listedSavings, some (saverOpens 0)),
    (saverFounds.apply curve unusedSavings, some saverLists), (unusedSavings, some saverFounds)]

theorem fundedSavings_run :
    SuiteRun curve layout (fun w => Unused w ∧ Untouched w) fundedPast fundedSavings := by
  refine .step (.step (.step (.step (.start ⟨unusedSavings_unused, unusedSavings_untouched⟩)
    ?_) ?_) ?_) ?_
  · exact .request saverFounds (saver_overAdapters 0)
  · exact .request saverLists (saver_overAdapters 0)
  · exact .request (saverOpens 0) (saver_overAdapters 0)
  · exact .request (saverDeposits 0) (saver_overAdapters 0)

theorem sweptSavings_run (shares : UInt64) :
    SuiteRun curve layout (fun w => Unused w ∧ Untouched w)
      ((fundedSavings, some (saverWithdraws 0 shares)) :: fundedPast) (sweptSavings shares) :=
  .step fundedSavings_run (.request (saverWithdraws 0 shares) (saver_overAdapters 0))

/-- 10 deposited and 25 asked back, which the lender's adapter completes. -/
theorem log_replays_swept :
    notices (sweptSavings 25) =
      [.served (positionKey MarginfiUsdc.programId) (.burn 25),
        .served (positionKey MarginfiUsdc.programId) (.mint 10),
        .opened (positionKey MarginfiUsdc.programId) alice MarginfiUsdc.programId,
        .listed MarginfiUsdc.programId] ∧
    Router.replay bookingRule (notices (sweptSavings 25)) =
      some (routerOf curve (sweptSavings 25)) :=
  ⟨by decide +kernel, log_replays (sweptSavings_run 25)⟩

/-- 10 deposited and 4 asked back, on a chain where the adapter had to be listed first and on
one where it had not; and a stake whose value was read after that, and one whose was not. -/
theorem shares_of_own_postings_swept :
    ((sweptSavings 4).emittedBy dispatcherId ≠ (swept 0 4).emittedBy dispatcherId ∧
      bookedShares curve .marginfiUsdc (positionKey MarginfiUsdc.programId) (sweptSavings 4) =
        bookedShares curve .marginfiUsdc (positionKey MarginfiUsdc.programId) (swept 0 4)) ∧
    postings (positionKey DriftIf.programId)
      ((valuing 34).apply curve (unstaked 100 100 10 4)) ≠
        postings (positionKey DriftIf.programId) (unstaked 100 100 10 4) ∧
      bookedShares curve .driftIf (positionKey DriftIf.programId)
        ((valuing 34).apply curve (unstaked 100 100 10 4)) =
          bookedShares curve .driftIf (positionKey DriftIf.programId) (unstaked 100 100 10 4) := by
  refine ⟨⟨by decide +kernel, shares_of_own_postings
    ((sweptSavings_run 4).mono_start fun _ => And.right) (saver_run 0 4) .marginfiUsdc alice 255
    (by decide +kernel)⟩, by decide +kernel, ?_⟩
  exact shares_of_own_postings
    ((staker_run 100 100 10 4).step (.request (valuing 34) insurer_overAdapters))
    (staker_run 100 100 10 4) .driftIf alice 255 (by decide +kernel)

/-- An adapter listed, switched off and on: three events for four requests. -/
theorem log_of_run_resumed :
    resumed.emittedBy dispatcherId =
      [.adapterPaused (.key 6) true, .adapterPaused (.key 6) false,
        .adapterWhitelisted (.key 6) "x" 1] ∧
    ∃ events,
      List.Forall₂ (fun step event => Reports curve step.1 step.2 event) governed events ∧
        resumed.emittedBy dispatcherId =
          events.reduceOption ++ unused.emittedBy dispatcherId := by
  refine ⟨by decide +kernel, log_of_run ?_⟩
  exact .step (.step (.step (.step (.start rfl) (.request _ idle_lawful))
    (.request _ idle_lawful)) (.request _ idle_lawful)) (.request _ idle_lawful)

theorem log_tells_accounts_resumed :
    switch curve resumed (.key 6) = some true ∧
    ∀ adapterProgram, (switch curve resumed adapterProgram).isSome = true ↔
      .listed adapterProgram ∈ notices resumed := by
  have hrun : HostileRun curve (fun w => Unused w ∧ w.emittedBy dispatcherId = []) governed
      resumed :=
    .step (.step (.step (.step (.start ⟨unused_unused, rfl⟩) (.request _ idle_lawful))
      (.request _ idle_lawful)) (.request _ idle_lawful)) (.request _ idle_lawful)
  exact ⟨by decide +kernel, (log_tells_accounts hrun).2.2.1⟩

end Sample

end YieldAdapter.Dispatcher

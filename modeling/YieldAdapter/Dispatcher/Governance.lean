import YieldAdapter.Adapter.Programs
import YieldAdapter.Dispatcher.Run

/-!
# Governance

The governance history of a run is the list of what its completed requests did to
the registry, the whitelist and the positions. Every typed account of the dispatcher
can be read off that history, so the account checks of an instruction, which look
only at the present, amount to conditions on the past: whatever the dispatcher calls
as an adapter was whitelisted by the admin and not paused by the admin since, and
whatever position it uses was opened for that adapter.
-/

set_option autoImplicit false

namespace YieldAdapter.Dispatcher

open Solana

/-! ### The history -/

/-- What a completed request did to the dispatcher's accounts. -/
inductive Governance where
  | initialized (admin : Pubkey)
  | whitelisted (admin adapterProgram : Pubkey) (interfaceVersion : UInt8)
  | paused (admin adapterProgram : Pubkey) (paused : Bool)
  | opened (owner adapterProgram position usdcMint usdcPool : Pubkey)
  deriving DecidableEq

/-- The action is a `pause_adapter` on `adapterProgram`, in either direction. -/
def Governance.pauses (adapterProgram : Pubkey) : Governance → Bool
  | .paused _ target _ => decide (target = adapterProgram)
  | _ => false

/-- The action of one step, if it was a completed request with one. The signer stands
first among the accounts. -/
def governance (curve : Curve) : Chain × Option Request → Option Governance
  | (_, none) => none
  | (w, some request) =>
      match (request.run curve w).1 with
      | .error _ => none
      | .ok _ =>
          match request.ix, request.ctx.accounts with
          | .initializeRegistry, admin :: _ => some (.initialized admin.key)
          | .whitelistAdapter _ interfaceVersion, admin :: _ :: _ :: adapterProgram :: _ =>
              some (.whitelisted admin.key adapterProgram.key interfaceVersion)
          | .pauseAdapter paused, admin :: _ :: adapterEntry :: _ =>
              (w.state? AdapterEntry adapterEntry.key).map fun e =>
                .paused admin.key e.adapterProgram paused
          | .openPosition, owner :: _ :: adapterProgram :: position :: usdcMint ::
              positionUsdcPool :: _ =>
              some (.opened owner.key adapterProgram.key position.key usdcMint.key
                positionUsdcPool.key)
          | _, _ => none

/-- The actions of a run, newest first. -/
def governanceLog (curve : Curve) (past : List (Chain × Option Request)) : List Governance :=
  past.filterMap (governance curve)

/-! ### What one step does -/

/-- How one step changes the dispatcher's typed accounts, and the action it is. -/
inductive Governed (curve : Curve) (w w' : Chain) : Option Governance → Prop
  | unchanged (after : ∀ key, w'.typed? dispatcherId key = w.typed? dispatcherId key) :
      Governed curve w w' none
  | initialized {registry admin : Pubkey} {bump : UInt8}
      (found : findProgramAddress curve dispatcherId registrySeeds = some (registry, bump))
      (vacant : w.typed? dispatcherId registry = none)
      (after : ∀ key, w'.typed? dispatcherId key =
        if key = registry then some (.registry { admin, adapterCount := 0, bump })
        else w.typed? dispatcherId key) :
      Governed curve w w' (some (.initialized admin))
  | whitelisted {registry entry : Pubkey} {r : Registry} {e : AdapterEntry} (adapterCount : UInt32)
      (stored : w.typed? dispatcherId registry = some (.registry r))
      (found : findProgramAddress curve dispatcherId (entrySeeds e.adapterProgram) =
        some (entry, e.bump))
      (vacant : w.typed? dispatcherId entry = none)
      (version : e.interfaceVersion = adapterInterfaceVersion)
      (after : ∀ key, w'.typed? dispatcherId key =
        if key = entry then some (.adapterEntry e)
        else if key = registry then some (.registry { r with adapterCount })
        else w.typed? dispatcherId key) :
      Governed curve w w' (some (.whitelisted r.admin e.adapterProgram e.interfaceVersion))
  | paused {registry entry : Pubkey} {r : Registry} {e : AdapterEntry} {paused : Bool}
      (stored : w.typed? dispatcherId registry = some (.registry r))
      (listed : w.typed? dispatcherId entry = some (.adapterEntry e))
      (after : ∀ key, w'.typed? dispatcherId key =
        if key = entry then some (.adapterEntry { e with isActive := !paused })
        else w.typed? dispatcherId key) :
      Governed curve w w' (some (.paused r.admin e.adapterProgram paused))
  | opened {position : Pubkey} {p : Position}
      (vacant : w.typed? dispatcherId position = none)
      (after : ∀ key, w'.typed? dispatcherId key =
        if key = position then some (.position p) else w.typed? dispatcherId key) :
      Governed curve w w'
        (some (.opened p.owner p.adapterProgram position p.usdcMint p.usdcPool))

section Step

variable {curve : Curve} {w w' : Chain}

@[simp] theorem typed?_announced (ctx : Context) (event : Event) (key : Pubkey) :
    (announced ctx event w).typed? dispatcherId key = w.typed? dispatcherId key := rfl

theorem typed?_written {τ : Type} [AnchorState ProgramState τ] {ctx : Context}
    (hprogram : ctx.programId = dispatcherId) (key k : Pubkey) (state : τ) :
    (written ctx key state w).typed? dispatcherId k =
      if k = key then some (AnchorState.encode state) else w.typed? dispatcherId k := by
  unfold written
  rw [hprogram]
  exact World.typed?_put ..

/-- Creating an account leaves the typed accounts alone. -/
theorem typed?_of_initState {ctx : Context} {payer info : AccountInfo} {seeds : Seeds}
    {bump : UInt8} (h : initState curve ctx payer seeds info w = (.ok bump, w')) (key : Pubkey) :
    w'.typed? dispatcherId key = w.typed? dispatcherId key := by
  have hframed : Framed (· = dispatcherId) (fun _ => False) w w' := initState_leaves.of_ok h
  exact hframed.typed?_eq rfl key

theorem typed?_of_initAssociatedToken {ctx : Context} {payer wallet mint info : AccountInfo}
    (h : initAssociatedToken curve ctx payer wallet mint info w = (.ok (), w')) (key : Pubkey) :
    w'.typed? dispatcherId key = w.typed? dispatcherId key := by
  have hframed : Framed (· = dispatcherId) (fun _ => False) w w' :=
    initAssociatedToken_leaves.of_ok h
  exact hframed.typed?_eq rfl key

/-- Rewriting a position as it is stored changes nothing. -/
theorem typed?_written_same {ctx : Context} {key : Pubkey} {p : Position}
    (hprogram : ctx.programId = dispatcherId)
    (hstored : w.typed? dispatcherId key = some (.position p)) (k : Pubkey) :
    (written ctx key p w).typed? dispatcherId k = w.typed? dispatcherId k := by
  rw [typed?_written hprogram]
  split_ifs with hk
  · rw [hk, hstored]
    rfl
  · rfl

section Instructions

variable {exec : Callee ProgramState Event} {ctx : Context}
variable (hprogram : ctx.programId = dispatcherId) (hexec : Lawful (· = dispatcherId) exec)

include hprogram hexec

/-- Opening a position leaves the other typed accounts alone. -/
theorem typed?_of_opening {accounts : OpenPosition} {bump : UInt8} {event : Event}
    {p : Position} {w₁ w₂ w₃ : Chain}
    (created : initState curve ctx accounts.owner
      (positionSeeds accounts.owner.key accounts.adapterProgram.key) accounts.position w =
        (.ok bump, w₁))
    (pooled : initAssociatedToken curve ctx accounts.owner accounts.position
      accounts.usdcMint.info accounts.positionUsdcPool w₁ = (.ok (), w₂))
    (routed : routeInitialize curve exec ctx accounts.adapterProgram accounts.instructionsSysvar
      accounts.position accounts.adapterState accounts.owner accounts.systemProgram
      accounts.remainingAccounts
      [(positionSeeds accounts.owner.key accounts.adapterProgram.key, bump)] w₂ = (.ok (), w₃))
    (key : Pubkey) :
    (written ctx accounts.position.key p (announced ctx event w₃)).typed? dispatcherId key =
      if key = accounts.position.key then some (.position p) else w.typed? dispatcherId key := by
  rw [typed?_written hprogram, typed?_announced, (invokeSigned_framed hexec routed).typed?_eq rfl,
    typed?_of_initAssociatedToken pooled, typed?_of_initState created]
  rfl

/-- A deposit writes the position back as it was. -/
theorem typed?_of_deposit {accounts : Deposit} {amount : UInt64} {data : Bytes} {event : Event}
    {w₁ w₂ : Chain} (accepted : accounts.Accepted curve ctx w)
    (funded : transfer curve exec ctx accounts.ownerUsdcAta.info accounts.positionUsdcPool.info
      accounts.owner amount [] w = (.ok (), w₁))
    (routed : fundMovementIx curve exec ctx data accounts.adapterProgram
      accounts.instructionsSysvar accounts.position.info accounts.positionUsdcPool.info
      accounts.adapterState accounts.remainingAccounts (signerSeeds accounts.position.data) w₁ =
        (.ok (), w₂)) (key : Pubkey) :
    (written ctx accounts.position.key accounts.position.data
      (announced ctx event w₂)).typed? dispatcherId key = w.typed? dispatcherId key := by
  have hfunded := (invokeSigned_framed hexec funded).typed?_eq rfl
  have hrouted := (invokeSigned_framed hexec routed).typed?_eq rfl
  have hstored := World.state?_eq_some_iff_typed?.mp accepted.position
  rw [typed?_written_same hprogram, typed?_announced, hrouted, hfunded]
  rw [typed?_announced, hrouted, hfunded]
  exact hstored

/-- So does a withdrawal. -/
theorem typed?_of_withdraw {accounts : Withdraw} {amountOut : UInt64} {data : Bytes}
    {event : Event} {w₁ w₂ : Chain} (accepted : accounts.Accepted curve ctx w)
    (routed : fundMovementIx curve exec ctx data accounts.adapterProgram
      accounts.instructionsSysvar accounts.position.info accounts.positionUsdcPool.info
      accounts.adapterState accounts.remainingAccounts (signerSeeds accounts.position.data) w =
        (.ok (), w₁))
    (paid : payOut curve exec ctx accounts amountOut w₁ = (.ok (), w₂)) (key : Pubkey) :
    (written ctx accounts.position.key accounts.position.data
      (announced ctx event w₂)).typed? dispatcherId key = w.typed? dispatcherId key := by
  have hrouted := (invokeSigned_framed hexec routed).typed?_eq rfl
  have hpaid := (payOut_framed hexec paid).typed?_eq rfl
  have hstored := World.state?_eq_some_iff_typed?.mp accepted.position
  rw [typed?_written_same hprogram, typed?_announced, hpaid, hrouted]
  rw [typed?_announced, hpaid, hrouted]
  exact hstored

end Instructions

/-- What a request does to the dispatcher's accounts is the action it is recorded as. -/
theorem governed_of_request {request : Request} (hexec : Lawful (· = dispatcherId) request.exec) :
    Governed curve w (request.apply curve w) (governance curve (w, some request)) := by
  rcases request.apply_cases curve w with ⟨⟨e, w₁, hrun⟩, hunchanged⟩ | ⟨hrun, hcompleted⟩
  · rw [hunchanged]
    simp only [governance, hrun]
    exact .unchanged fun _ => rfl
  have hprogram := request.program
  simp only [governance, hrun]
  generalize request.apply curve w = w' at hcompleted
  generalize request.ix = ix at hcompleted
  cases hcompleted with
  | initializeRegistry loaded created owned =>
    obtain ⟨⟨_, hslots⟩, -⟩ := InitializeRegistry.load_ok loaded
    obtain ⟨found, vacant, -⟩ := initState_ok created
    rw [hprogram] at found
    simp only [hslots]
    refine .initialized found (World.typed?_of_vacant vacant) fun key => ?_
    rw [typed?_written hprogram, typed?_of_initState created]
    rfl
  -- the entry is created first; the registry is written last, with the count
  | @whitelistAdapter name interfaceVersion bump adapterCount addedAt accounts w₁ loaded passed
      created short version room counted ownedRegistry ownedEntry =>
    obtain ⟨found, vacant, -⟩ := initState_ok created
    obtain ⟨⟨_, hslots⟩, -, hregistry⟩ := WhitelistAdapter.load_ok loaded
    obtain ⟨-, hadmin, -⟩ := WhitelistAdapter.constraints_ok passed
    rw [hprogram] at found
    simp only [hslots, ← hadmin]
    refine .whitelisted (e :=
      { adapterProgram := accounts.adapterProgram.key, interfaceVersion, name
        isActive := true, addedAt, bump }) adapterCount
      (World.state?_eq_some_iff_typed?.mp hregistry) found (World.typed?_of_vacant vacant) version
      fun key => ?_
    rw [typed?_written hprogram, typed?_written hprogram, typed?_announced,
      typed?_of_initState created]
    rfl
  | pauseAdapter loaded passed owned =>
    obtain ⟨⟨_, hslots⟩, -, hregistry, hentry⟩ := PauseAdapter.load_ok loaded
    obtain ⟨-, hadmin, -⟩ := PauseAdapter.constraints_ok passed
    have hstored : w.state? AdapterEntry _ = some _ := hentry
    simp only [hslots, hstored, Option.map_some, ← hadmin]
    refine .paused (World.state?_eq_some_iff_typed?.mp hregistry)
      (World.state?_eq_some_iff_typed?.mp hentry) fun key => ?_
    rw [typed?_written hprogram, typed?_announced]
    rfl
  | @openPosition accounts bump createdAt w₁ w₂ w₃ loaded gate version created pooled routed
      owned =>
    obtain ⟨_, _, hslots⟩ := loaded.slots
    simp only [hslots]
    refine .opened (p :=
      { owner := accounts.owner.key
        adapterProgram := accounts.adapterProgram.key
        usdcPool := accounts.positionUsdcPool.key
        usdcMint := accounts.usdcMint.key
        createdAt, bump }) (World.typed?_of_vacant (initState_ok created).2.1) fun key => ?_
    exact typed?_of_opening (w := w.fresh) hprogram hexec created pooled routed key
  -- no governed account is written from here on
  | deposit accepted positive version funded routed returned owned =>
    exact .unchanged (typed?_of_deposit (w := w.fresh) hprogram hexec accepted funded routed)
  | withdraw accepted positive version routed returned paid owned =>
    exact .unchanged (typed?_of_withdraw (w := w.fresh) hprogram hexec accepted routed paid)
  | currentValue accepted version routed returned =>
    refine .unchanged fun key => ?_
    exact (invokeSigned_framed hexec routed).typed?_eq rfl key

end Step

/-! ### Reading the accounts off the history -/

/-- A whitelist entry, as the history explains it: the admin whitelisted its adapter,
and if it lets calls through, the last pause of that adapter, if any, lifted it. -/
structure Listed (curve : Curve) (log : List Governance) (key : Pubkey) (e : AdapterEntry) :
    Prop where
  found : findProgramAddress curve dispatcherId (entrySeeds e.adapterProgram) = some (key, e.bump)
  version : e.interfaceVersion = adapterInterfaceVersion
  admitted : ∃ admin, .initialized admin ∈ log ∧
    .whitelisted admin e.adapterProgram adapterInterfaceVersion ∈ log ∧
    (e.isActive = true → ∀ action, log.find? (·.pauses e.adapterProgram) = some action →
      action = .paused admin e.adapterProgram false)

/-- The dispatcher's typed accounts, as its governance history explains them. -/
structure Recorded (curve : Curve) (log : List Governance) (w : Chain) : Prop where
  registry : ∀ key r, w.typed? dispatcherId key = some (.registry r) →
    (∃ bump, findProgramAddress curve dispatcherId registrySeeds = some (key, bump)) ∧
      .initialized r.admin ∈ log
  admins : ∀ admin, .initialized admin ∈ log →
    ∃ key r, w.typed? dispatcherId key = some (.registry r) ∧ r.admin = admin
  listed : ∀ key e, w.typed? dispatcherId key = some (.adapterEntry e) → Listed curve log key e
  paused : ∀ admin adapterProgram b, .paused admin adapterProgram b ∈ log →
    ∃ key e, w.typed? dispatcherId key = some (.adapterEntry e) ∧
      e.adapterProgram = adapterProgram
  opened : ∀ key p, w.typed? dispatcherId key = some (.position p) →
    .opened p.owner p.adapterProgram key p.usdcMint p.usdcPool ∈ log

section Recorded

variable {curve : Curve} {log : List Governance} {w w' : Chain}

/-- There is one registry, so there is one admin. -/
theorem Recorded.admin_unique (h : Recorded curve log w) {admin admin' : Pubkey}
    (hadmin : .initialized admin ∈ log) (hadmin' : .initialized admin' ∈ log) :
    admin = admin' := by
  obtain ⟨key, r, hstored, rfl⟩ := h.admins admin hadmin
  obtain ⟨key', r', hstored', rfl⟩ := h.admins admin' hadmin'
  obtain ⟨⟨bump, hfound⟩, -⟩ := h.registry key r hstored
  obtain ⟨⟨bump', hfound'⟩, -⟩ := h.registry key' r' hstored'
  obtain ⟨rfl, -⟩ : key = key' ∧ bump = bump' := by simpa [hfound] using hfound'
  rw [hstored] at hstored'
  simp only [Option.some.injEq, ProgramState.registry.injEq] at hstored'
  rw [hstored']

/-- An adapter has at most one entry. -/
theorem Recorded.entry_unique (h : Recorded curve log w) {key key' : Pubkey}
    {e e' : AdapterEntry} (hstored : w.typed? dispatcherId key = some (.adapterEntry e))
    (hstored' : w.typed? dispatcherId key' = some (.adapterEntry e'))
    (hsame : e.adapterProgram = e'.adapterProgram) : key = key' := by
  have hfound := (h.listed key e hstored).found
  rw [hsame, (h.listed key' e' hstored').found] at hfound
  simp only [Option.some.injEq, Prod.mk.injEq] at hfound
  exact hfound.1.symm

/-- An adapter that has no entry yet was never paused. -/
theorem Recorded.not_paused (h : Recorded curve log w) {entry adapterProgram : Pubkey}
    {bump : UInt8}
    (hfound : findProgramAddress curve dispatcherId (entrySeeds adapterProgram) =
      some (entry, bump))
    (hvacant : w.typed? dispatcherId entry = none) :
    log.find? (·.pauses adapterProgram) = none := by
  rw [List.find?_eq_none]
  intro action hmem hpauses
  cases action with
  | paused admin target b =>
    obtain rfl : target = adapterProgram := by simpa [Governance.pauses] using hpauses
    obtain ⟨key, e, hstored, rfl⟩ := h.paused _ _ _ hmem
    have hfound' := (h.listed key e hstored).found
    obtain ⟨rfl, -⟩ : entry = key ∧ bump = e.bump := by simpa [hfound] using hfound'
    simp [hvacant] at hstored
  | initialized admin => simp [Governance.pauses] at hpauses
  | whitelisted admin target version => simp [Governance.pauses] at hpauses
  | opened owner target position usdcMint usdcPool => simp [Governance.pauses] at hpauses

/-- Actions other than pausing its adapter leave an entry explained. -/
theorem Listed.cons {key : Pubkey} {e : AdapterEntry} (h : Listed curve log key e)
    {action : Governance} (hother : action.pauses e.adapterProgram = false) :
    Listed curve (action :: log) key e := by
  obtain ⟨admin, hinit, hlisted, hlast⟩ := h.admitted
  refine ⟨h.found, h.version, admin, .tail _ hinit, .tail _ hlisted, fun hactive last hfind => ?_⟩
  exact hlast hactive last (by simpa [hother] using hfind)

/-- A new registry: there was none before, and no entry or position moves. -/
private theorem Recorded.initialized (h : Recorded curve log w) {registry admin : Pubkey}
    {bump : UInt8}
    (found : findProgramAddress curve dispatcherId registrySeeds = some (registry, bump))
    (vacant : w.typed? dispatcherId registry = none)
    (after : ∀ key, w'.typed? dispatcherId key =
      if key = registry then some (.registry { admin, adapterCount := 0, bump })
      else w.typed? dispatcherId key) :
    Recorded curve (.initialized admin :: log) w' where
  registry key r hstored := by
    rw [after] at hstored
    split_ifs at hstored with hkey
    · subst hkey
      simp only [Option.some.injEq, ProgramState.registry.injEq] at hstored
      subst hstored
      exact ⟨⟨bump, found⟩, .head _⟩
    · exact (h.registry key r hstored).imp_right (.tail _)
  admins admin' hmem := by
    rcases List.mem_cons.mp hmem with hnew | hold
    · refine ⟨registry, _, by rw [after, if_pos rfl], ?_⟩
      exact (Governance.initialized.inj hnew).symm
    · obtain ⟨key, r, hstored, hadmin⟩ := h.admins admin' hold
      have hkey : key ≠ registry := World.ne_of_vacant vacant hstored
      exact ⟨key, r, by rw [after, if_neg hkey, hstored], hadmin⟩
  listed key e hstored := by
    rw [after] at hstored
    split_ifs at hstored with hkey
    · simp at hstored
    · exact (h.listed key e hstored).cons rfl
  paused admin' adapterProgram b hmem := by
    obtain ⟨key, e, hstored, hadapter⟩ := h.paused admin' adapterProgram b (by simpa using hmem)
    have hkey : key ≠ registry := World.ne_of_vacant vacant hstored
    exact ⟨key, e, by rw [after, if_neg hkey, hstored], hadapter⟩
  opened key p hstored := by
    rw [after] at hstored
    split_ifs at hstored with hkey
    · simp at hstored
    · exact .tail _ (h.opened key p hstored)

/-- A new entry: its adapter was never paused, and the registry only counts it. -/
private theorem Recorded.whitelisted (h : Recorded curve log w) {registry entry : Pubkey}
    {r : Registry} {e : AdapterEntry} {adapterCount : UInt32}
    (stored : w.typed? dispatcherId registry = some (.registry r))
    (found : findProgramAddress curve dispatcherId (entrySeeds e.adapterProgram) =
      some (entry, e.bump))
    (vacant : w.typed? dispatcherId entry = none)
    (version : e.interfaceVersion = adapterInterfaceVersion)
    (after : ∀ key, w'.typed? dispatcherId key =
      if key = entry then some (.adapterEntry e)
      else if key = registry then some (.registry { r with adapterCount })
      else w.typed? dispatcherId key) :
    Recorded curve (.whitelisted r.admin e.adapterProgram e.interfaceVersion :: log) w' where
  registry key r' hstored := by
    rw [after] at hstored
    split_ifs at hstored with hentry hregistry
    · simp at hstored
    · simp only [Option.some.injEq, ProgramState.registry.injEq] at hstored
      subst hregistry hstored
      exact (h.registry _ r stored).imp_right (.tail _)
    · exact (h.registry key r' hstored).imp_right (.tail _)
  admins admin hmem := by
    obtain ⟨key, r', hstored, hadmin⟩ := h.admins admin (by simpa using hmem)
    have hentry : key ≠ entry := World.ne_of_vacant vacant hstored
    by_cases hkey : key = registry
    · subst hkey
      simp only [stored, Option.some.injEq, ProgramState.registry.injEq] at hstored
      exact ⟨key, _, by rw [after, if_neg hentry, if_pos rfl], by rw [← hadmin, ← hstored]⟩
    · exact ⟨key, r', by rw [after, if_neg hentry, if_neg hkey, hstored], hadmin⟩
  listed key e' hstored := by
    rw [after] at hstored
    split_ifs at hstored with hentry hregistry
    · simp only [Option.some.injEq, ProgramState.adapterEntry.injEq] at hstored
      subst hentry hstored
      refine ⟨found, version, r.admin, .tail _ (h.registry _ r stored).2, ?_, ?_⟩
      · rw [version]
        exact .head _
      · intro _ last hlast
        -- the address was vacant, so no pause of this adapter is on record
        have hnone := h.not_paused found vacant
        rw [List.find?_cons_of_neg (by simp [Governance.pauses]), hnone] at hlast
        simp at hlast
    · simp at hstored
    · exact (h.listed key e' hstored).cons rfl
  paused admin adapterProgram b hmem := by
    obtain ⟨key, e', hstored, hadapter⟩ := h.paused admin adapterProgram b (by simpa using hmem)
    have hentry : key ≠ entry := World.ne_of_vacant vacant hstored
    have hregistry : key ≠ registry := World.ne_of_stored (by simp) hstored stored
    exact ⟨key, e', by rw [after, if_neg hentry, if_neg hregistry, hstored], hadapter⟩
  opened key p hstored := by
    rw [after] at hstored
    split_ifs at hstored with hentry hregistry
    · simp at hstored
    · simp at hstored
    · exact .tail _ (h.opened key p hstored)

/-- A pause rewrites the one entry its adapter has. -/
private theorem Recorded.pausing (h : Recorded curve log w) {registry entry : Pubkey}
    {r : Registry} {e : AdapterEntry} {paused : Bool}
    (stored : w.typed? dispatcherId registry = some (.registry r))
    (listed : w.typed? dispatcherId entry = some (.adapterEntry e))
    (after : ∀ key, w'.typed? dispatcherId key =
      if key = entry then some (.adapterEntry { e with isActive := !paused })
      else w.typed? dispatcherId key) :
    Recorded curve (.paused r.admin e.adapterProgram paused :: log) w' where
  registry key r' hstored := by
    rw [after] at hstored
    split_ifs at hstored with hkey
    · simp at hstored
    · exact (h.registry key r' hstored).imp_right (.tail _)
  admins admin hmem := by
    obtain ⟨key, r', hstored, hadmin⟩ := h.admins admin (by simpa using hmem)
    have hkey : key ≠ entry := World.ne_of_stored (by simp) hstored listed
    exact ⟨key, r', by rw [after, if_neg hkey, hstored], hadmin⟩
  listed key e' hstored := by
    rw [after] at hstored
    split_ifs at hstored with hkey
    · simp only [Option.some.injEq, ProgramState.adapterEntry.injEq] at hstored
      subst hkey hstored
      obtain ⟨admin, hinit, hlisted, -⟩ := (h.listed _ e listed).admitted
      -- the admin who pauses is the one who listed
      have hsame := h.admin_unique hinit (h.registry _ r stored).2
      refine ⟨(h.listed _ e listed).found, (h.listed _ e listed).version, admin, .tail _ hinit,
        .tail _ hlisted, fun hactive last hlast => ?_⟩
      rw [List.find?_cons_of_pos (by simp [Governance.pauses])] at hlast
      obtain rfl := Option.some.inj hlast
      rw [hsame, show paused = false by simpa using hactive]
    · -- another entry is another adapter's
      have hother : e'.adapterProgram ≠ e.adapterProgram := fun hsame =>
        hkey (h.entry_unique hstored listed hsame)
      exact (h.listed key e' hstored).cons (by simp [Governance.pauses, hother.symm])
  paused admin adapterProgram b hmem := by
    have hrewritten : ∃ key e', w'.typed? dispatcherId key = some (.adapterEntry e') ∧
        e'.adapterProgram = e.adapterProgram :=
      ⟨entry, { e with isActive := !paused }, by rw [after, if_pos rfl], rfl⟩
    rcases List.mem_cons.mp hmem with hnew | hold
    · obtain ⟨-, rfl, -⟩ := Governance.paused.inj hnew
      exact hrewritten
    · obtain ⟨key, e', hstored, rfl⟩ := h.paused admin adapterProgram b hold
      by_cases hkey : key = entry
      · subst hkey
        simp only [listed, Option.some.injEq, ProgramState.adapterEntry.injEq] at hstored
        rw [← hstored]
        exact hrewritten
      · exact ⟨key, e', by rw [after, if_neg hkey, hstored], rfl⟩
  opened key p hstored := by
    rw [after] at hstored
    split_ifs at hstored with hkey
    · simp at hstored
    · exact .tail _ (h.opened key p hstored)

/-- A new position. -/
private theorem Recorded.opening (h : Recorded curve log w) {position : Pubkey} {p : Position}
    (vacant : w.typed? dispatcherId position = none)
    (after : ∀ key, w'.typed? dispatcherId key =
      if key = position then some (.position p) else w.typed? dispatcherId key) :
    Recorded curve
      (.opened p.owner p.adapterProgram position p.usdcMint p.usdcPool :: log) w' where
  registry key r hstored := by
    rw [after] at hstored
    split_ifs at hstored with hkey
    · simp at hstored
    · exact (h.registry key r hstored).imp_right (.tail _)
  admins admin hmem := by
    obtain ⟨key, r, hstored, hadmin⟩ := h.admins admin (by simpa using hmem)
    have hkey : key ≠ position := World.ne_of_vacant vacant hstored
    exact ⟨key, r, by rw [after, if_neg hkey, hstored], hadmin⟩
  listed key e hstored := by
    rw [after] at hstored
    split_ifs at hstored with hkey
    · simp at hstored
    · exact (h.listed key e hstored).cons rfl
  paused admin adapterProgram b hmem := by
    obtain ⟨key, e, hstored, hadapter⟩ := h.paused admin adapterProgram b (by simpa using hmem)
    have hkey : key ≠ position := World.ne_of_vacant vacant hstored
    exact ⟨key, e, by rw [after, if_neg hkey, hstored], hadapter⟩
  opened key p' hstored := by
    rw [after] at hstored
    split_ifs at hstored with hkey
    · simp only [Option.some.injEq, ProgramState.position.injEq] at hstored
      subst hkey hstored
      exact .head _
    · exact .tail _ (h.opened key p' hstored)

/-- The explanation survives a step. -/
theorem Recorded.step (h : Recorded curve log w) {action : Option Governance}
    (hstep : Governed curve w w' action) : Recorded curve (action.toList ++ log) w' := by
  cases hstep with
  | unchanged after =>
    constructor <;> simp only [after]
    exacts [h.registry, h.admins, h.listed, h.paused, h.opened]
  | initialized found vacant after => exact h.initialized found vacant after
  | whitelisted adapterCount stored found vacant version after =>
    exact h.whitelisted stored found vacant version after
  | paused stored listed after => exact h.pausing stored listed after
  | opened vacant after => exact h.opening vacant after

/-- No typed account of the dispatcher exists yet. -/
def Unused (w : Chain) : Prop := ∀ key, w.typed? dispatcherId key = none

/-- In every state of every run that starts unused, the history explains the accounts. -/
theorem recorded_of_run {past : List (Chain × Option Request)}
    (run : HostileRun curve Unused past w) : Recorded curve (governanceLog curve past) w := by
  refine run.invariant (fun past w => Recorded curve (governanceLog curve past) w) ?_ ?_
  · intro w₀ hunused
    constructor <;> simp [governanceLog, hunused _]
  · intro past w₁ label w₂ _ ih hstep
    have hgoverned : Governed curve w₁ w₂ (governance curve (w₁, label)) := by
      cases hstep with
      | request request hexec => exact governed_of_request hexec
      | outside hframed => exact .unchanged (hframed.typed?_eq rfl)
    have hlog : governanceLog curve ((w₁, label) :: past) =
        (governance curve (w₁, label)).toList ++ governanceLog curve past := by
      unfold governanceLog
      rw [List.filterMap_cons]
      cases governance curve (w₁, label) <;> rfl
    rw [hlog]
    exact ih.step hgoverned

end Recorded

/-! ### The gate -/

/-- Where an instruction finds the whitelist entry. -/
def entrySlot : Ix → Nat
  | .currentValue => 0
  | _ => 1

/-- What the history says of a call to an adapter that a request makes in `w`. The
adapter was whitelisted by the one admin, whose last pause of it, if any, lifted it.
The entry and, except while a position is being opened, the position and its pool are
the adapter's own, the position as it was opened; and if it is one of this
repository's adapters, it completes only on its own state account for the position. -/
structure Gated (curve : Curve) (log : List Governance) (w : Chain) (request : Request)
    (call : Call) : Prop where
  admitted : ∃ admin, .initialized admin ∈ log ∧
    (∀ admin', .initialized admin' ∈ log → admin' = admin) ∧
    .whitelisted admin call.instruction.programId adapterInterfaceVersion ∈ log ∧
    ∀ action, log.find? (·.pauses call.instruction.programId) = some action →
      action = .paused admin call.instruction.programId false
  executable : w.executable call.instruction.programId = true
  entry : ∃ info e, request.ctx.accounts[entrySlot request.ix]? = some info ∧
    w.state? AdapterEntry info.key = some e ∧ e.adapterProgram = call.instruction.programId
  position : request.ix ≠ .openPosition → ∃ key p,
    call.instruction.accounts[1]?.map (·.pubkey) = some key ∧
    w.state? Position key = some p ∧
    .opened p.owner call.instruction.programId key p.usdcMint p.usdcPool ∈ log ∧
    (request.ix ≠ .currentValue →
      call.instruction.accounts[2]?.map (·.pubkey) = some p.usdcPool)
  adapterState : ∀ adapter : Adapter, call.instruction.programId = adapter.programId →
    ∀ layout protocol w₁ w₂, Adapter.callee curve layout protocol call w₁ = some w₂ →
      ∃ ix position bump,
        (∃ data, call.instruction.data = .bytes data ∧
          AdapterInstruction.decode data = .ok ix) ∧
        call.instruction.accounts[1]?.map (·.pubkey) = some position ∧
        call.instruction.accounts[ix.stateSlot]?.map (·.pubkey) =
          some (.pda adapter.programId (adapterStateSeeds adapter.programId position) bump)

section Gate

variable {curve : Curve} {log : List Governance} {w : Chain} {request : Request}

/-- The entry a gate was passed with is the adapter's, and the history admits it. -/
private theorem listed_of_gate (h : Recorded curve log w) {adapterEntry : Loaded AdapterEntry}
    {adapterProgram : AccountInfo}
    (gate : Gate curve request.ctx w.fresh adapterEntry adapterProgram) :
    Listed curve log adapterEntry.key adapterEntry.data ∧
      adapterEntry.data.adapterProgram = adapterProgram.key := by
  have hlisted := h.listed _ _ (World.state?_eq_some_iff_typed?.mp gate.stored)
  have hseeds := gate.seeds
  rw [request.program] at hseeds
  obtain ⟨-, hsame, -⟩ :=
    createProgramAddress_inj (findProgramAddress_create hlisted.found) hseeds
  exact ⟨hlisted, by simpa [entrySeeds] using hsame⟩

/-- A passed gate admits the call it was checked for. -/
private theorem gated_of_gate (h : Recorded curve log w) {adapterEntry : Loaded AdapterEntry}
    {adapterProgram : AccountInfo} {call : Call}
    (gate : Gate curve request.ctx w.fresh adapterEntry adapterProgram)
    (hcall : call.instruction.programId = adapterProgram.key)
    (hentry : request.ctx.accounts[entrySlot request.ix]? = some adapterEntry.info)
    (hposition : request.ix ≠ .openPosition → ∃ key p,
      call.instruction.accounts[1]?.map (·.pubkey) = some key ∧
      w.state? Position key = some p ∧ p.adapterProgram = adapterProgram.key ∧
      (request.ix ≠ .currentValue →
        call.instruction.accounts[2]?.map (·.pubkey) = some p.usdcPool)) :
    Gated curve log w request call := by
  obtain ⟨hlisted, hsame⟩ := listed_of_gate h gate
  obtain ⟨admin, hinit, hwhitelisted, hlast⟩ := hlisted.admitted
  rw [hsame, ← hcall] at hwhitelisted hlast
  refine
    { admitted := ⟨admin, hinit, fun _ hadmin => h.admin_unique hadmin hinit, hwhitelisted,
        hlast gate.active⟩
      executable := hcall ▸ gate.executable
      entry := ⟨_, _, hentry, gate.stored, hsame.trans hcall.symm⟩
      position := fun hopen => ?_
      adapterState := fun adapter hprogram layout protocol w₁ w₂ hrun =>
        Adapter.state_derived_of_callee hprogram hrun }
  obtain ⟨key, p, hkey, hstored, hadapter, hpool⟩ := hposition hopen
  refine ⟨key, p, hkey, hstored, ?_, hpool⟩
  have hopened := h.opened key p (World.state?_eq_some_iff_typed?.mp hstored)
  rwa [hadapter, ← hcall] at hopened

/-- Calls by which the dispatcher itself creates accounts and moves tokens. -/
def Native (call : Call) : Prop :=
  call.instruction.programId ∈ [systemProgramId, associatedTokenProgramId, tokenProgramId] ∧
    ∀ data, call.instruction.data ≠ .bytes data

/-- Whatever the dispatcher calls, from any state of any run and at anyone's request,
is an account creation or a token transfer of its own, or it is an adapter that the
governance history of the run admits. -/
theorem routing_gate {past : List (Chain × Option Request)} {call : Call}
    (run : HostileRun curve Unused past w) (hcall : call ∈ request.trace curve w) :
    Native call ∨ Gated curve (governanceLog curve past) w request call := by
  have h := recorded_of_run run
  have hissued := Request.issued_of_mem_trace hcall
  generalize hix : request.ix = ix at hissued
  cases hissued with
  | createRegistry | createEntry | createPosition =>
    exact .inl ⟨by simp [createAccountCall], by simp [createAccountCall]⟩
  | createPool => exact .inl ⟨by simp [createAssociatedCall], by simp [createAssociatedCall]⟩
  | fund | pay => exact .inl ⟨by simp [transferInstruction], by simp [transferInstruction]⟩
  | @initAdapter accounts _ loaded found gate version =>
    obtain ⟨_, _, hslots⟩ := loaded.slots
    refine .inr (gated_of_gate h gate rfl (by simp [hix, entrySlot, hslots]) fun hopen => ?_)
    exact absurd hix hopen
  | @deposit _ accounts accepted version =>
    obtain ⟨_, hslots⟩ := accepted.slots
    refine .inr (gated_of_gate h accepted.gate rfl (by simp [hix, entrySlot, hslots]) fun _ => ?_)
    exact ⟨accounts.position.key, accounts.position.data, rfl, accepted.position,
      accepted.program.symm, fun _ => congrArg some accepted.poolKey⟩
  | @withdraw _ accounts accepted version =>
    obtain ⟨_, hslots⟩ := accepted.slots
    refine .inr (gated_of_gate h accepted.gate rfl (by simp [hix, entrySlot, hslots]) fun _ => ?_)
    exact ⟨accounts.position.key, accounts.position.data, rfl, accepted.position,
      accepted.program.symm, fun _ => congrArg some accepted.poolKey⟩
  | @value accounts accepted version =>
    have hslots := accepted.slots
    refine .inr (gated_of_gate h accepted.gate rfl (by simp [hix, entrySlot, hslots]) fun _ => ?_)
    exact ⟨accounts.position.key, accounts.position.data, rfl, accepted.position,
      accepted.program.symm, fun hread => absurd hix hread⟩

end Gate

/-! ### From an unused chain to an open position -/

namespace Sample

def admin : Pubkey := .key 9

def registryKey : Pubkey := .pda dispatcherId registrySeeds 255

/-- Programs that do nothing when called. -/
def idle : Callee ProgramState Event := fun _ w => some w

theorem idle_lawful : Lawful (· = dispatcherId) idle := by
  intro call w w' h
  obtain rfl := Option.some.inj h
  exact .refl w

def founding : Request :=
  request [signer admin, writable registryKey, readonly systemProgramId] .initializeRegistry idle
    (by decide)

def listing : Request :=
  request [signer admin, writable registryKey, writable (entryKey (.key 6)), readonly (.key 6),
    readonly systemProgramId] (.whitelistAdapter "x" 1) idle (by decide)

/-- Pause or unpause the adapter. -/
def pausing (paused : Bool) : Request :=
  request [signer admin, readonly registryKey, writable (entryKey (.key 6))]
    (.pauseAdapter paused) idle (by decide)

def joining : Request :=
  request (openAccounts (.key 6) (.key 8) []) .openPosition idle (by decide)

/-- The programs and the mint, before the dispatcher was ever used. -/
def unused : Chain :=
  World.ofAccounts [(systemProgramId, program), (tokenProgramId, program),
    (associatedTokenProgramId, program), (.key 6, program),
    (usdcMint, ⟨tokenProgramId, false, .mint ⟨none, 0, 6, none⟩⟩)]

def founded : Chain := founding.apply curve unused

def admitted : Chain := listing.apply curve founded

def suspended : Chain := (pausing true).apply curve admitted

def resumed : Chain := (pausing false).apply curve suspended

/-- The governance of the run, newest first. -/
def governed : List (Chain × Option Request) :=
  [(suspended, some (pausing false)), (admitted, some (pausing true)), (founded, some listing),
    (unused, some founding)]

theorem unused_unused : Unused unused := by
  intro key
  unfold World.typed?
  split
  · rename_i owner executable s hstored
    have hmem := World.mem_of_ofAccounts hstored
    simp [program] at hmem
  · rfl

theorem governed_run : HostileRun curve Unused governed resumed :=
  .step (.step (.step (.step (.start unused_unused) (.request _ idle_lawful))
    (.request _ idle_lawful)) (.request _ idle_lawful)) (.request _ idle_lawful)

/-- The gate after that run, passed by the call that sets up the adapter of a new position. -/
theorem routing_gate_joining :
    governanceLog curve governed =
      [.paused admin (.key 6) false, .paused admin (.key 6) true, .whitelisted admin (.key 6) 1,
        .initialized admin] ∧
    Gated curve (governanceLog curve governed) resumed joining
      ⟨joining.ctx.sysvar, joining.ctx.stack, initializeInstruction (readonly (.key 6))
        (readonly sysvarInstructionsId) (writable (positionKey (.key 6))) (writable (.key 8))
        (signer alice) (readonly systemProgramId) []⟩ := by
  refine ⟨by decide +kernel, ?_⟩
  -- a call that carries instruction bytes is none of the dispatcher's own
  exact (routing_gate governed_run (by decide +kernel)).resolve_left fun hnative => hnative.2 _ rfl

end Sample

end YieldAdapter.Dispatcher

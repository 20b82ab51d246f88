import YieldAdapter.Dispatcher.EventLog
import YieldAdapter.Dispatcher.Pool
import YieldAdapter.Dispatcher.Staleness

/-!
# What the dispatcher cannot refuse

Every check that compares an account with what was stored earlier (its address with the
stored bump, the version of an entry, the owner of an account written back) has been made
good by the step that stored it. In a state that was reached, an instruction therefore
completes exactly when its caller brings the right accounts and signatures and the programs
called do their part; nothing that happened before can stand in the way.
-/

set_option autoImplicit false

namespace YieldAdapter.Dispatcher

open Solana

/-! ### Loading -/

section Loading

variable {curve : Curve} {ctx : Context} {w w' : Chain}

theorem PauseAdapter.load_iff {accounts : PauseAdapter} :
    PauseAdapter.load ctx w = .ok accounts ↔
      (∃ tail, ctx.accounts =
        accounts.admin :: accounts.registry.info :: accounts.adapterEntry.info :: tail) ∧
      accounts.admin.isSigner = true ∧
      w.state? Registry accounts.registry.key = some accounts.registry.data ∧
      w.state? AdapterEntry accounts.adapterEntry.key = some accounts.adapterEntry.data := by
  refine ⟨PauseAdapter.load_ok, ?_⟩
  rintro ⟨⟨tail, hslots⟩, hsigned, hregistry, hentry⟩
  unfold PauseAdapter.load
  rw [hslots]
  simp only [except_bind_ok, checkSigner_ok, loadState_ok]
  exact ⟨(), hsigned, accounts.registry, ⟨rfl, hregistry⟩, accounts.adapterEntry, ⟨rfl, hentry⟩,
    rfl⟩

theorem PauseAdapter.constraints_iff {accounts : PauseAdapter} {u : Unit} :
    accounts.constraints curve ctx = .ok u ↔
      createProgramAddress curve ctx.programId registrySeeds accounts.registry.data.bump =
        some accounts.registry.key ∧
      accounts.registry.data.admin = accounts.admin.key ∧
      createProgramAddress curve ctx.programId
        (entrySeeds accounts.adapterEntry.data.adapterProgram) accounts.adapterEntry.data.bump =
          some accounts.adapterEntry.key ∧
      accounts.adapterEntry.info.isWritable = true := by
  simp [PauseAdapter.constraints, checkRegistrySeeds, checkAdmin, except_bind_ok, check_ok]

theorem InitializeRegistry.load_iff {accounts : InitializeRegistry} :
    InitializeRegistry.load ctx w = .ok accounts ↔
      (∃ tail, ctx.accounts =
        accounts.admin :: accounts.registry :: accounts.systemProgram :: tail) ∧
      accounts.admin.isSigner = true ∧ accounts.systemProgram.key = systemProgramId ∧
      w.executable systemProgramId = true := by
  constructor
  · intro h
    obtain ⟨⟨tail, hslots⟩, hsigned⟩ := InitializeRegistry.load_ok h
    unfold InitializeRegistry.load at h
    rw [hslots] at h
    simp only [except_bind_ok, checkProgram_ok] at h
    obtain ⟨_, -, _, ⟨hkey, hexecutable⟩, -⟩ := h
    exact ⟨⟨tail, hslots⟩, hsigned, hkey, hkey ▸ hexecutable⟩
  · rintro ⟨⟨tail, hslots⟩, hsigned, hkey, hexecutable⟩
    unfold InitializeRegistry.load
    rw [hslots]
    simp only [except_bind_ok, checkSigner_ok, checkProgram_ok]
    exact ⟨(), hsigned, (), ⟨hkey, hkey ▸ hexecutable⟩, rfl⟩

theorem WhitelistAdapter.load_iff {accounts : WhitelistAdapter} :
    WhitelistAdapter.load ctx w = .ok accounts ↔
      (∃ tail, ctx.accounts =
        accounts.admin :: accounts.registry.info :: accounts.adapterEntry ::
          accounts.adapterProgram :: accounts.systemProgram :: tail) ∧
      accounts.admin.isSigner = true ∧
      w.state? Registry accounts.registry.key = some accounts.registry.data ∧
      accounts.systemProgram.key = systemProgramId ∧ w.executable systemProgramId = true := by
  constructor
  · intro h
    obtain ⟨⟨tail, hslots⟩, hsigned, hregistry⟩ := WhitelistAdapter.load_ok h
    unfold WhitelistAdapter.load at h
    rw [hslots] at h
    simp only [except_bind_ok, checkProgram_ok] at h
    obtain ⟨_, -, _, -, _, ⟨hkey, hexecutable⟩, -⟩ := h
    exact ⟨⟨tail, hslots⟩, hsigned, hregistry, hkey, hkey ▸ hexecutable⟩
  · rintro ⟨⟨tail, hslots⟩, hsigned, hregistry, hkey, hexecutable⟩
    unfold WhitelistAdapter.load
    rw [hslots]
    simp only [except_bind_ok, checkSigner_ok, loadState_ok, checkProgram_ok]
    exact ⟨(), hsigned, accounts.registry, ⟨rfl, hregistry⟩, (), ⟨hkey, hkey ▸ hexecutable⟩, rfl⟩

theorem WhitelistAdapter.constraints_iff {accounts : WhitelistAdapter} {u : Unit} :
    accounts.constraints curve ctx w = .ok u ↔
      accounts.admin.isWritable = true ∧
      createProgramAddress curve ctx.programId registrySeeds accounts.registry.data.bump =
        some accounts.registry.key ∧
      accounts.registry.info.isWritable = true ∧
      accounts.registry.data.admin = accounts.admin.key ∧
      w.executable accounts.adapterProgram.key = true := by
  simp [WhitelistAdapter.constraints, checkRegistrySeeds, checkAdmin, except_bind_ok, check_ok]

end Loading

/-- A program that does not call itself can call whatever is not running yet. -/
theorem callable_iff {ctx : Context} (hentered : ctx.programId ∉ ctx.callers) {key : Pubkey} :
    (key ∉ ctx.callers ∨ key = ctx.programId) ↔ key ∉ ctx.callers :=
  or_iff_left_of_imp fun hkey => hkey ▸ hentered

/-! ### Governance -/

/-- The registry is handed in under its admin's signature. -/
structure Governs (w : Chain) (admin registry : AccountInfo) : Prop where
  signed : admin.isSigner = true
  governs : ∃ r, w.state? Registry registry.key = some r ∧ r.admin = admin.key

/-- The accounts with which the registry can be founded. -/
structure Foundable (curve : Curve) (ctx : Context) (w : Chain)
    (admin registry systemProgram : AccountInfo) : Prop where
  slots : ∃ rest, ctx.accounts = admin :: registry :: systemProgram :: rest
  signed : admin.isSigner = true
  payer : admin.isWritable = true
  system : systemProgram.key = systemProgramId ∧ w.executable systemProgramId = true ∧
    systemProgramId ∉ ctx.callers
  found : ∃ bump, findProgramAddress curve dispatcherId registrySeeds = some (registry.key, bump)
  vacant : w.accounts registry.key = none
  created : ctx.Writable registry.key

/-- The accounts with which an adapter's switch can be moved. -/
structure Switchable (ctx : Context) (w : Chain) (admin registry adapterEntry : AccountInfo)
    (e : AdapterEntry) : Prop where
  slots : ∃ rest, ctx.accounts = admin :: registry :: adapterEntry :: rest
  governs : Governs w admin registry
  stored : w.state? AdapterEntry adapterEntry.key = some e
  writable : adapterEntry.isWritable = true

/-- The accounts with which an adapter can be listed. -/
structure Listable (curve : Curve) (ctx : Context) (w : Chain)
    (admin registry adapterEntry adapterProgram systemProgram : AccountInfo) : Prop where
  slots : ∃ rest, ctx.accounts =
    admin :: registry :: adapterEntry :: adapterProgram :: systemProgram :: rest
  governs : Governs w admin registry
  payer : admin.isWritable = true
  counter : registry.isWritable = true
  system : systemProgram.key = systemProgramId ∧ w.executable systemProgramId = true ∧
    systemProgramId ∉ ctx.callers
  found : ∃ bump, findProgramAddress curve dispatcherId (entrySeeds adapterProgram.key) =
    some (adapterEntry.key, bump)
  vacant : w.accounts adapterEntry.key = none
  created : ctx.Writable adapterEntry.key
  executable : w.executable adapterProgram.key = true

section Governance

variable {curve : Curve} {w : Chain} {entries : List Pubkey} {request : Request}

/-- An account is paid for and created with the signatures it takes. -/
theorem creates_of_slots {ctx : Context} {payer info : AccountInfo} (hpayer : payer ∈ ctx.accounts)
    (hinfo : info ∈ ctx.accounts) (hsigned : payer.isSigner = true)
    (hwritable : payer.isWritable = true) (hcreated : ctx.Writable info.key) :
    ctx.allows [info.key] (.new payer.key true) = true ∧
      ctx.allows [info.key] (.new info.key true) = true :=
  ⟨Context.allows_of_mem hpayer rfl (fun _ => hsigned) fun _ => hwritable,
    Context.allows_iff.mpr ⟨⟨info, hinfo, rfl⟩, fun _ => .inl (List.mem_singleton.mpr rfl),
      fun _ => hcreated⟩⟩

/-- Whoever comes first can found the registry. -/
theorem founding_done_iff (hix : request.ix = .initializeRegistry) :
    request.Done curve w ↔
      ∃ admin registry systemProgram,
        Foundable curve request.ctx w admin registry systemProgram := by
  have hprogram := request.program
  rw [Request.done_iff, hix]
  simp only [entry, initializeRegistry, Exec.bind_ok, Exec.read_ok, Exec.ofExcept_ok, checkMut_ok,
    store_ok, InitializeRegistry.load_iff, initState_ok_iff, callable_iff request.own_entered]
  constructor
  · rintro ⟨_, _, _, ⟨rfl, rfl⟩, accounts, _, ⟨⟨hslots, hsigned, hkey, hsystem⟩, rfl⟩, bump, _,
      ⟨hfound, hidle, -, hcreated, hvacant, -⟩, _, _, ⟨hpayer, -⟩, -⟩
    rw [hprogram] at hfound
    exact ⟨_, _, _, hslots, hsigned, hpayer, ⟨hkey, hsystem, hidle⟩, ⟨bump, hfound⟩, hvacant,
      (Context.allows_iff.mp hcreated).2.2 rfl⟩
  · rintro ⟨admin, registry, systemProgram, ⟨tail, hslots⟩, hsigned, hpayer,
      ⟨hkey, hsystem, hidle⟩, ⟨bump, hfound⟩, hvacant, hcreated⟩
    rw [← hprogram] at hfound
    obtain ⟨hallowed, hderived⟩ := creates_of_slots (by simp [hslots]) (by simp [hslots]) hsigned
      hpayer hcreated
    refine ⟨_, _, _, ⟨rfl, rfl⟩, ⟨admin, registry, systemProgram⟩, _,
      ⟨⟨⟨tail, hslots⟩, hsigned, hkey, hsystem⟩, rfl⟩, bump, _,
      ⟨hfound, hidle, hallowed, hderived, hvacant, rfl⟩, (), _, ⟨hpayer, rfl⟩, ?_, rfl⟩
    simp [World.ownedBy]

/-- Among the accounts of a roster, an entry can be switched whatever was done to it before. -/
theorem Roster.switching_done_iff (h : Roster curve w entries) {paused : Bool}
    (hix : request.ix = .pauseAdapter paused) :
    request.Done curve w ↔
      ∃ admin registry adapterEntry e, Switchable request.ctx w admin registry adapterEntry e := by
  have hprogram := request.program
  rw [Request.done_iff, hix]
  simp only [entry, pauseAdapter, emit, Exec.bind_ok, Exec.read_ok, Exec.ofExcept_ok,
    Exec.modify_ok, store_ok, PauseAdapter.load_iff, PauseAdapter.constraints_iff]
  constructor
  · rintro ⟨_, _, _, ⟨rfl, rfl⟩, accounts, _, ⟨⟨hslots, hsigned, hregistry, hentry⟩, rfl⟩, _, _,
      ⟨⟨-, hadmin, -, hwritable⟩, rfl⟩, -⟩
    exact ⟨_, _, _, _, hslots, ⟨hsigned, _, hregistry, hadmin⟩, hentry, hwritable⟩
  · rintro ⟨admin, registry, adapterEntry, e, hslots, ⟨hsigned, r, hregistry, hadmin⟩, hentry,
      hwritable⟩
    have hfounded := h.founded _ _ (World.state?_eq_some_iff_typed?.mp hregistry)
    have hentered := (h.entered _ _ (World.state?_eq_some_iff_typed?.mp hentry)).found
    rw [← hprogram] at hfounded hentered
    refine ⟨_, _, _, ⟨rfl, rfl⟩, ⟨admin, ⟨registry, r⟩, ⟨adapterEntry, e⟩⟩, _,
      ⟨⟨hslots, hsigned, hregistry, hentry⟩, rfl⟩, (), _,
      ⟨⟨findProgramAddress_create hfounded, hadmin, findProgramAddress_create hentered,
        hwritable⟩, rfl⟩, (), _, rfl, ?_, rfl⟩
    rw [hprogram]
    exact World.ownedBy_of_state? hentry

/-- While there is room the counter does not overflow. -/
theorem exists_counted {n : UInt32} (hroom : n < maxAdapters) :
    ∃ count, checkedAddU32 n 1 = some count := by
  have hlt : n.toNat < maxAdapters.toNat := UInt32.lt_iff_toNat_lt.mp hroom
  have hmax : maxAdapters.toNat = 256 := by decide
  have hfits : n.toNat + (1 : UInt32).toNat < 2 ^ 32 := by
    rw [UInt32.toNat_one]
    omega
  exact ⟨n + 1, if_pos hfits⟩

/-- An adapter that is not listed can be listed while there is room. -/
theorem Roster.listing_done_iff (h : Roster curve w entries) {name : String}
    {interfaceVersion : UInt8} (hix : request.ix = .whitelistAdapter name interfaceVersion) :
    request.Done curve w ↔
      (∃ admin registry adapterEntry adapterProgram systemProgram,
        Listable curve request.ctx w admin registry adapterEntry adapterProgram systemProgram) ∧
      name.utf8ByteSize ≤ maxNameLen ∧ interfaceVersion = adapterInterfaceVersion ∧
      entries.length < maxAdapters.toNat := by
  have hprogram := request.program
  rw [Request.done_iff, hix]
  simp only [entry, whitelistAdapter, emit, Exec.bind_ok, Exec.read_ok, Exec.ofExcept_ok,
    Exec.require_ok, Exec.ofOption_ok, Exec.modify_ok, store_ok, WhitelistAdapter.load_iff,
    WhitelistAdapter.constraints_iff, initState_ok_iff, callable_iff request.own_entered]
  constructor
  · rintro ⟨_, _, _, ⟨rfl, rfl⟩, accounts, _, ⟨⟨hslots, hsigned, hregistry, hsystem'⟩, rfl⟩, bump,
      _, ⟨hfound, hidle, -, hcreated, hvacant, -⟩, _, _,
      ⟨⟨hpayer, -, hcounter, hadmin, hexecutable⟩, rfl⟩, _, _, ⟨hshort, rfl⟩, _, _,
      ⟨hversion, rfl⟩, _, _, ⟨hroom, rfl⟩, -⟩
    have hcounted := h.counted _ _ (World.state?_eq_some_iff_typed?.mp hregistry)
    rw [hprogram] at hfound
    refine ⟨⟨_, _, _, _, _, hslots, ⟨hsigned, _, hregistry, hadmin⟩, hpayer, hcounter,
      ⟨hsystem'.1, hsystem'.2, hidle⟩, ⟨bump, hfound⟩, hvacant,
      (Context.allows_iff.mp hcreated).2.2 rfl, hexecutable⟩, hshort, hversion, ?_⟩
    rw [← hcounted]
    exact UInt32.lt_iff_toNat_lt.mp hroom
  · rintro ⟨⟨admin, registry, adapterEntry, adapterProgram, systemProgram, ⟨tail, hslots⟩,
      ⟨hsigned, r, hregistry, hadmin⟩, hpayer, hcounter, ⟨hkey, hsystem', hidle⟩, ⟨bump, hfound⟩,
      hvacant, hcreated, hexecutable⟩, hshort, hversion, hroom⟩
    have hfounded := h.founded _ _ (World.state?_eq_some_iff_typed?.mp hregistry)
    have hcounted := h.counted _ _ (World.state?_eq_some_iff_typed?.mp hregistry)
    have howned : w.ownedBy dispatcherId registry.key = true := World.ownedBy_of_state? hregistry
    rw [← hprogram] at hfounded hfound howned
    have hlt : r.adapterCount < maxAdapters :=
      UInt32.lt_iff_toNat_lt.mpr (by rw [hcounted]; exact hroom)
    obtain ⟨count, hcount⟩ := exists_counted hlt
    have hne : registry.key ≠ adapterEntry.key := by
      intro hsame
      rw [hsame] at howned
      simp [World.ownedBy, hvacant] at howned
    obtain ⟨hallowed, hderived⟩ := creates_of_slots (by simp [hslots]) (by simp [hslots]) hsigned
      hpayer hcreated
    refine ⟨_, _, _, ⟨rfl, rfl⟩,
      ⟨admin, ⟨registry, r⟩, adapterEntry, adapterProgram, systemProgram⟩, _,
      ⟨⟨⟨tail, hslots⟩, hsigned, hregistry, hkey, hsystem'⟩, rfl⟩, bump, _,
      ⟨hfound, hidle, hallowed, hderived, hvacant, rfl⟩, (), _,
      ⟨⟨hpayer, findProgramAddress_create hfounded, hcounter, hadmin, hexecutable⟩, rfl⟩, (), _,
      ⟨hshort, rfl⟩, (), _, ⟨hversion, rfl⟩, (), _, ⟨hlt, rfl⟩, _, _, ⟨rfl, rfl⟩, count, _,
      ⟨hcount, rfl⟩, (), _, rfl, (), _, ⟨?_, rfl⟩, ?_, rfl⟩
    · simpa [World.ownedBy, hne] using howned
    · simp [World.ownedBy, hne.symm]

/-- Switching an adapter moves its switch to where it was asked to be. -/
theorem Roster.switch_of_done (h : Roster curve w entries) {paused : Bool}
    (hix : request.ix = .pauseAdapter paused) (hdone : request.Done curve w) {entry : Pubkey}
    {e : AdapterEntry} (hslot : request.ctx.accounts[2]?.map (·.key) = some entry)
    (hstored : w.state? AdapterEntry entry = some e) :
    switch curve (request.apply curve w) e.adapterProgram = some (!paused) := by
  have hfound := (h.entered _ _ (World.state?_eq_some_iff_typed?.mp hstored)).found
  have hcompleted := Request.completed_of_done hdone
  have hprogram := request.program
  generalize request.apply curve w = w' at hcompleted
  rw [hix] at hcompleted
  cases hcompleted with
  | @pauseAdapter _ accounts loaded passed owned =>
    obtain ⟨⟨_, hslots⟩, -, -, -⟩ := PauseAdapter.load_ok loaded
    obtain rfl : accounts.adapterEntry.key = entry := by
      rw [hslots] at hslot
      exact Option.some.inj hslot
    have hwritten : (written request.ctx accounts.adapterEntry.key
        { accounts.adapterEntry.data with isActive := !paused }
        (announced request.ctx (.adapterPaused accounts.adapterEntry.data.adapterProgram (!paused))
          w.fresh)).state? AdapterEntry accounts.adapterEntry.key =
            some { accounts.adapterEntry.data with isActive := !paused } :=
      World.state?_put_self hprogram
    simp [switch, hfound, hwritten]

/-- In every state that was reached, whatever happened on the way: the admin can switch every
adapter that is listed, and can list any program that is not, as long as fewer than 256 are;
for nobody else does either complete. The registry can be founded while its address is vacant. -/
theorem governance_available {past : List (Chain × Option Request)}
    (run : HostileRun curve Unfounded past w) :
    ∃ entries : List Pubkey, entries.Nodup ∧
      (∀ key, key ∈ entries ↔ (w.state? AdapterEntry key).isSome = true) ∧
      ∀ request : Request,
        (request.ix = .initializeRegistry → (request.Done curve w ↔
          ∃ admin registry systemProgram,
            Foundable curve request.ctx w admin registry systemProgram)) ∧
        (∀ paused, request.ix = .pauseAdapter paused →
          (request.Done curve w ↔ ∃ admin registry adapterEntry e,
            Switchable request.ctx w admin registry adapterEntry e) ∧
          ∀ admin registry adapterEntry e,
            Switchable request.ctx w admin registry adapterEntry e →
              switch curve (request.apply curve w) e.adapterProgram = some (!paused)) ∧
        ∀ name interfaceVersion, request.ix = .whitelistAdapter name interfaceVersion →
          (request.Done curve w ↔
            (∃ admin registry adapterEntry adapterProgram systemProgram,
              Listable curve request.ctx w admin registry adapterEntry adapterProgram
                systemProgram) ∧
            name.utf8ByteSize ≤ maxNameLen ∧ interfaceVersion = adapterInterfaceVersion ∧
            entries.length < maxAdapters.toNat) := by
  obtain ⟨entries, hroster⟩ := roster_of_run run
  refine ⟨entries, hroster.nodup, fun key => ?_, fun request => ⟨founding_done_iff,
    fun paused hix => ?_, fun name interfaceVersion hix => hroster.listing_done_iff hix⟩⟩
  · rw [hroster.mem_iff, Option.isSome_iff_exists]
    exact exists_congr fun e => (World.state?_eq_some_iff_typed? (τ := AdapterEntry)).symm
  · refine ⟨hroster.switching_done_iff hix, fun admin registry adapterEntry e hready => ?_⟩
    obtain ⟨_, hslots⟩ := hready.slots
    refine hroster.switch_of_done hix
      ((hroster.switching_done_iff hix).mpr ⟨admin, registry, adapterEntry, e, hready⟩) ?_
      hready.stored
    rw [hslots]
    rfl

end Governance

/-! ### Deposits and withdrawals -/

/-- The accounts of a deposit or a withdrawal as its caller has to bring them: the owner's
signature, the entry of an adapter that is on, the owner's position in it with the pool it
names, a token account of the owner's, and all that may change writable. -/
structure Deposit.Presented (ctx : Context) (w : Chain) (accounts : Deposit) : Prop where
  slots : ∃ tokenProgram, tokenProgram.key = tokenProgramId ∧ ctx.accounts =
    accounts.owner :: accounts.adapterEntry.info :: accounts.adapterProgram ::
      accounts.position.info :: accounts.positionUsdcPool.info :: accounts.ownerUsdcAta.info ::
        accounts.adapterState :: accounts.instructionsSysvar :: tokenProgram ::
          accounts.remainingAccounts
  token : w.executable tokenProgramId = true
  signed : accounts.owner.isSigner = true
  entry : w.state? AdapterEntry accounts.adapterEntry.key = some accounts.adapterEntry.data
  on : accounts.adapterEntry.data.isActive = true
  listed : accounts.adapterEntry.data.adapterProgram = accounts.adapterProgram.key
  executable : w.executable accounts.adapterProgram.key = true
  position : w.state? Position accounts.position.key = some accounts.position.data
  owner : accounts.position.data.owner = accounts.owner.key
  program : accounts.position.data.adapterProgram = accounts.adapterProgram.key
  pool : w.token? accounts.positionUsdcPool.key = some accounts.positionUsdcPool.data
  poolKey : accounts.positionUsdcPool.key = accounts.position.data.usdcPool
  ata : w.token? accounts.ownerUsdcAta.key = some accounts.ownerUsdcAta.data
  ataAuthority : accounts.ownerUsdcAta.data.authority = accounts.owner.key
  ataMint : accounts.ownerUsdcAta.data.mint = accounts.position.data.usdcMint
  sysvar : accounts.instructionsSysvar.key = sysvarInstructionsId
  writable : ∀ account ∈ [accounts.owner, accounts.position.info, accounts.positionUsdcPool.info,
    accounts.ownerUsdcAta.info, accounts.adapterState], account.isWritable = true

/-- The call a deposit or a withdrawal makes to the adapter. -/
def Deposit.routed (accounts : Deposit) (data : Bytes) : Instruction :=
  fundMovementInstruction accounts.adapterProgram accounts.instructionsSysvar
    accounts.position.info accounts.positionUsdcPool.info accounts.adapterState
    accounts.remainingAccounts data

section Funds

variable {curve : Curve} {exec : Callee ProgramState Event} {ctx : Context} {w w' : Chain}
variable {entries : List Pubkey} {request : Request} {accounts : Deposit} {data : Bytes}

/-- In a state that was reached the seeds and the version need no looking at. -/
theorem Deposit.presented_iff (hroster : Roster curve w entries) (hplaced : Placed curve w)
    (hprogram : ctx.programId = dispatcherId) :
    accounts.Presented ctx w ↔
      Deposit.load ctx w = .ok accounts ∧ accounts.constraints curve ctx w = .ok () ∧
        accounts.adapterEntry.data.interfaceVersion = adapterInterfaceVersion := by
  constructor
  · intro h
    obtain ⟨tokenProgram, htoken, hslots⟩ := h.slots
    have hentered := hroster.entered _ _ (World.state?_eq_some_iff_typed?.mp h.entry)
    have hentry := findProgramAddress_create hentered.found
    have hposition := findProgramAddress_create (hplaced _ _ h.position)
    have hwritable := h.writable
    rw [h.listed, ← hprogram] at hentry
    rw [h.owner, h.program, ← hprogram] at hposition
    simp only [List.forall_mem_cons] at hwritable
    refine ⟨?_, ?_, hentered.version⟩
    · unfold Deposit.load
      rw [hslots]
      simp only [except_bind_ok, checkSigner_ok, loadState_ok, loadToken_ok, checkProgram_ok]
      exact ⟨(), h.signed, accounts.adapterEntry, ⟨rfl, h.entry⟩, accounts.position,
        ⟨rfl, h.position⟩, accounts.positionUsdcPool, ⟨rfl, h.pool⟩, accounts.ownerUsdcAta,
        ⟨rfl, h.ata⟩, (), ⟨htoken, by rw [htoken]; exact h.token⟩, rfl⟩
    · simp only [Deposit.constraints, checkAdapterProgram, except_bind_ok, checkActiveEntry_ok,
        check_ok, checkMut_ok, checkExecutable_ok, checkSeeds_ok, checkAddress_ok]
      exact ⟨(), hwritable.1, (), ⟨hentry, h.on⟩, (), ⟨(), h.program.symm, h.executable⟩, (),
        hposition, (), hwritable.2.1, (), h.owner, (), hwritable.2.2.1, (), h.poolKey, (),
        hwritable.2.2.2.1, (), h.ataAuthority, (), h.ataMint, (), hwritable.2.2.2.2.1, h.sysvar⟩
  · rintro ⟨hload, hconstraints, -⟩
    have haccepted := Deposit.accepted_of_load hload hconstraints
    obtain ⟨tokenProgram, hslots⟩ := haccepted.slots
    have hentered := hroster.entered _ _
      (World.state?_eq_some_iff_typed?.mp haccepted.gate.stored)
    have hseeds := haccepted.gate.seeds
    rw [hprogram] at hseeds
    obtain ⟨-, hlisted, -⟩ :=
      createProgramAddress_inj hseeds (findProgramAddress_create hentered.found)
    unfold Deposit.load at hload
    rw [hslots] at hload
    simp only [except_bind_ok, checkProgram_ok] at hload
    obtain ⟨_, -, _, -, _, -, _, -, _, -, _, ⟨htoken, hexecutable⟩, -⟩ := hload
    simp only [Deposit.constraints, checkAdapterProgram, except_bind_ok,
      checkMut_ok] at hconstraints
    obtain ⟨_, howner, _, -, _, -, _, -, _, hposition, _, -, _, hpool, _, -, _, hata, _, -, _, -, _,
      hstate, -⟩ := hconstraints
    exact ⟨⟨tokenProgram, htoken, hslots⟩, htoken ▸ hexecutable, haccepted.signed,
      haccepted.gate.stored, haccepted.gate.active, (entrySeeds_inj hlisted).symm,
      haccepted.gate.executable, haccepted.position, haccepted.owner, haccepted.program.symm,
      haccepted.pool, haccepted.poolKey, haccepted.ata, haccepted.ataAuthority,
      haccepted.ataMint, haccepted.sysvar, by simp [howner, hposition, hpool, hata, hstate]⟩

theorem Roster.presented_iff (h : Roster curve w entries) (hplaced : Placed curve w) :
    accounts.Presented request.ctx w ↔
      Deposit.load request.ctx w.fresh = .ok accounts ∧
        accounts.constraints curve request.ctx w.fresh = .ok () ∧
        accounts.adapterEntry.data.interfaceVersion = adapterInterfaceVersion :=
  Deposit.presented_iff h hplaced request.program

/-- A position signs with the seeds it is stored under. -/
theorem Placed.signs (hplaced : Placed curve w) (hprogram : ctx.programId = dispatcherId)
    (h : accounts.Presented ctx w) :
    signerPdas curve ctx.programId (signerSeeds accounts.position.data) =
      some [accounts.position.key] := by
  have hseeds := findProgramAddress_create (hplaced _ _ h.position)
  rw [← hprogram] at hseeds
  simp [signerPdas, signerSeeds, hseeds]

/-- Nothing is asked of the adapter for which the caller did not bring the privilege. -/
theorem Deposit.Presented.allowed (h : accounts.Presented ctx w) :
    ∀ account ∈ (accounts.routed data).accounts,
      ctx.allows [accounts.position.key] account = true := by
  obtain ⟨tokenProgram, -, hslots⟩ := h.slots
  have hlisted : ∀ info ∈ accounts.owner :: accounts.adapterEntry.info ::
      accounts.adapterProgram :: accounts.position.info :: accounts.positionUsdcPool.info ::
        accounts.ownerUsdcAta.info :: accounts.adapterState :: accounts.instructionsSysvar ::
          tokenProgram :: accounts.remainingAccounts, info ∈ ctx.accounts := by
    rw [hslots]
    exact fun _ => id
  simp only [List.forall_mem_cons] at hlisted
  obtain ⟨-, -, -, hposition, hpool, -, hstate, hsysvar, -, hremaining⟩ := hlisted
  have hwritable := h.writable
  simp only [List.forall_mem_cons] at hwritable
  obtain ⟨-, hposition', hpool', -, hstate', -⟩ := hwritable
  intro account hmem
  rcases List.mem_append.mp hmem with hfixed | hforwarded
  · simp only [AccountMeta.newReadonly, AccountMeta.new, List.mem_cons, List.not_mem_nil,
      or_false] at hfixed
    rcases hfixed with rfl | rfl | rfl | rfl
    · exact Context.allows_of_mem hsysvar rfl (by simp) (by simp)
    · refine Context.allows_iff.mpr ⟨⟨_, hposition, rfl⟩, fun _ => ?_, fun _ => ?_⟩
      · exact .inl (List.mem_singleton.mpr rfl)
      · exact ⟨_, hposition, rfl, hposition'⟩
    · exact Context.allows_of_mem hpool rfl (by simp) fun _ => hpool'
    · exact Context.allows_of_mem hstate rfl (by simp) fun _ => hstate'
  · obtain ⟨info, hinfo, rfl⟩ := List.mem_map.mp hforwarded
    exact Context.allows_of_mem (hremaining info hinfo) rfl id id

/-- The adapter is called exactly when it is not running already, and answers or not. -/
theorem Deposit.Presented.fundMovement_iff (h : accounts.Presented ctx w)
    (hplaced : Placed curve w) (hprogram : ctx.programId = dispatcherId)
    (hentered : ctx.programId ∉ ctx.callers) {v v' : Chain} :
    fundMovementIx curve exec ctx data accounts.adapterProgram accounts.instructionsSysvar
        accounts.position.info accounts.positionUsdcPool.info accounts.adapterState
        accounts.remainingAccounts (signerSeeds accounts.position.data) v = (.ok (), v') ↔
      accounts.adapterProgram.key ∉ ctx.callers ∧
        v.answered exec ctx (accounts.routed data) = some v' := by
  refine invokeSigned_ok_iff.trans ⟨?_, ?_⟩
  · rintro ⟨pdas, -, hidle, -, hanswered⟩
    exact ⟨(callable_iff hentered).mp hidle, hanswered⟩
  · rintro ⟨hidle, hanswered⟩
    exact ⟨_, hplaced.signs hprogram h, .inl hidle, h.allowed, hanswered⟩

/-- Whoever holds or derives the authority's signature can have a transfer made. -/
theorem transfer_iff {source destination authority : AccountInfo} {amount : UInt64}
    {signerSeeds : List (Seeds × UInt8)} {pdas : List Pubkey} {v v' : Chain}
    (hentered : ctx.programId ∉ ctx.callers)
    (hpdas : signerPdas curve ctx.programId signerSeeds = some pdas)
    (hhanded : ∀ info ∈ [source, destination, authority], info ∈ ctx.accounts)
    (hsource : source.isWritable = true) (hdestination : destination.isWritable = true)
    (hauthority : authority.key ∈ pdas ∨ authority.isSigner = true) :
    transfer curve exec ctx source destination authority amount signerSeeds v = (.ok (), v') ↔
      tokenProgramId ∉ ctx.callers ∧
        v.answered exec ctx (transferInstruction source destination authority amount) =
          some v' := by
  simp only [List.forall_mem_cons] at hhanded
  obtain ⟨hsource', hdestination', hauthority', -⟩ := hhanded
  refine invokeSigned_ok_iff.trans ⟨?_, ?_⟩
  · rintro ⟨_, -, hidle, -, hanswered⟩
    exact ⟨(callable_iff hentered).mp hidle, hanswered⟩
  · rintro ⟨hidle, hanswered⟩
    refine ⟨pdas, hpdas, .inl hidle, ?_, hanswered⟩
    simp only [transferInstruction, List.forall_mem_cons]
    refine ⟨?_, ?_, ?_, by simp⟩
    · exact Context.allows_of_mem hsource' rfl (by simp [AccountMeta.new]) fun _ => hsource
    · exact Context.allows_of_mem hdestination' rfl (by simp [AccountMeta.new]) fun _ =>
        hdestination
    · refine Context.allows_iff.mpr ⟨⟨authority, hauthority', rfl⟩, fun _ => ?_,
        by simp [AccountMeta.newReadonly]⟩
      exact hauthority.imp_right fun hsigned => ⟨authority, hauthority', rfl, hsigned⟩

variable (curve) in
/-- The owner's signature pays into the pool. -/
theorem Deposit.Presented.payIn_iff (h : accounts.Presented ctx w)
    (hentered : ctx.programId ∉ ctx.callers) {amount : UInt64} {v v' : Chain} :
    transfer curve exec ctx accounts.ownerUsdcAta.info accounts.positionUsdcPool.info
        accounts.owner amount [] v = (.ok (), v') ↔
      tokenProgramId ∉ ctx.callers ∧
        v.answered exec ctx (transferInstruction accounts.ownerUsdcAta.info
          accounts.positionUsdcPool.info accounts.owner amount) = some v' := by
  obtain ⟨tokenProgram, -, hslots⟩ := h.slots
  have hwritable := h.writable
  simp only [List.forall_mem_cons] at hwritable
  exact transfer_iff hentered rfl (by rw [hslots]; simp) hwritable.2.2.2.1 hwritable.2.2.1
    (.inr h.signed)

/-- The position's signature pays out of the pool, if there is anything to pay. -/
theorem Deposit.Presented.payOut_iff (h : accounts.Presented ctx w) (hplaced : Placed curve w)
    (hprogram : ctx.programId = dispatcherId) (hentered : ctx.programId ∉ ctx.callers)
    {amountOut : UInt64} {v : Chain} :
    (∃ v', payOut curve exec ctx accounts amountOut v = (.ok (), v')) ↔
      (0 < amountOut → tokenProgramId ∉ ctx.callers ∧
        (v.answered exec ctx (transferInstruction accounts.positionUsdcPool.info
          accounts.ownerUsdcAta.info accounts.position.info amountOut)).isSome = true) := by
  obtain ⟨tokenProgram, -, hslots⟩ := h.slots
  have hwritable := h.writable
  simp only [List.forall_mem_cons] at hwritable
  by_cases hpays : 0 < amountOut
  · simp only [payOut, hpays, ↓reduceIte, true_implies, Option.isSome_iff_exists,
      ← exists_and_left]
    refine exists_congr fun v' => transfer_iff hentered (hplaced.signs hprogram h)
      (by rw [hslots]; simp) hwritable.2.2.1 hwritable.2.2.2.1
      (.inl (List.mem_singleton.mpr rfl))
  · simp [payOut, hpays, Exec.pure_ok]

/-- A withdrawal completes exactly when its caller presents the accounts, the adapter answers
with an amount, and that amount, if any, can be paid out. -/
theorem Roster.withdrawing_done_iff (h : Roster curve w entries) (hplaced : Placed curve w)
    (hexec : Lawful (· = dispatcherId) request.exec) {shares : UInt64}
    (hix : request.ix = .withdraw shares) :
    request.Done curve w ↔
      ∃ accounts : Withdraw, accounts.Presented request.ctx w ∧ 0 < shares ∧
        accounts.adapterProgram.key ∉ request.ctx.callers ∧
        ∃ w₁ amountOut, w.fresh.answered request.exec request.ctx
            (accounts.routed (encodeWithdraw shares [])) = some w₁ ∧
          w₁.returnData = (accounts.adapterProgram.key, leBytes64 amountOut) ∧
          (0 < amountOut → tokenProgramId ∉ request.ctx.callers ∧
            (w₁.answered request.exec request.ctx (transferInstruction
              accounts.positionUsdcPool.info accounts.ownerUsdcAta.info accounts.position.info
              amountOut)).isSome = true) := by
  have hprogram := request.program
  have hentered := request.own_entered
  rw [Request.done_iff, hix]
  simp only [entry, withdraw, routeWithdraw, emit, Exec.bind_ok, Exec.read_ok, Exec.ofExcept_ok,
    Exec.require_ok, Exec.modify_ok, readReturn_ok, store_ok]
  constructor
  · rintro ⟨_, _, _, ⟨rfl, rfl⟩, accounts, _, ⟨hloaded, rfl⟩, _, _, ⟨hconstraints, rfl⟩, _, _,
      ⟨hpositive, rfl⟩, _, _, ⟨hversion, rfl⟩, amountOut, _, ⟨_, _, hrouted, hreturned, rfl⟩, _,
      w₂, hpaid, -⟩
    have hpresented := (h.presented_iff hplaced).mpr ⟨hloaded, hconstraints, hversion⟩
    obtain ⟨hidle, hanswered⟩ :=
      (hpresented.fundMovement_iff hplaced hprogram hentered).mp hrouted
    exact ⟨accounts, hpresented, hpositive, hidle, _, amountOut, hanswered, hreturned,
      (hpresented.payOut_iff hplaced hprogram hentered).mp ⟨w₂, hpaid⟩⟩
  · rintro ⟨accounts, hpresented, hpositive, hidle, w₁, amountOut, hanswered, hreturned, hpays⟩
    obtain ⟨hloaded, hconstraints, hversion⟩ := (h.presented_iff hplaced).mp hpresented
    have hrouted := (hpresented.fundMovement_iff hplaced hprogram hentered).mpr ⟨hidle, hanswered⟩
    obtain ⟨w₂, hpaid⟩ := (hpresented.payOut_iff hplaced hprogram hentered).mpr hpays
    -- no callee can take the position's account away
    have howned : w₂.state? Position accounts.position.key = some accounts.position.data := by
      rw [(payOut_framed hexec hpaid).state?_eq rfl,
        (invokeSigned_framed hexec hrouted).state?_eq rfl]
      exact hpresented.position
    refine ⟨_, _, _, ⟨rfl, rfl⟩, accounts, _, ⟨hloaded, rfl⟩, (), _, ⟨hconstraints, rfl⟩, (), _,
      ⟨hpositive, rfl⟩, (), _, ⟨hversion, rfl⟩, amountOut, _, ⟨(), _, hrouted, hreturned, rfl⟩, (),
      w₂, hpaid, (), _, rfl, ?_, rfl⟩
    rw [hprogram]
    exact World.ownedBy_of_state? howned

/-- A deposit completes exactly when its caller presents the accounts, the amount can be paid
in, and the adapter then answers with a number of shares. -/
theorem Roster.depositing_done_iff (h : Roster curve w entries) (hplaced : Placed curve w)
    (hexec : Lawful (· = dispatcherId) request.exec) {amount : UInt64}
    (hix : request.ix = .deposit amount) :
    request.Done curve w ↔
      ∃ accounts : Deposit, accounts.Presented request.ctx w ∧ 0 < amount ∧
        tokenProgramId ∉ request.ctx.callers ∧
        accounts.adapterProgram.key ∉ request.ctx.callers ∧
        ∃ w₁ w₂ shares, w.fresh.answered request.exec request.ctx (transferInstruction
            accounts.ownerUsdcAta.info accounts.positionUsdcPool.info accounts.owner amount) =
              some w₁ ∧
          w₁.answered request.exec request.ctx (accounts.routed (encodeDeposit amount [])) =
            some w₂ ∧
          w₂.returnData = (accounts.adapterProgram.key, leBytes64 shares) := by
  have hprogram := request.program
  have hentered := request.own_entered
  rw [Request.done_iff, hix]
  simp only [entry, deposit, routeDeposit, emit, Exec.bind_ok, Exec.read_ok, Exec.ofExcept_ok,
    Exec.require_ok, Exec.modify_ok, readReturn_ok, store_ok]
  constructor
  · rintro ⟨_, _, _, ⟨rfl, rfl⟩, accounts, _, ⟨hloaded, rfl⟩, _, _, ⟨hconstraints, rfl⟩, _, _,
      ⟨hpositive, rfl⟩, _, _, ⟨hversion, rfl⟩, _, w₁, hfunded, shares, _,
      ⟨_, _, hrouted, hreturned, rfl⟩, -⟩
    have hpresented := (h.presented_iff hplaced).mpr ⟨hloaded, hconstraints, hversion⟩
    obtain ⟨htoken, hpaid⟩ := (hpresented.payIn_iff curve hentered).mp hfunded
    obtain ⟨hidle, hanswered⟩ :=
      (hpresented.fundMovement_iff hplaced hprogram hentered).mp hrouted
    exact ⟨accounts, hpresented, hpositive, htoken, hidle, w₁, _, shares, hpaid, hanswered,
      hreturned⟩
  · rintro ⟨accounts, hpresented, hpositive, htoken, hidle, w₁, w₂, shares, hpaid, hanswered,
      hreturned⟩
    obtain ⟨hloaded, hconstraints, hversion⟩ := (h.presented_iff hplaced).mp hpresented
    have hfunded := (hpresented.payIn_iff curve hentered).mpr ⟨htoken, hpaid⟩
    have hrouted := (hpresented.fundMovement_iff hplaced hprogram hentered).mpr ⟨hidle, hanswered⟩
    -- no callee can take the position's account away
    have howned : w₂.state? Position accounts.position.key = some accounts.position.data := by
      rw [(invokeSigned_framed hexec hrouted).state?_eq rfl,
        (invokeSigned_framed hexec hfunded).state?_eq rfl]
      exact hpresented.position
    refine ⟨_, _, _, ⟨rfl, rfl⟩, accounts, _, ⟨hloaded, rfl⟩, (), _, ⟨hconstraints, rfl⟩, (), _,
      ⟨hpositive, rfl⟩, (), _, ⟨hversion, rfl⟩, (), _, hfunded, shares, _,
      ⟨(), _, hrouted, hreturned, rfl⟩, (), _, rfl, ?_, rfl⟩
    rw [hprogram]
    exact World.ownedBy_of_state? howned

end Funds

/-! ### Values -/

/-- The accounts of a read of the value as its caller has to bring them. -/
structure CurrentValue.Presented (ctx : Context) (w : Chain) (accounts : CurrentValue) : Prop where
  slots : ctx.accounts =
    accounts.adapterEntry.info :: accounts.adapterProgram :: accounts.position.info ::
      accounts.adapterState :: accounts.instructionsSysvar :: accounts.remainingAccounts
  entry : w.state? AdapterEntry accounts.adapterEntry.key = some accounts.adapterEntry.data
  on : accounts.adapterEntry.data.isActive = true
  listed : accounts.adapterEntry.data.adapterProgram = accounts.adapterProgram.key
  executable : w.executable accounts.adapterProgram.key = true
  position : w.state? Position accounts.position.key = some accounts.position.data
  program : accounts.position.data.adapterProgram = accounts.adapterProgram.key
  sysvar : accounts.instructionsSysvar.key = sysvarInstructionsId

section Values

variable {curve : Curve} {ctx : Context} {w : Chain} {entries : List Pubkey} {request : Request}

theorem CurrentValue.presented_iff {accounts : CurrentValue} (hroster : Roster curve w entries)
    (hplaced : Placed curve w) (hprogram : ctx.programId = dispatcherId) :
    accounts.Presented ctx w ↔ accounts.Accepted curve ctx w ∧
      accounts.adapterEntry.data.interfaceVersion = adapterInterfaceVersion := by
  constructor
  · intro h
    have hentered := hroster.entered _ _ (World.state?_eq_some_iff_typed?.mp h.entry)
    have hentry := findProgramAddress_create hentered.found
    have hposition := findProgramAddress_create (hplaced _ _ h.position)
    rw [h.listed, ← hprogram] at hentry
    rw [h.program, ← hprogram] at hposition
    exact ⟨⟨h.slots, ⟨h.entry, hentry, h.on, h.executable⟩, h.program.symm, h.position, hposition,
      h.sysvar⟩, hentered.version⟩
  · rintro ⟨haccepted, -⟩
    have hentered := hroster.entered _ _
      (World.state?_eq_some_iff_typed?.mp haccepted.gate.stored)
    have hseeds := haccepted.gate.seeds
    rw [hprogram] at hseeds
    obtain ⟨-, hlisted, -⟩ :=
      createProgramAddress_inj hseeds (findProgramAddress_create hentered.found)
    exact ⟨haccepted.slots, haccepted.gate.stored, haccepted.gate.active,
      (entrySeeds_inj hlisted).symm, haccepted.gate.executable, haccepted.position,
      haccepted.program.symm, haccepted.sysvar⟩

/-- Anyone can have a value read, and nobody has to sign for it. -/
theorem Roster.reading_done_iff (h : Roster curve w entries) (hplaced : Placed curve w)
    (hix : request.ix = .currentValue) :
    request.Done curve w ↔
      ∃ accounts : CurrentValue, accounts.Presented request.ctx w ∧
        accounts.adapterProgram.key ∉ request.ctx.callers ∧
        ∃ w₁ value, w.fresh.answered request.exec request.ctx accounts.routed = some w₁ ∧
          w₁.returnData = (accounts.adapterProgram.key, leBytes64 value) := by
  have hpresented : ∀ accounts : CurrentValue, accounts.Presented request.ctx w ↔
      accounts.Accepted curve request.ctx w.fresh ∧
        accounts.adapterEntry.data.interfaceVersion = adapterInterfaceVersion := by
    intro accounts
    rw [CurrentValue.presented_iff h hplaced request.program, CurrentValue.accepted_iff,
      CurrentValue.accepted_iff]
    rfl
  rw [Request.done_iff, hix]
  simp only [entry, currentValue_ok_iff, World.answered, Option.map_eq_some_iff]
  constructor
  · rintro ⟨_, accounts, w₁, value, ⟨haccepted, hversion, hidle⟩, hrun, hreturned, -⟩
    exact ⟨accounts, (hpresented accounts).mpr ⟨haccepted, hversion⟩,
      (callable_iff request.own_entered).mp hidle, _, value, ⟨w₁, hrun, rfl⟩, hreturned⟩
  · rintro ⟨accounts, haccounts, hidle, _, value, ⟨w₁, hrun, rfl⟩, hreturned⟩
    obtain ⟨haccepted, hversion⟩ := (hpresented accounts).mp haccounts
    exact ⟨_, accounts, w₁, value, ⟨haccepted, hversion, .inl hidle⟩, hrun, hreturned, rfl⟩

end Values

/-! ### Openings -/

/-- The accounts of an opening as its caller has to bring them, the two to be created vacant
and at their derived addresses. -/
structure OpenPosition.Presented (curve : Curve) (ctx : Context) (w : Chain)
    (accounts : OpenPosition) : Prop where
  slots : ∃ tokenProgram associatedTokenProgram, tokenProgram.key = tokenProgramId ∧
    associatedTokenProgram.key = associatedTokenProgramId ∧ ctx.accounts =
      accounts.owner :: accounts.adapterEntry.info :: accounts.adapterProgram ::
        accounts.position :: accounts.usdcMint.info :: accounts.positionUsdcPool ::
          accounts.adapterState :: accounts.instructionsSysvar :: accounts.systemProgram ::
            tokenProgram :: associatedTokenProgram :: accounts.remainingAccounts
  system : accounts.systemProgram.key = systemProgramId
  programs : ∀ program ∈ [systemProgramId, tokenProgramId, associatedTokenProgramId],
    w.executable program = true
  signed : accounts.owner.isSigner = true
  payer : accounts.owner.isWritable = true
  entry : w.state? AdapterEntry accounts.adapterEntry.key = some accounts.adapterEntry.data
  on : accounts.adapterEntry.data.isActive = true
  listed : accounts.adapterEntry.data.adapterProgram = accounts.adapterProgram.key
  executable : w.executable accounts.adapterProgram.key = true
  mint : loadMint w accounts.usdcMint.info = .ok accounts.usdcMint
  state : accounts.adapterState.isWritable = true
  sysvar : accounts.instructionsSysvar.key = sysvarInstructionsId
  found : ∃ bump, findProgramAddress curve dispatcherId
    (positionSeeds accounts.owner.key accounts.adapterProgram.key) =
      some (accounts.position.key, bump)
  vacant : w.accounts accounts.position.key = none
  created : ctx.Writable accounts.position.key
  poolFound : ∃ bump, findProgramAddress curve associatedTokenProgramId
    (associatedTokenSeeds accounts.position.key accounts.usdcMint.key) =
      some (accounts.positionUsdcPool.key, bump)
  poolVacant : w.accounts accounts.positionUsdcPool.key = none
  poolCreated : ctx.Writable accounts.positionUsdcPool.key

/-- The call an opening makes to the adapter. -/
def OpenPosition.routed (accounts : OpenPosition) : Instruction :=
  initializeInstruction accounts.adapterProgram accounts.instructionsSysvar accounts.position
    accounts.adapterState accounts.owner accounts.systemProgram accounts.remainingAccounts

/-- The chain with the position's account, which holds no data yet. -/
def OpenPosition.founded (ctx : Context) (accounts : OpenPosition) (w : Chain) : Chain :=
  ({ w with calls := createAccountCall ctx accounts.owner accounts.position :: w.calls } :
    Chain).put accounts.position.key ⟨ctx.programId, false, .raw []⟩

/-- The chain in which the adapter is called, with the position's account and its pool. -/
def OpenPosition.prepared (ctx : Context) (accounts : OpenPosition) (w : Chain) : Chain :=
  ({ accounts.founded ctx w with
    calls := createAssociatedCall ctx accounts.owner accounts.position accounts.usdcMint.info
      accounts.positionUsdcPool :: (accounts.founded ctx w).calls } : Chain).put
        accounts.positionUsdcPool.key ⟨tokenProgramId, false, .token
          { mint := accounts.usdcMint.key, authority := accounts.position.key, amount := 0 }⟩

section Openings

variable {curve : Curve} {ctx : Context} {w : Chain} {entries : List Pubkey} {request : Request}
variable {accounts : OpenPosition}

/-- The pool is not the position it belongs to. -/
theorem OpenPosition.Presented.pool_ne (h : accounts.Presented curve ctx w) :
    accounts.positionUsdcPool.key ≠ accounts.position.key := by
  obtain ⟨bump, hposition⟩ := h.found
  obtain ⟨bump', hpool⟩ := h.poolFound
  rw [findProgramAddress_eq_pda hposition, findProgramAddress_eq_pda hpool]
  intro hsame
  injection hsame with hprogram
  exact absurd hprogram (by decide)

theorem OpenPosition.Presented.load (h : accounts.Presented curve ctx w) :
    OpenPosition.load ctx w = .ok accounts := by
  obtain ⟨tokenProgram, associatedTokenProgram, htoken, hassociated, hslots⟩ := h.slots
  have hprograms := h.programs
  simp only [List.forall_mem_cons] at hprograms
  obtain ⟨hsystem', htoken', hassociated', -⟩ := hprograms
  unfold OpenPosition.load
  rw [hslots]
  simp only [except_bind_ok, checkSigner_ok, loadState_ok, checkProgram_ok]
  exact ⟨(), h.signed, accounts.adapterEntry, ⟨rfl, h.entry⟩, accounts.usdcMint, h.mint, (),
    ⟨h.system, h.system ▸ hsystem'⟩, (), ⟨htoken, htoken ▸ htoken'⟩, (),
    ⟨hassociated, hassociated ▸ hassociated'⟩, rfl⟩

/-- Nothing is asked of the adapter for which the caller did not bring the privilege. -/
theorem OpenPosition.Presented.allowed (h : accounts.Presented curve ctx w) :
    ∀ account ∈ accounts.routed.accounts, ctx.allows [accounts.position.key] account = true := by
  obtain ⟨tokenProgram, associatedTokenProgram, -, -, hslots⟩ := h.slots
  have hlisted : ∀ info ∈ accounts.owner :: accounts.adapterEntry.info ::
      accounts.adapterProgram :: accounts.position :: accounts.usdcMint.info ::
        accounts.positionUsdcPool :: accounts.adapterState :: accounts.instructionsSysvar ::
          accounts.systemProgram :: tokenProgram :: associatedTokenProgram ::
            accounts.remainingAccounts, info ∈ ctx.accounts := by
    rw [hslots]
    exact fun _ => id
  simp only [List.forall_mem_cons] at hlisted
  obtain ⟨howner, -, -, hposition, -, -, hstate, hsysvar, hsystem, -, -, hremaining⟩ := hlisted
  intro account hmem
  rcases List.mem_append.mp hmem with hfixed | hforwarded
  · simp only [AccountMeta.newReadonly, AccountMeta.new, List.mem_cons, List.not_mem_nil,
      or_false] at hfixed
    rcases hfixed with rfl | rfl | rfl | rfl | rfl
    · exact Context.allows_of_mem hsysvar rfl (by simp) (by simp)
    · exact Context.allows_iff.mpr ⟨⟨_, hposition, rfl⟩,
        fun _ => .inl (List.mem_singleton.mpr rfl), by simp⟩
    · exact Context.allows_of_mem hstate rfl (by simp) fun _ => h.state
    · exact Context.allows_of_mem howner rfl (fun _ => h.signed) fun _ => h.payer
    · exact Context.allows_of_mem hsystem rfl (by simp) (by simp)
  · obtain ⟨info, hinfo, rfl⟩ := List.mem_map.mp hforwarded
    exact Context.allows_of_mem (hremaining info hinfo) rfl id id

/-- The two accounts can be created, the position's with the signature of its own address. -/
theorem OpenPosition.Presented.creates (h : accounts.Presented curve ctx w) :
    ctx.allows [accounts.position.key] (.new accounts.owner.key true) = true ∧
      ctx.allows [accounts.position.key] (.new accounts.position.key true) = true ∧
      ∀ account ∈ (createAssociatedCall ctx accounts.owner accounts.position
        accounts.usdcMint.info accounts.positionUsdcPool).instruction.accounts,
          ctx.allows [] account = true := by
  obtain ⟨tokenProgram, associatedTokenProgram, htoken, -, hslots⟩ := h.slots
  have hposition : accounts.position ∈ ctx.accounts := by simp [hslots]
  have hpool : accounts.positionUsdcPool ∈ ctx.accounts := by simp [hslots]
  have howner : accounts.owner ∈ ctx.accounts := by
    rw [hslots]
    exact .head _
  obtain ⟨hpays, hcreates⟩ := creates_of_slots howner hposition h.signed h.payer h.created
  refine ⟨hpays, hcreates, ?_⟩
  simp only [createAssociatedCall, List.forall_mem_cons]
  refine ⟨Context.allows_of_mem howner rfl (fun _ => h.signed) fun _ => h.payer, ?_, ?_, ?_, ?_,
    ?_, by simp⟩
  · exact Context.allows_iff.mpr ⟨⟨_, hpool, rfl⟩, by simp [AccountMeta.new],
      fun _ => h.poolCreated⟩
  · exact Context.allows_of_mem hposition rfl (by simp [AccountMeta.newReadonly])
      (by simp [AccountMeta.newReadonly])
  · have hmint : accounts.usdcMint.info ∈ ctx.accounts := by simp [hslots]
    exact Context.allows_of_mem hmint rfl (by simp [AccountMeta.newReadonly])
      (by simp [AccountMeta.newReadonly])
  · have hsystem : accounts.systemProgram ∈ ctx.accounts := by simp [hslots]
    exact Context.allows_of_mem hsystem h.system.symm (by simp [AccountMeta.newReadonly])
      (by simp [AccountMeta.newReadonly])
  · have htoken' : tokenProgram ∈ ctx.accounts := by simp [hslots]
    exact Context.allows_of_mem htoken' htoken.symm (by simp [AccountMeta.newReadonly])
      (by simp [AccountMeta.newReadonly])

/-- What the loader, the two `init`s and the constraints let through was presented. -/
theorem OpenPosition.presented_of_done (h : Roster curve w entries)
    (hprogram : ctx.programId = dispatcherId) {bump : UInt8} {w₁ w₂ : Chain}
    (hload : OpenPosition.load ctx w = .ok accounts)
    (hcreated : initState curve ctx accounts.owner
      (positionSeeds accounts.owner.key accounts.adapterProgram.key) accounts.position w =
        (.ok bump, w₁))
    (hpooled : initAssociatedToken curve ctx accounts.owner accounts.position
      accounts.usdcMint.info accounts.positionUsdcPool w₁ = (.ok (), w₂))
    (hconstraints : accounts.constraints curve ctx w = .ok ()) :
    accounts.Presented curve ctx w ∧ w₂ = accounts.prepared ctx w := by
  have hloaded := OpenPosition.load_ok hload
  have hgate := OpenPosition.gate_of_constraints hloaded hconstraints
  obtain ⟨tokenProgram, associatedTokenProgram, hslots⟩ := hloaded.slots
  obtain ⟨hfound, -, -, hwritable, hvacant, rfl⟩ := initState_ok_iff.mp hcreated
  obtain ⟨hpoolFound, -, hallowed, hpoolVacant, rfl⟩ := initAssociatedToken_ok_iff.mp hpooled
  have hentered := h.entered _ _ (World.state?_eq_some_iff_typed?.mp hgate.stored)
  have hseeds := hgate.seeds
  rw [hprogram] at hseeds hfound
  obtain ⟨-, hlisted, -⟩ :=
    createProgramAddress_inj hseeds (findProgramAddress_create hentered.found)
  unfold OpenPosition.load at hload
  rw [hslots] at hload
  simp only [except_bind_ok, loadState_ok, checkProgram_ok] at hload
  obtain ⟨_, -, _, -, mint, hmint, _, ⟨hsystem, hsystem'⟩, _, ⟨htoken, htoken'⟩, _,
    ⟨hassociated, hassociated'⟩, hpure⟩ := hload
  obtain rfl : mint = accounts.usdcMint := congrArg OpenPosition.usdcMint (Except.ok.inj hpure)
  simp only [OpenPosition.constraints, except_bind_ok, checkMut_ok, checkAddress_ok] at hconstraints
  obtain ⟨_, hpayer, _, -, _, -, _, hstate, hsysvar⟩ := hconstraints
  -- the pool was vacant when the position was there, so it is another account
  have hne : accounts.positionUsdcPool.key ≠ accounts.position.key := by
    intro hsame
    simp [hsame] at hpoolVacant
  refine ⟨⟨⟨_, _, htoken, hassociated, hslots⟩, hsystem, ?_, hloaded.signed, hpayer, hgate.stored,
    hgate.active, (entrySeeds_inj hlisted).symm, hgate.executable, hmint, hstate, hsysvar,
    ⟨bump, hfound⟩, hvacant, (Context.allows_iff.mp hwritable).2.2 rfl, hpoolFound,
    by simpa [hne] using hpoolVacant, ?_⟩, rfl⟩
  · simp only [List.forall_mem_cons]
    exact ⟨hsystem ▸ hsystem', htoken ▸ htoken', hassociated ▸ hassociated', by simp⟩
  · simp only [createAssociatedCall, List.forall_mem_cons] at hallowed
    exact (Context.allows_iff.mp hallowed.2.1).2.2 rfl

/-- An opening completes exactly when its caller presents the accounts and the adapter
completes its part. -/
theorem Roster.opening_done_iff (h : Roster curve w entries)
    (hexec : Lawful (· = dispatcherId) request.exec) (hix : request.ix = .openPosition) :
    request.Done curve w ↔
      ∃ accounts : OpenPosition, accounts.Presented curve request.ctx w ∧
        (∀ program ∈ [systemProgramId, associatedTokenProgramId, accounts.adapterProgram.key],
          program ∉ request.ctx.callers) ∧
        ((accounts.prepared request.ctx w.fresh).answered request.exec request.ctx
          accounts.routed).isSome = true := by
  have hprogram := request.program
  have hentered := request.own_entered
  -- clearing the trace changes no account
  have hroster : Roster curve w.fresh entries := { h with }
  rw [Request.done_iff, hix]
  simp only [entry, openPosition, emit, Exec.bind_ok, Exec.read_ok, Exec.ofExcept_ok,
    Exec.require_ok, Exec.modify_ok, store_ok]
  constructor
  · rintro ⟨_, _, _, ⟨rfl, rfl⟩, accounts, _, ⟨hload, rfl⟩, bump, _, hcreated, _, _, hpooled,
      _, _, ⟨hconstraints, rfl⟩, _, _, ⟨-, rfl⟩, _, _, ⟨rfl, rfl⟩, _, w₃, hrouted, -⟩
    obtain ⟨hpresented, rfl⟩ :=
      OpenPosition.presented_of_done hroster hprogram hload hcreated hpooled hconstraints
    obtain ⟨-, hsystem, -⟩ := initState_ok_iff.mp hcreated
    obtain ⟨-, hassociated, -⟩ := initAssociatedToken_ok_iff.mp hpooled
    obtain ⟨_, -, hadapter, -, hanswered⟩ := invokeSigned_ok_iff.mp hrouted
    refine ⟨accounts, { hpresented with }, ?_, Option.isSome_of_mem hanswered⟩
    simp only [List.forall_mem_cons]
    exact ⟨(callable_iff hentered).mp hsystem, (callable_iff hentered).mp hassociated,
      (callable_iff hentered).mp hadapter, by simp⟩
  · rintro ⟨accounts, hpresented, hidle, hanswered⟩
    simp only [List.forall_mem_cons] at hidle
    obtain ⟨hsystem, hassociated, hadapter, -⟩ := hidle
    obtain ⟨w₃, hanswered⟩ := Option.isSome_iff_exists.mp hanswered
    obtain ⟨bump, hfound⟩ := hpresented.found
    obtain ⟨hpayer, hposition, hpool⟩ := hpresented.creates
    have hpresented' : accounts.Presented curve request.ctx w.fresh := { hpresented with }
    have hentered' := h.entered _ _ (World.state?_eq_some_iff_typed?.mp hpresented.entry)
    have hentry := findProgramAddress_create hentered'.found
    rw [hpresented.listed, ← hprogram] at hentry
    rw [← hprogram] at hfound
    have hcreated : initState curve request.ctx accounts.owner
        (positionSeeds accounts.owner.key accounts.adapterProgram.key) accounts.position w.fresh =
          (.ok bump, accounts.founded request.ctx w.fresh) :=
      initState_ok_iff.mpr
        ⟨hfound, .inl hsystem, hpayer, hposition, hpresented'.vacant, rfl⟩
    have hpooled : initAssociatedToken curve request.ctx accounts.owner accounts.position
        accounts.usdcMint.info accounts.positionUsdcPool (accounts.founded request.ctx w.fresh) =
          (.ok (), accounts.prepared request.ctx w.fresh) :=
      initAssociatedToken_ok_iff.mpr ⟨hpresented.poolFound, .inl hassociated, hpool,
        (if_neg hpresented.pool_ne).trans hpresented'.poolVacant, rfl⟩
    have hconstraints : accounts.constraints curve request.ctx w.fresh = .ok () := by
      simp only [OpenPosition.constraints, except_bind_ok, checkActiveEntry_ok,
        checkExecutable_ok, checkMut_ok, checkAddress_ok]
      exact ⟨(), hpresented.payer, (), ⟨hentry, hpresented.on⟩, (), hpresented'.executable, (),
        hpresented.state, hpresented.sysvar⟩
    have hrouted : routeInitialize curve request.exec request.ctx accounts.adapterProgram
        accounts.instructionsSysvar accounts.position accounts.adapterState accounts.owner
        accounts.systemProgram accounts.remainingAccounts
        [(positionSeeds accounts.owner.key accounts.adapterProgram.key, bump)]
        (accounts.prepared request.ctx w.fresh) = (.ok (), w₃) :=
      invokeSigned_ok_iff.mpr ⟨[accounts.position.key],
        by simp [signerPdas, findProgramAddress_create hfound], .inl hadapter,
        hpresented.allowed, hanswered⟩
    -- the position's account stays the dispatcher's while the adapter runs
    have howned := (invokeSigned_framed hexec hrouted).kept accounts.position.key
      ⟨request.ctx.programId, false, .raw []⟩
      (by simp [OpenPosition.prepared, OpenPosition.founded, hpresented.pool_ne.symm]) hprogram
    refine ⟨_, _, _, ⟨rfl, rfl⟩, accounts, _, ⟨hpresented'.load, rfl⟩, bump, _, hcreated, (), _,
      hpooled, (), _, ⟨hconstraints, rfl⟩, (), _, ⟨hentered'.version, rfl⟩, _, _, ⟨rfl, rfl⟩, (),
      w₃, hrouted, (), _, rfl, ?_, rfl⟩
    simp [World.ownedBy, howned]

end Openings

/-- In every state that was reached, whatever was deposited, withdrawn, switched or opened on the
way: what is routed to an adapter completes exactly when its caller brings the accounts, the
adapter is on and the programs called complete their parts. -/
theorem routing_available {curve : Curve} {w : Chain} {past : List (Chain × Option Request)}
    (run : HostileRun curve Unused past w) {request : Request}
    (hexec : Lawful (· = dispatcherId) request.exec) :
    (request.ix = .openPosition → (request.Done curve w ↔
      ∃ accounts : OpenPosition, accounts.Presented curve request.ctx w ∧
        (∀ program ∈ [systemProgramId, associatedTokenProgramId, accounts.adapterProgram.key],
          program ∉ request.ctx.callers) ∧
        ((accounts.prepared request.ctx w.fresh).answered request.exec request.ctx
          accounts.routed).isSome = true)) ∧
    (∀ amount, request.ix = .deposit amount → (request.Done curve w ↔
      ∃ accounts : Deposit, accounts.Presented request.ctx w ∧ 0 < amount ∧
        tokenProgramId ∉ request.ctx.callers ∧
        accounts.adapterProgram.key ∉ request.ctx.callers ∧
        ∃ w₁ w₂ shares, w.fresh.answered request.exec request.ctx (transferInstruction
            accounts.ownerUsdcAta.info accounts.positionUsdcPool.info accounts.owner amount) =
              some w₁ ∧
          w₁.answered request.exec request.ctx (accounts.routed (encodeDeposit amount [])) =
            some w₂ ∧
          w₂.returnData = (accounts.adapterProgram.key, leBytes64 shares))) ∧
    (∀ shares, request.ix = .withdraw shares → (request.Done curve w ↔
      ∃ accounts : Withdraw, accounts.Presented request.ctx w ∧ 0 < shares ∧
        accounts.adapterProgram.key ∉ request.ctx.callers ∧
        ∃ w₁ amountOut, w.fresh.answered request.exec request.ctx
            (accounts.routed (encodeWithdraw shares [])) = some w₁ ∧
          w₁.returnData = (accounts.adapterProgram.key, leBytes64 amountOut) ∧
          (0 < amountOut → tokenProgramId ∉ request.ctx.callers ∧
            (w₁.answered request.exec request.ctx (transferInstruction
              accounts.positionUsdcPool.info accounts.ownerUsdcAta.info accounts.position.info
              amountOut)).isSome = true))) ∧
    (request.ix = .currentValue → (request.Done curve w ↔
      ∃ accounts : CurrentValue, accounts.Presented request.ctx w ∧
        accounts.adapterProgram.key ∉ request.ctx.callers ∧
        ∃ w₁ value, w.fresh.answered request.exec request.ctx accounts.routed = some w₁ ∧
          w₁.returnData = (accounts.adapterProgram.key, leBytes64 value))) := by
  obtain ⟨entries, hroster⟩ := roster_of_run (run.mono_start fun _ => Unused.unfounded)
  have hplaced := placed_of_run run
  exact ⟨hroster.opening_done_iff hexec, fun _ => hroster.depositing_done_iff hplaced hexec,
    fun _ => hroster.withdrawing_done_iff hplaced hexec, hroster.reading_done_iff hplaced⟩

namespace Sample

/-- An adapter switched off and on again can be switched off once more. -/
theorem governance_available_resumed :
    (pausing true).Done curve resumed ∧
      switch curve ((pausing true).apply curve resumed) (.key 6) = some false := by
  have hrun : HostileRun curve Unfounded governed resumed :=
    .step (.step (.step (.step (.start unused_unfounded) (.request _ idle_lawful))
      (.request _ idle_lawful)) (.request _ idle_lawful)) (.request _ idle_lawful)
  obtain ⟨entries, -, -, havailable⟩ := governance_available hrun
  obtain ⟨hiff, hswitch⟩ := (havailable (pausing true)).2.1 true rfl
  have hregistry : resumed.state? Registry registryKey =
      some { admin, adapterCount := 1, bump := 255 } := by decide +kernel
  have hentry : resumed.state? AdapterEntry (entryKey (.key 6)) = some
      { adapterProgram := .key 6, interfaceVersion := 1, name := "x", isActive := true
        addedAt := 0, bump := 255 } := by decide +kernel
  have hready : Switchable (pausing true).ctx resumed (signer admin) (readonly registryKey)
      (writable (entryKey (.key 6)))
      { adapterProgram := .key 6, interfaceVersion := 1, name := "x", isActive := true
        addedAt := 0, bump := 255 } :=
    ⟨⟨[], rfl⟩, ⟨rfl, _, hregistry, rfl⟩, hentry, rfl⟩
  have hoff := hswitch _ _ _ _ hready
  exact ⟨hiff.mpr ⟨_, _, _, _, hready⟩, hoff⟩

theorem answer_lawful (returnData : Pubkey × Bytes) :
    Lawful (· = dispatcherId) (answer returnData) := by
  intro call w w' h
  obtain rfl := Option.some.inj h
  exact .settled rfl rfl

/-- Anyone's request for the value of the saver's position, of a program that says 10. -/
def saverReads : Request :=
  request (valueAccounts MarginfiUsdc.programId (stateKey MarginfiUsdc.programId) [])
    .currentValue (answer (MarginfiUsdc.programId, leBytes64 10)) (by rfl)

/-- The accounts of that request. -/
def saverReadAccounts : CurrentValue where
  adapterEntry := ⟨readonly (entryKey MarginfiUsdc.programId),
    { adapterProgram := MarginfiUsdc.programId, interfaceVersion := 1, name := "x"
      isActive := true, addedAt := 0, bump := 255 }⟩
  adapterProgram := readonly MarginfiUsdc.programId
  position := ⟨readonly (positionKey MarginfiUsdc.programId),
    { owner := alice, adapterProgram := MarginfiUsdc.programId
      usdcPool := poolKey MarginfiUsdc.programId, usdcMint := usdcMint, createdAt := 0
      bump := 255 }⟩
  adapterState := readonly (stateKey MarginfiUsdc.programId)
  instructionsSysvar := readonly sysvarInstructionsId
  remainingAccounts := []

theorem saverReadAccounts_presented : saverReadAccounts.Presented saverReads.ctx fundedSavings where
  slots := rfl
  entry := by decide +kernel
  on := rfl
  listed := rfl
  executable := by decide +kernel
  position := by decide +kernel
  program := rfl
  sysvar := rfl

/-- The opening, the deposit and the withdrawal of the saver's complete, so the saver has brought
what each takes; and a read for which the accounts are brought completes. -/
theorem routing_available_saved :
    (∃ accounts : OpenPosition,
      accounts.Presented curve (saverOpens 0).ctx listedSavings) ∧
    (∃ accounts : Deposit, accounts.Presented (saverDeposits 0).ctx openedSavings) ∧
    (∃ accounts : Withdraw, accounts.Presented (saverWithdraws 0 4).ctx fundedSavings ∧
      Adapter.marginfiUsdc.programId = accounts.adapterProgram.key) ∧
    saverReads.Done curve fundedSavings := by
  have hlisted : HostileRun curve Unused [(saverFounds.apply curve unusedSavings, some saverLists),
      (unusedSavings, some saverFounds)] listedSavings :=
    .step (.step (.start unusedSavings_unused) (.request saverFounds (saver_overAdapters 0).lawful))
      (.request saverLists (saver_overAdapters 0).lawful)
  have hopened := hlisted.step (.request (saverOpens 0) (saver_overAdapters 0).lawful)
  have hfunded := hopened.step (.request (saverDeposits 0) (saver_overAdapters 0).lawful)
  have hopening : (saverOpens 0).Done curve listedSavings := by decide +kernel
  have hdeposit : (saverDeposits 0).Done curve openedSavings := by decide +kernel
  have hwithdrawal : (saverWithdraws 0 4).Done curve fundedSavings := by decide +kernel
  refine ⟨?_, ?_, ?_, ?_⟩
  · obtain ⟨accounts, hpresented, -⟩ :=
      ((routing_available hlisted (saver_overAdapters 0).lawful).1 rfl).mp hopening
    exact ⟨accounts, hpresented⟩
  · obtain ⟨accounts, hpresented, -⟩ :=
      ((routing_available hopened (saver_overAdapters 0).lawful).2.1 10 rfl).mp hdeposit
    exact ⟨accounts, hpresented⟩
  · obtain ⟨accounts, hpresented, -⟩ :=
      ((routing_available hfunded (saver_overAdapters 0).lawful).2.2.1 4 rfl).mp hwithdrawal
    obtain ⟨_, -, hslots⟩ := hpresented.slots
    refine ⟨accounts, hpresented, ?_⟩
    have hslot := congrArg (fun accounts => accounts[2]?.map (·.key)) hslots
    exact Option.some.inj hslot
  · -- the program called answers with eight bytes of the adapter's
    exact ((routing_available hfunded (answer_lawful _)).2.2.2 rfl).mpr
      ⟨saverReadAccounts, saverReadAccounts_presented, by decide, _, 10, rfl, rfl⟩

end Sample

end YieldAdapter.Dispatcher

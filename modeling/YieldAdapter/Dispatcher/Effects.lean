import YieldAdapter.Dispatcher.Instructions

/-!
# What the dispatcher's instructions can do

For each instruction, what its accepted accounts have passed, which calls it can
issue and with whose signatures, whether it completes or not, and the world it
leaves when it completes. The rest of the development reasons from these and
never unfolds a handler.
-/

set_option autoImplicit false

namespace YieldAdapter.Dispatcher

open Solana

/-! ### Accepted accounts -/

/-- The entry of an adapter lets calls through to it. -/
structure Gate (curve : Curve) (ctx : Context) (w : Chain) (adapterEntry : Loaded AdapterEntry)
    (adapterProgram : AccountInfo) : Prop where
  stored : w.state? AdapterEntry adapterEntry.key = some adapterEntry.data
  seeds : createProgramAddress curve ctx.programId (entrySeeds adapterProgram.key)
    adapterEntry.data.bump = some adapterEntry.key
  active : adapterEntry.data.isActive = true
  executable : w.executable adapterProgram.key = true

/-- The accounts of `open_position` before anything is created. -/
structure OpenPosition.Loadable (ctx : Context) (w : Chain) (accounts : OpenPosition) : Prop where
  slots : ∃ tokenProgram associatedTokenProgram, ctx.accounts =
    accounts.owner :: accounts.adapterEntry.info :: accounts.adapterProgram ::
      accounts.position :: accounts.usdcMint.info :: accounts.positionUsdcPool ::
        accounts.adapterState :: accounts.instructionsSysvar :: accounts.systemProgram ::
          tokenProgram :: associatedTokenProgram :: accounts.remainingAccounts
  signed : accounts.owner.isSigner = true
  entry : w.state? AdapterEntry accounts.adapterEntry.key = some accounts.adapterEntry.data

/-- The accounts `deposit` and `withdraw` run with. -/
structure Deposit.Accepted (curve : Curve) (ctx : Context) (w : Chain) (accounts : Deposit) :
    Prop where
  slots : ∃ tokenProgram, ctx.accounts =
    accounts.owner :: accounts.adapterEntry.info :: accounts.adapterProgram ::
      accounts.position.info :: accounts.positionUsdcPool.info :: accounts.ownerUsdcAta.info ::
        accounts.adapterState :: accounts.instructionsSysvar :: tokenProgram ::
          accounts.remainingAccounts
  signed : accounts.owner.isSigner = true
  gate : Gate curve ctx w accounts.adapterEntry accounts.adapterProgram
  program : accounts.adapterProgram.key = accounts.position.data.adapterProgram
  position : w.state? Position accounts.position.key = some accounts.position.data
  seeds : createProgramAddress curve ctx.programId
    (positionSeeds accounts.owner.key accounts.adapterProgram.key) accounts.position.data.bump =
      some accounts.position.key
  owner : accounts.position.data.owner = accounts.owner.key
  pool : w.token? accounts.positionUsdcPool.key = some accounts.positionUsdcPool.data
  poolKey : accounts.positionUsdcPool.key = accounts.position.data.usdcPool
  ata : w.token? accounts.ownerUsdcAta.key = some accounts.ownerUsdcAta.data
  ataAuthority : accounts.ownerUsdcAta.data.authority = accounts.owner.key
  ataMint : accounts.ownerUsdcAta.data.mint = accounts.position.data.usdcMint
  sysvar : accounts.instructionsSysvar.key = sysvarInstructionsId

/-- The accounts `current_value` runs with. -/
structure CurrentValue.Accepted (curve : Curve) (ctx : Context) (w : Chain)
    (accounts : CurrentValue) : Prop where
  slots : ctx.accounts =
    accounts.adapterEntry.info :: accounts.adapterProgram :: accounts.position.info ::
      accounts.adapterState :: accounts.instructionsSysvar :: accounts.remainingAccounts
  gate : Gate curve ctx w accounts.adapterEntry accounts.adapterProgram
  program : accounts.adapterProgram.key = accounts.position.data.adapterProgram
  position : w.state? Position accounts.position.key = some accounts.position.data
  seeds : createProgramAddress curve ctx.programId
    (positionSeeds accounts.position.data.owner accounts.adapterProgram.key)
    accounts.position.data.bump = some accounts.position.key
  sysvar : accounts.instructionsSysvar.key = sysvarInstructionsId

section Accepted

variable {curve : Curve} {ctx : Context} {w : Chain}

theorem InitializeRegistry.load_ok {accounts : InitializeRegistry}
    (h : InitializeRegistry.load ctx w = .ok accounts) :
    (∃ tail, ctx.accounts =
      accounts.admin :: accounts.registry :: accounts.systemProgram :: tail) ∧
    accounts.admin.isSigner = true := by
  unfold InitializeRegistry.load at h
  split at h
  · rename_i hlist
    simp only [except_bind_ok, checkSigner_ok] at h
    obtain ⟨_, hsigned, _, -, hpure⟩ := h
    obtain rfl := Except.ok.inj hpure
    exact ⟨⟨_, hlist⟩, hsigned⟩
  · simp [throw, throwThe, MonadExceptOf.throw] at h

theorem WhitelistAdapter.load_ok {accounts : WhitelistAdapter}
    (h : WhitelistAdapter.load ctx w = .ok accounts) :
    (∃ tail, ctx.accounts =
      accounts.admin :: accounts.registry.info :: accounts.adapterEntry ::
        accounts.adapterProgram :: accounts.systemProgram :: tail) ∧
    accounts.admin.isSigner = true ∧
    w.state? Registry accounts.registry.key = some accounts.registry.data := by
  unfold WhitelistAdapter.load at h
  split at h
  · rename_i hlist
    simp only [except_bind_ok, checkSigner_ok, loadState_ok] at h
    obtain ⟨_, hsigned, _, ⟨rfl, hstored⟩, _, -, hpure⟩ := h
    obtain rfl := Except.ok.inj hpure
    exact ⟨⟨_, hlist⟩, hsigned, hstored⟩
  · simp [throw, throwThe, MonadExceptOf.throw] at h

theorem WhitelistAdapter.constraints_ok {accounts : WhitelistAdapter}
    (h : accounts.constraints curve ctx w = .ok ()) :
    createProgramAddress curve ctx.programId registrySeeds accounts.registry.data.bump =
      some accounts.registry.key ∧
    accounts.registry.data.admin = accounts.admin.key ∧
    w.executable accounts.adapterProgram.key = true := by
  simp only [WhitelistAdapter.constraints, checkRegistrySeeds, checkAdmin, except_bind_ok,
    checkSeeds_ok, check_ok, checkExecutable_ok] at h
  obtain ⟨_, -, _, hseeds, _, -, _, hadmin, hexecutable⟩ := h
  exact ⟨hseeds, hadmin, hexecutable⟩

theorem PauseAdapter.load_ok {accounts : PauseAdapter}
    (h : PauseAdapter.load ctx w = .ok accounts) :
    (∃ tail, ctx.accounts =
      accounts.admin :: accounts.registry.info :: accounts.adapterEntry.info :: tail) ∧
    accounts.admin.isSigner = true ∧
    w.state? Registry accounts.registry.key = some accounts.registry.data ∧
    w.state? AdapterEntry accounts.adapterEntry.key = some accounts.adapterEntry.data := by
  unfold PauseAdapter.load at h
  split at h
  · rename_i hlist
    simp only [except_bind_ok, checkSigner_ok, loadState_ok] at h
    obtain ⟨_, hsigned, _, ⟨rfl, hregistry⟩, _, ⟨rfl, hentry⟩, hpure⟩ := h
    obtain rfl := Except.ok.inj hpure
    exact ⟨⟨_, hlist⟩, hsigned, hregistry, hentry⟩
  · simp [throw, throwThe, MonadExceptOf.throw] at h

theorem PauseAdapter.constraints_ok {accounts : PauseAdapter}
    (h : accounts.constraints curve ctx = .ok ()) :
    createProgramAddress curve ctx.programId registrySeeds accounts.registry.data.bump =
      some accounts.registry.key ∧
    accounts.registry.data.admin = accounts.admin.key ∧
    createProgramAddress curve ctx.programId (entrySeeds accounts.adapterEntry.data.adapterProgram)
      accounts.adapterEntry.data.bump = some accounts.adapterEntry.key := by
  simp only [PauseAdapter.constraints, checkRegistrySeeds, checkAdmin, except_bind_ok,
    checkSeeds_ok, check_ok] at h
  obtain ⟨_, hseeds, _, hadmin, _, hentry, -⟩ := h
  exact ⟨hseeds, hadmin, hentry⟩

theorem OpenPosition.load_ok {accounts : OpenPosition}
    (h : OpenPosition.load ctx w = .ok accounts) : accounts.Loadable ctx w := by
  unfold OpenPosition.load at h
  split at h
  · rename_i hlist
    simp only [except_bind_ok, checkSigner_ok, loadState_ok] at h
    obtain ⟨_, hsigned, _, ⟨rfl, hentry⟩, mint, hmint, _, -, _, -, _, -, hpure⟩ := h
    obtain rfl := loadMint_info hmint
    obtain rfl := Except.ok.inj hpure
    exact ⟨⟨_, _, hlist⟩, hsigned, hentry⟩
  · simp [throw, throwThe, MonadExceptOf.throw] at h

theorem checkActiveEntry_ok {adapterEntry : Loaded AdapterEntry} {adapterProgram : AccountInfo}
    {u : Unit} :
    checkActiveEntry curve ctx adapterEntry adapterProgram = .ok u ↔
      createProgramAddress curve ctx.programId (entrySeeds adapterProgram.key)
        adapterEntry.data.bump = some adapterEntry.key ∧ adapterEntry.data.isActive = true := by
  simp [checkActiveEntry, except_bind_ok]

theorem OpenPosition.gate_of_constraints {accounts : OpenPosition}
    (hloaded : accounts.Loadable ctx w) (h : accounts.constraints curve ctx w = .ok ()) :
    Gate curve ctx w accounts.adapterEntry accounts.adapterProgram := by
  simp only [OpenPosition.constraints, except_bind_ok, checkActiveEntry_ok,
    checkExecutable_ok] at h
  obtain ⟨_, -, _, ⟨hseeds, hactive⟩, _, hexecutable, -⟩ := h
  exact ⟨hloaded.entry, hseeds, hactive, hexecutable⟩

theorem Deposit.accepted_of_load {accounts : Deposit} (hload : Deposit.load ctx w = .ok accounts)
    (h : accounts.constraints curve ctx w = .ok ()) : accounts.Accepted curve ctx w := by
  unfold Deposit.load at hload
  split at hload
  · rename_i hlist
    simp only [except_bind_ok, checkSigner_ok, loadState_ok, loadToken_ok] at hload
    obtain ⟨_, hsigned, _, ⟨rfl, hentry⟩, _, ⟨rfl, hposition⟩, _, ⟨rfl, hpool⟩, _, ⟨rfl, hata⟩,
      _, -, hpure⟩ := hload
    obtain rfl := Except.ok.inj hpure
    simp only [Deposit.constraints, checkAdapterProgram, except_bind_ok, checkActiveEntry_ok,
      check_ok, checkExecutable_ok, checkSeeds_ok, checkAddress_ok] at h
    obtain ⟨_, -, _, ⟨hseeds, hactive⟩, _, ⟨_, hprogram, hexecutable⟩, _, hposseeds, _, -, _,
      howner, _, -, _, hpoolkey, _, -, _, hauthority, _, hmint, _, -, hsysvar⟩ := h
    exact ⟨⟨_, hlist⟩, hsigned, ⟨hentry, hseeds, hactive, hexecutable⟩, hprogram, hposition,
      hposseeds, howner, hpool, hpoolkey, hata, hauthority, hmint, hsysvar⟩
  · simp [throw, throwThe, MonadExceptOf.throw] at hload

/-- The accounts an instruction runs with are determined by those it was handed. -/
theorem Deposit.Accepted.unique {accounts accounts' : Deposit}
    (h : accounts.Accepted curve ctx w) (h' : accounts'.Accepted curve ctx w) :
    accounts = accounts' := by
  obtain ⟨_, hslots⟩ := h.slots
  obtain ⟨_, hslots'⟩ := h'.slots
  rw [hslots] at hslots'
  simp only [List.cons.injEq] at hslots'
  obtain ⟨howner, hentry, hprogram, hposition, hpool, hata, hstate, hsysvar, -, hremaining⟩ :=
    hslots'
  obtain ⟨owner, ⟨_, _⟩, _, ⟨_, _⟩, ⟨_, _⟩, ⟨_, _⟩, _, _, _⟩ := accounts
  obtain ⟨owner', ⟨_, _⟩, _, ⟨_, _⟩, ⟨_, _⟩, ⟨_, _⟩, _, _, _⟩ := accounts'
  dsimp only at howner hentry hprogram hposition hpool hata hstate hsysvar hremaining
  subst howner hentry hprogram hposition hpool hata hstate hsysvar hremaining
  have hentry := h.gate.stored.symm.trans h'.gate.stored
  have hposition := h.position.symm.trans h'.position
  have hpool := h.pool.symm.trans h'.pool
  have hata := h.ata.symm.trans h'.ata
  simp only [Option.some.injEq] at hentry hposition hpool hata
  subst hentry hposition hpool hata
  rfl

theorem CurrentValue.accepted_of_load {accounts : CurrentValue}
    (hload : CurrentValue.load ctx w = .ok accounts)
    (h : accounts.constraints curve ctx w = .ok ()) : accounts.Accepted curve ctx w := by
  unfold CurrentValue.load at hload
  split at hload
  · rename_i hlist
    simp only [except_bind_ok, loadState_ok] at hload
    obtain ⟨_, ⟨rfl, hentry⟩, _, ⟨rfl, hposition⟩, hpure⟩ := hload
    obtain rfl := Except.ok.inj hpure
    simp only [CurrentValue.constraints, checkAdapterProgram, except_bind_ok, checkActiveEntry_ok,
      check_ok, checkExecutable_ok, checkSeeds_ok, checkAddress_ok] at h
    obtain ⟨_, ⟨hseeds, hactive⟩, _, ⟨_, hprogram, hexecutable⟩, _, hposseeds, hsysvar⟩ := h
    exact ⟨hlist, ⟨hentry, hseeds, hactive, hexecutable⟩, hprogram, hposition, hposseeds, hsysvar⟩
  · simp [throw, throwThe, MonadExceptOf.throw] at hload

end Accepted

/-! ### Calls and signatures -/

/-- The instructions whose adapter call the position signs. -/
def Ix.movesFunds : Ix → Bool
  | .openPosition | .deposit _ | .withdraw _ => true
  | _ => false

/-- The adapter an instruction is routed to. -/
def routedAdapter (ctx : Context) : Ix → Option Pubkey
  | .openPosition | .deposit _ | .withdraw _ => ctx.accounts[2]?.map (·.key)
  | .currentValue => ctx.accounts[1]?.map (·.key)
  | _ => none

/-- The signatures an instruction can pass on: those it was given, and, if it moves
funds, that of a signer's position in the adapter it is routed to. -/
def Signs (ctx : Context) (ix : Ix) (key : Pubkey) : Prop :=
  ctx.Signer key ∨ ix.movesFunds = true ∧ ∃ owner adapterProgram bump, ctx.Signer owner ∧
    routedAdapter ctx ix = some adapterProgram ∧ key = positionAddress owner adapterProgram bump

/-- The calls an instruction can issue from `w`, with what had been checked by then. -/
inductive Issued (curve : Curve) (ctx : Context) (w : Chain) : Ix → Call → Prop
  | createRegistry {accounts : InitializeRegistry} {bump : UInt8}
      (loaded : InitializeRegistry.load ctx w = .ok accounts)
      (found : findProgramAddress curve ctx.programId registrySeeds =
        some (accounts.registry.key, bump)) :
      Issued curve ctx w .initializeRegistry
        (createAccountCall ctx accounts.admin accounts.registry)
  | createEntry {name : String} {interfaceVersion bump : UInt8} {accounts : WhitelistAdapter}
      (loaded : WhitelistAdapter.load ctx w = .ok accounts)
      (found : findProgramAddress curve ctx.programId (entrySeeds accounts.adapterProgram.key) =
        some (accounts.adapterEntry.key, bump)) :
      Issued curve ctx w (.whitelistAdapter name interfaceVersion)
        (createAccountCall ctx accounts.admin accounts.adapterEntry)
  | createPosition {accounts : OpenPosition} {bump : UInt8} (loaded : accounts.Loadable ctx w)
      (found : findProgramAddress curve ctx.programId
        (positionSeeds accounts.owner.key accounts.adapterProgram.key) =
          some (accounts.position.key, bump)) :
      Issued curve ctx w .openPosition (createAccountCall ctx accounts.owner accounts.position)
  | createPool {accounts : OpenPosition} (loaded : accounts.Loadable ctx w) :
      Issued curve ctx w .openPosition
        (createAssociatedCall ctx accounts.owner accounts.position accounts.usdcMint.info
          accounts.positionUsdcPool)
  | initAdapter {accounts : OpenPosition} {bump : UInt8} (loaded : accounts.Loadable ctx w)
      (found : findProgramAddress curve ctx.programId
        (positionSeeds accounts.owner.key accounts.adapterProgram.key) =
          some (accounts.position.key, bump))
      (gate : Gate curve ctx w accounts.adapterEntry accounts.adapterProgram)
      (version : accounts.adapterEntry.data.interfaceVersion = adapterInterfaceVersion) :
      Issued curve ctx w .openPosition ⟨ctx.sysvar, ctx.stack,
        initializeInstruction accounts.adapterProgram accounts.instructionsSysvar
          accounts.position accounts.adapterState accounts.owner accounts.systemProgram
          accounts.remainingAccounts⟩
  | fund {amount : UInt64} {accounts : Deposit} (accepted : accounts.Accepted curve ctx w) :
      Issued curve ctx w (.deposit amount) ⟨ctx.sysvar, ctx.stack,
        transferInstruction accounts.ownerUsdcAta.info accounts.positionUsdcPool.info
          accounts.owner amount⟩
  | deposit {amount : UInt64} {accounts : Deposit} (accepted : accounts.Accepted curve ctx w)
      (version : accounts.adapterEntry.data.interfaceVersion = adapterInterfaceVersion) :
      Issued curve ctx w (.deposit amount) ⟨ctx.sysvar, ctx.stack,
        fundMovementInstruction accounts.adapterProgram accounts.instructionsSysvar
          accounts.position.info accounts.positionUsdcPool.info accounts.adapterState
          accounts.remainingAccounts (encodeDeposit amount [])⟩
  | withdraw {shares : UInt64} {accounts : Withdraw} (accepted : accounts.Accepted curve ctx w)
      (version : accounts.adapterEntry.data.interfaceVersion = adapterInterfaceVersion) :
      Issued curve ctx w (.withdraw shares) ⟨ctx.sysvar, ctx.stack,
        fundMovementInstruction accounts.adapterProgram accounts.instructionsSysvar
          accounts.position.info accounts.positionUsdcPool.info accounts.adapterState
          accounts.remainingAccounts (encodeWithdraw shares [])⟩
  | pay {shares amountOut : UInt64} {accounts : Withdraw}
      (accepted : accounts.Accepted curve ctx w) :
      Issued curve ctx w (.withdraw shares) ⟨ctx.sysvar, ctx.stack,
        transferInstruction accounts.positionUsdcPool.info accounts.ownerUsdcAta.info
          accounts.position.info amountOut⟩
  | value {accounts : CurrentValue} (accepted : accounts.Accepted curve ctx w)
      (version : accounts.adapterEntry.data.interfaceVersion = adapterInterfaceVersion) :
      Issued curve ctx w .currentValue ⟨ctx.sysvar, ctx.stack,
        currentValueInstruction accounts.adapterProgram accounts.instructionsSysvar
          accounts.position.info accounts.adapterState accounts.remainingAccounts⟩

section Traces

variable {curve : Curve} {exec : Callee ProgramState Event} {ctx : Context} {w : Chain}

private theorem signs_of_signer (ix : Ix) (key : Pubkey) (h : ctx.Signer key) :
    Signs ctx ix key := .inl h

theorem signerPdas_nil {pdas : List Pubkey} {key : Pubkey}
    (h : signerPdas curve ctx.programId [] = some pdas) (hkey : key ∈ pdas) : False := by
  obtain rfl : pdas = [] := by simpa [signerPdas] using h.symm
  simp at hkey

theorem signerPdas_single {seeds : Seeds} {bump : UInt8} {pdas : List Pubkey} {key : Pubkey}
    (h : signerPdas curve ctx.programId [(seeds, bump)] = some pdas) (hkey : key ∈ pdas) :
    createProgramAddress curve ctx.programId seeds bump = some key := by
  simp only [signerPdas, List.mapM_cons, List.mapM_nil] at h
  cases haddress : createProgramAddress curve ctx.programId seeds bump with
  | none => simp [haddress] at h
  | some address =>
    obtain rfl : [address] = pdas := by simpa [haddress] using h
    simpa [eq_comm] using hkey

/-- The position that signs is that of the owner in the adapter routed to. -/
private theorem signs_of_seeds {ix : Ix} {owner adapterProgram key : Pubkey} {bump : UInt8}
    (hprogram : ctx.programId = dispatcherId) (hmoves : ix.movesFunds = true)
    (howner : ctx.Signer owner) (hrouted : routedAdapter ctx ix = some adapterProgram)
    (h : createProgramAddress curve ctx.programId (positionSeeds owner adapterProgram) bump =
      some key) : Signs ctx ix key := by
  obtain ⟨-, rfl⟩ := createProgramAddress_eq_some.mp h
  exact .inr ⟨hmoves, owner, adapterProgram, bump, howner, hrouted, by rw [hprogram]; rfl⟩

theorem OpenPosition.Loadable.signer {accounts : OpenPosition} (h : accounts.Loadable ctx w) :
    ctx.Signer accounts.owner.key := by
  obtain ⟨_, _, hslots⟩ := h.slots
  exact ⟨accounts.owner, by simp [hslots], rfl, h.signed⟩

theorem Deposit.Accepted.signer {accounts : Deposit} (h : accounts.Accepted curve ctx w) :
    ctx.Signer accounts.owner.key := by
  obtain ⟨_, hslots⟩ := h.slots
  exact ⟨accounts.owner, by simp [hslots], rfl, h.signed⟩

theorem OpenPosition.Loadable.routed {accounts : OpenPosition} (h : accounts.Loadable ctx w) :
    routedAdapter ctx .openPosition = some accounts.adapterProgram.key := by
  obtain ⟨_, _, hslots⟩ := h.slots
  unfold routedAdapter
  rw [hslots]
  rfl

theorem Deposit.Accepted.routed_deposit {accounts : Deposit}
    (h : accounts.Accepted curve ctx w) (amount : UInt64) :
    routedAdapter ctx (.deposit amount) = some accounts.adapterProgram.key := by
  obtain ⟨_, hslots⟩ := h.slots
  unfold routedAdapter
  rw [hslots]
  rfl

theorem Deposit.Accepted.routed_withdraw {accounts : Withdraw}
    (h : accounts.Accepted curve ctx w) (shares : UInt64) :
    routedAdapter ctx (.withdraw shares) = some accounts.adapterProgram.key := by
  obtain ⟨_, hslots⟩ := h.slots
  unfold routedAdapter
  rw [hslots]
  rfl

/-- What a stored position signs with are its owner's seeds. -/
theorem Deposit.Accepted.signs {accounts : Deposit} {ix : Ix} {pdas : List Pubkey} {key : Pubkey}
    (h : accounts.Accepted curve ctx w) (hprogram : ctx.programId = dispatcherId)
    (hmoves : ix.movesFunds = true)
    (hrouted : routedAdapter ctx ix = some accounts.adapterProgram.key)
    (hpdas : signerPdas curve ctx.programId (signerSeeds accounts.position.data) = some pdas)
    (hkey : key ∈ pdas) : Signs ctx ix key := by
  have hseeds := signerPdas_single hpdas hkey
  rw [h.owner, ← h.program] at hseeds
  exact signs_of_seeds hprogram hmoves h.signer hrouted hseeds

theorem initializeRegistry_traced :
    Exec.Leaves (Traced exec ctx (Signs ctx .initializeRegistry)
      (Issued curve ctx w .initializeRegistry)) (initializeRegistry curve ctx) w := by
  refine Exec.Leaves.bind_read ?_
  refine Exec.Leaves.bind_ofExcept fun accounts hload => ?_
  refine Exec.Leaves.bind (initState_traced fun bump found => .createRegistry hload found)
    fun bump w₄ _ => ?_
  exact Exec.Leaves.bind_ofExcept fun _ _ => store_traced

theorem whitelistAdapter_traced {name : String} {interfaceVersion : UInt8} :
    Exec.Leaves (Traced exec ctx (Signs ctx (.whitelistAdapter name interfaceVersion))
      (Issued curve ctx w (.whitelistAdapter name interfaceVersion)))
      (whitelistAdapter curve ctx name interfaceVersion) w := by
  refine Exec.Leaves.bind_read ?_
  refine Exec.Leaves.bind_ofExcept fun accounts hload => ?_
  refine Exec.Leaves.bind (initState_traced fun bump found => .createEntry hload found)
    fun bump w₄ _ => ?_
  refine Exec.Leaves.bind_ofExcept fun _ _ => ?_
  refine Exec.Leaves.bind_require fun _ => ?_
  refine Exec.Leaves.bind_require fun _ => ?_
  refine Exec.Leaves.bind_require fun _ => ?_
  refine Exec.Leaves.bind_read ?_
  refine Exec.Leaves.bind_ofOption fun _ _ => ?_
  refine Exec.Leaves.bind emit_traced fun _ _ _ => ?_
  exact Exec.Leaves.bind store_traced fun _ _ _ => store_traced

theorem pauseAdapter_traced {paused : Bool} :
    Exec.Leaves (Traced exec ctx (Signs ctx (.pauseAdapter paused))
      (Issued curve ctx w (.pauseAdapter paused))) (pauseAdapter curve ctx paused) w := by
  refine Exec.Leaves.bind_read ?_
  refine Exec.Leaves.bind_ofExcept fun _ _ => ?_
  refine Exec.Leaves.bind_ofExcept fun _ _ => ?_
  exact Exec.Leaves.bind emit_traced fun _ _ _ => store_traced

theorem openPosition_traced (hprogram : ctx.programId = dispatcherId) :
    Exec.Leaves (Traced exec ctx (Signs ctx .openPosition) (Issued curve ctx w .openPosition))
      (openPosition curve exec ctx) w := by
  refine Exec.Leaves.bind_read ?_
  refine Exec.Leaves.bind_ofExcept fun accounts hload => ?_
  have loaded := OpenPosition.load_ok hload
  refine Exec.Leaves.bind (initState_traced fun bump found => .createPosition loaded found)
    fun bump w₄ hinit => ?_
  have found := (initState_ok hinit).1
  refine Exec.Leaves.bind (initAssociatedToken_traced (.createPool loaded)) fun _ w₅ _ => ?_
  refine Exec.Leaves.bind_ofExcept fun _ hconstraints => ?_
  have gate := OpenPosition.gate_of_constraints loaded hconstraints
  refine Exec.Leaves.bind_require fun version => ?_
  refine Exec.Leaves.bind_read ?_
  refine Exec.Leaves.bind (invokeSigned_traced (signs_of_signer _) (fun pdas key hpdas hkey => ?_)
    fun _ _ _ => .initAdapter loaded found gate version) fun _ w₉ _ => ?_
  · exact signs_of_seeds hprogram rfl loaded.signer loaded.routed (signerPdas_single hpdas hkey)
  · exact Exec.Leaves.bind emit_traced fun _ _ _ => store_traced

theorem readReturn_leaves {R : Chain → Chain → Prop} [Std.Refl R] [IsTrans _ R]
    {adapterProgram : AccountInfo} : Exec.Leaves R (readReturn adapterProgram) w := by
  refine Exec.Leaves.bind ?_ fun _ _ _ => Exec.leaves_ofOption _ _
  refine Exec.Leaves.bind (Exec.Leaves.bind_read (Exec.leaves_pure _))
    fun returned _ _ => ?_
  split
  · exact Exec.leaves_pure _
  · split_ifs <;> exact Exec.leaves_pure _

theorem deposit_traced (hprogram : ctx.programId = dispatcherId) {amount : UInt64} :
    Exec.Leaves (Traced exec ctx (Signs ctx (.deposit amount))
      (Issued curve ctx w (.deposit amount))) (deposit curve exec ctx amount) w := by
  refine Exec.Leaves.bind_read ?_
  refine Exec.Leaves.bind_ofExcept fun accounts hload => ?_
  refine Exec.Leaves.bind_ofExcept fun _ hconstraints => ?_
  have accepted := Deposit.accepted_of_load hload hconstraints
  refine Exec.Leaves.bind_require fun _ => ?_
  refine Exec.Leaves.bind_require fun version => ?_
  -- the owner's transfer carries no signature of the dispatcher's
  refine Exec.Leaves.bind (invokeSigned_traced (signs_of_signer _)
    (fun _ _ hpdas hkey => (signerPdas_nil hpdas hkey).elim) fun _ _ _ => .fund accepted)
    fun _ w₇ _ => ?_
  refine Exec.Leaves.bind (Exec.Leaves.bind (invokeSigned_traced (signs_of_signer _)
    (fun _ _ => accepted.signs hprogram rfl (accepted.routed_deposit amount))
    fun _ _ _ => .deposit accepted version) fun _ w₈ _ => readReturn_leaves) fun _ w₉ _ => ?_
  exact Exec.Leaves.bind emit_traced fun _ _ _ => store_traced

theorem withdraw_traced (hprogram : ctx.programId = dispatcherId) {shares : UInt64} :
    Exec.Leaves (Traced exec ctx (Signs ctx (.withdraw shares))
      (Issued curve ctx w (.withdraw shares))) (withdraw curve exec ctx shares) w := by
  refine Exec.Leaves.bind_read ?_
  refine Exec.Leaves.bind_ofExcept fun accounts hload => ?_
  refine Exec.Leaves.bind_ofExcept fun _ hconstraints => ?_
  have accepted := Deposit.accepted_of_load hload hconstraints
  refine Exec.Leaves.bind_require fun _ => ?_
  refine Exec.Leaves.bind_require fun version => ?_
  have hsigns : ∀ pdas key,
      signerPdas curve ctx.programId (signerSeeds accounts.position.data) = some pdas →
        key ∈ pdas → Signs ctx (.withdraw shares) key :=
    fun _ _ => accepted.signs hprogram rfl (accepted.routed_withdraw shares)
  refine Exec.Leaves.bind (Exec.Leaves.bind (invokeSigned_traced (signs_of_signer _) hsigns
    fun _ _ _ => .withdraw accepted version) fun _ w₇ _ => readReturn_leaves)
    fun amountOut w₈ _ => ?_
  refine Exec.Leaves.bind ?_ fun _ w₉ _ => Exec.Leaves.bind emit_traced fun _ _ _ => store_traced
  unfold payOut
  split_ifs
  · exact invokeSigned_traced (signs_of_signer _) hsigns fun _ _ _ => .pay accepted
  · exact Exec.leaves_pure _

theorem currentValue_traced :
    Exec.Leaves (Traced exec ctx (Signs ctx .currentValue) (Issued curve ctx w .currentValue))
      (currentValue curve exec ctx) w := by
  refine Exec.Leaves.bind_read ?_
  refine Exec.Leaves.bind_ofExcept fun accounts hload => ?_
  refine Exec.Leaves.bind_ofExcept fun _ hconstraints => ?_
  have accepted := CurrentValue.accepted_of_load hload hconstraints
  refine Exec.Leaves.bind_require fun version => ?_
  refine Exec.Leaves.bind (Exec.Leaves.bind (invokeSigned_traced (signs_of_signer _)
    (fun _ _ hpdas hkey => (signerPdas_nil hpdas hkey).elim) fun _ _ _ => .value accepted version)
    fun _ w₆ _ => readReturn_leaves) fun _ w₇ _ => ?_
  exact Exec.Leaves.bind setReturnData_traced fun _ _ _ => emit_traced

/-- Whatever an instruction does, completed or not, it issues only the calls above
and passes on only the signatures above. -/
theorem entry_traced (hprogram : ctx.programId = dispatcherId) (ix : Ix) :
    Exec.Leaves (Traced exec ctx (Signs ctx ix) (Issued curve ctx w ix))
      (entry curve exec ctx ix) w := by
  cases ix with
  | initializeRegistry => exact initializeRegistry_traced
  | whitelistAdapter name interfaceVersion => exact whitelistAdapter_traced
  | pauseAdapter paused => exact pauseAdapter_traced
  | openPosition => exact openPosition_traced hprogram
  | deposit amount => exact deposit_traced hprogram
  | withdraw shares => exact withdraw_traced hprogram
  | currentValue => exact currentValue_traced

end Traces

/-! ### Who signs a call -/

/-- The accounts an instruction hands on to the adapter behind the fixed ones. -/
def forwarded (ctx : Context) : Ix → List AccountInfo
  | .openPosition => ctx.accounts.drop 11
  | .deposit _ | .withdraw _ => ctx.accounts.drop 9
  | .currentValue => ctx.accounts.drop 5
  | _ => []

section Signers

variable {curve : Curve} {ctx : Context} {w : Chain} {key : Pubkey}
variable {sysvar : InstructionsSysvar} {stack : List Pubkey}

/-- A call forwarding accounts carries the signatures of its fixed accounts and
those the forwarded ones came with. -/
theorem mem_signers_forward {programId : Pubkey} {metas : List AccountMeta}
    {remaining : List AccountInfo} {data : InstructionData} :
    key ∈ Call.signers ⟨sysvar, stack, programId, forward metas remaining, data⟩ ↔
      (∃ m ∈ metas, m.isSigner = true ∧ key = m.pubkey) ∨
        ∃ info ∈ remaining, info.isSigner = true ∧ key = info.key := by
  simp only [Call.signers, forward, List.mem_map, List.mem_filter, List.mem_append]
  constructor
  · rintro ⟨m, ⟨hm | ⟨info, hinfo, rfl⟩, hsigner⟩, rfl⟩
    · exact .inl ⟨m, hm, hsigner, rfl⟩
    · exact .inr ⟨info, hinfo, hsigner, rfl⟩
  · rintro (⟨m, hm, hsigner, rfl⟩ | ⟨info, hinfo, hsigner, rfl⟩)
    · exact ⟨m, ⟨.inl hm, hsigner⟩, rfl⟩
    · exact ⟨_, ⟨.inr ⟨info, hinfo, rfl⟩, hsigner⟩, rfl⟩

theorem mem_signers_initialize {adapterProgram instructionsSysvar position adapterState rentPayer
    systemProgram : AccountInfo} {remaining : List AccountInfo} :
    key ∈ Call.signers ⟨sysvar, stack, initializeInstruction adapterProgram instructionsSysvar
        position adapterState rentPayer systemProgram remaining⟩ ↔
      (key = position.key ∨ key = rentPayer.key) ∨
        ∃ info ∈ remaining, info.isSigner = true ∧ key = info.key := by
  unfold initializeInstruction
  rw [mem_signers_forward]
  simp [AccountMeta.new, AccountMeta.newReadonly]

theorem mem_signers_fundMovement {adapterProgram instructionsSysvar position positionUsdcPool
    adapterState : AccountInfo} {remaining : List AccountInfo} {data : Bytes} :
    key ∈ Call.signers ⟨sysvar, stack, fundMovementInstruction adapterProgram instructionsSysvar
        position positionUsdcPool adapterState remaining data⟩ ↔
      key = position.key ∨ ∃ info ∈ remaining, info.isSigner = true ∧ key = info.key := by
  unfold fundMovementInstruction
  rw [mem_signers_forward]
  simp [AccountMeta.new, AccountMeta.newReadonly]

theorem mem_signers_currentValue {adapterProgram instructionsSysvar position
    adapterState : AccountInfo} {remaining : List AccountInfo} :
    key ∈ Call.signers ⟨sysvar, stack, currentValueInstruction adapterProgram instructionsSysvar
        position adapterState remaining⟩ ↔
      ∃ info ∈ remaining, info.isSigner = true ∧ key = info.key := by
  unfold currentValueInstruction
  rw [mem_signers_forward]
  simp [AccountMeta.newReadonly]

theorem mem_signers_transfer {source destination authority : AccountInfo} {amount : UInt64} :
    key ∈ Call.signers ⟨sysvar, stack, transferInstruction source destination authority amount⟩ ↔
      key = authority.key := by
  simp [transferInstruction, Call.signers, AccountMeta.new, AccountMeta.newReadonly]

theorem mem_signers_createAccount {payer info : AccountInfo} :
    key ∈ (createAccountCall ctx payer info).signers ↔ key = payer.key ∨ key = info.key := by
  simp [createAccountCall, Call.signers, AccountMeta.new]

theorem mem_signers_createAssociated {payer wallet mint info : AccountInfo} :
    key ∈ (createAssociatedCall ctx payer wallet mint info).signers ↔ key = payer.key := by
  simp [createAssociatedCall, Call.signers, AccountMeta.new, AccountMeta.newReadonly]

theorem OpenPosition.Loadable.forwarded {accounts : OpenPosition} (h : accounts.Loadable ctx w) :
    Dispatcher.forwarded ctx .openPosition = accounts.remainingAccounts := by
  obtain ⟨_, _, hslots⟩ := h.slots
  unfold Dispatcher.forwarded
  rw [hslots]
  rfl

theorem Deposit.Accepted.forwarded_deposit {accounts : Deposit} (h : accounts.Accepted curve ctx w)
    (amount : UInt64) :
    forwarded ctx (.deposit amount) = accounts.remainingAccounts := by
  obtain ⟨_, hslots⟩ := h.slots
  unfold forwarded
  rw [hslots]
  rfl

theorem Deposit.Accepted.forwarded_withdraw {accounts : Withdraw}
    (h : accounts.Accepted curve ctx w) (shares : UInt64) :
    forwarded ctx (.withdraw shares) = accounts.remainingAccounts := by
  obtain ⟨_, hslots⟩ := h.slots
  unfold forwarded
  rw [hslots]
  rfl

theorem CurrentValue.Accepted.forwarded {accounts : CurrentValue}
    (h : accounts.Accepted curve ctx w) :
    Dispatcher.forwarded ctx .currentValue = accounts.remainingAccounts := by
  unfold Dispatcher.forwarded
  rw [h.slots]
  rfl

/-- What is forwarded was handed to the instruction. -/
theorem signer_of_forwarded {ix : Ix} {info : AccountInfo} (h : info ∈ forwarded ctx ix)
    (hsigner : info.isSigner = true) : ctx.Signer info.key := by
  refine ⟨info, ?_, rfl, hsigner⟩
  cases ix with
  | initializeRegistry | whitelistAdapter | pauseAdapter => exact absurd h List.not_mem_nil
  | openPosition | deposit | withdraw | currentValue => exact List.mem_of_mem_drop h

/-- Paying out takes nobody's signature but the position's. -/
theorem payOut_framed {exec : Callee ProgramState Event} {locked : Pubkey → Prop}
    {w' : Chain} {accounts : Withdraw} {amountOut : UInt64}
    (hexec : Lawful locked exec) (h : payOut curve exec ctx accounts amountOut w = (.ok (), w')) :
    Framed locked (fun key => key = accounts.position.key ∨ SignedBelow ctx.stack key) w w' := by
  unfold payOut at h
  split_ifs at h
  · refine (invokeSigned_framed hexec h).mono (fun _ => id) fun key hkey => ?_
    exact hkey.imp_left mem_signers_transfer.mp
  · obtain ⟨-, rfl⟩ := Exec.pure_ok.mp h
    exact .refl _

end Signers

/-! ### Completed instructions -/

/-- The world after an event of the program running in `ctx`. -/
def announced (ctx : Context) (event : Event) (w : Chain) : Chain :=
  { w with events := (ctx.programId, event) :: w.events }

/-- The world after a typed account of that program is written. -/
def written {τ : Type} [AnchorState ProgramState τ] (ctx : Context) (key : Pubkey) (state : τ)
    (w : Chain) : Chain :=
  w.put key ⟨ctx.programId, false, .anchor (AnchorState.encode state)⟩

/-- The outcomes of an instruction that completed. Between the world it started in
and the one it wrote its accounts in lie only calls of `exec`, with the signatures
it can pass on, and benign steps. -/
inductive Completed (curve : Curve) (exec : Callee ProgramState Event) (ctx : Context)
    (w : Chain) : Ix → Chain → Prop
  | initializeRegistry {accounts : InitializeRegistry} {bump : UInt8} {w₁ : Chain}
      (loaded : InitializeRegistry.load ctx w = .ok accounts)
      (created : initState curve ctx accounts.admin registrySeeds accounts.registry w =
        (.ok bump, w₁))
      (owned : w₁.ownedBy ctx.programId accounts.registry.key = true) :
      Completed curve exec ctx w .initializeRegistry
        (written ctx accounts.registry.key
          ({ admin := accounts.admin.key, adapterCount := 0, bump } : Registry) w₁)
  | whitelistAdapter {name : String} {interfaceVersion bump : UInt8} {adapterCount : UInt32}
      {addedAt : Int64} {accounts : WhitelistAdapter} {w₁ : Chain}
      (loaded : WhitelistAdapter.load ctx w = .ok accounts)
      (passed : accounts.constraints curve ctx w = .ok ())
      (created : initState curve ctx accounts.admin (entrySeeds accounts.adapterProgram.key)
        accounts.adapterEntry w = (.ok bump, w₁))
      (short : name.utf8ByteSize ≤ maxNameLen)
      (version : interfaceVersion = adapterInterfaceVersion)
      (room : accounts.registry.data.adapterCount < maxAdapters)
      (counted : checkedAddU32 accounts.registry.data.adapterCount 1 = some adapterCount)
      (ownedRegistry : w₁.ownedBy ctx.programId accounts.registry.key = true)
      (ownedEntry : (written ctx accounts.registry.key
        { accounts.registry.data with adapterCount } w₁).ownedBy ctx.programId
          accounts.adapterEntry.key = true) :
      Completed curve exec ctx w (.whitelistAdapter name interfaceVersion)
        (written ctx accounts.adapterEntry.key
          ({ adapterProgram := accounts.adapterProgram.key, interfaceVersion, name,
             isActive := true, addedAt, bump } : AdapterEntry)
          (written ctx accounts.registry.key { accounts.registry.data with adapterCount }
            (announced ctx
              (.adapterWhitelisted accounts.adapterProgram.key name interfaceVersion) w₁)))
  | pauseAdapter {paused : Bool} {accounts : PauseAdapter}
      (loaded : PauseAdapter.load ctx w = .ok accounts)
      (passed : accounts.constraints curve ctx = .ok ())
      (owned : w.ownedBy ctx.programId accounts.adapterEntry.key = true) :
      Completed curve exec ctx w (.pauseAdapter paused)
        (written ctx accounts.adapterEntry.key
          { accounts.adapterEntry.data with isActive := !paused }
          (announced ctx
            (.adapterPaused accounts.adapterEntry.data.adapterProgram (!paused)) w))
  | openPosition {accounts : OpenPosition} {bump : UInt8} {createdAt : Int64}
      {w₁ w₂ w₃ : Chain}
      (loaded : accounts.Loadable ctx w)
      (gate : Gate curve ctx w accounts.adapterEntry accounts.adapterProgram)
      (version : accounts.adapterEntry.data.interfaceVersion = adapterInterfaceVersion)
      (created : initState curve ctx accounts.owner
        (positionSeeds accounts.owner.key accounts.adapterProgram.key) accounts.position w =
          (.ok bump, w₁))
      (pooled : initAssociatedToken curve ctx accounts.owner accounts.position
        accounts.usdcMint.info accounts.positionUsdcPool w₁ = (.ok (), w₂))
      (routed : routeInitialize curve exec ctx accounts.adapterProgram
        accounts.instructionsSysvar accounts.position accounts.adapterState accounts.owner
        accounts.systemProgram accounts.remainingAccounts
        [(positionSeeds accounts.owner.key accounts.adapterProgram.key, bump)] w₂ =
          (.ok (), w₃))
      (owned : w₃.ownedBy ctx.programId accounts.position.key = true) :
      Completed curve exec ctx w .openPosition
        (written ctx accounts.position.key
          ({ owner := accounts.owner.key
             adapterProgram := accounts.adapterProgram.key
             usdcPool := accounts.positionUsdcPool.key
             usdcMint := accounts.usdcMint.key
             createdAt, bump } : Position)
          (announced ctx (.positionOpened accounts.owner.key accounts.adapterProgram.key
            accounts.position.key) w₃))
  | deposit {amount shares : UInt64} {accounts : Deposit} {w₁ w₂ : Chain}
      (accepted : accounts.Accepted curve ctx w)
      (positive : 0 < amount)
      (version : accounts.adapterEntry.data.interfaceVersion = adapterInterfaceVersion)
      (funded : transfer curve exec ctx accounts.ownerUsdcAta.info accounts.positionUsdcPool.info
        accounts.owner amount [] w = (.ok (), w₁))
      (routed : fundMovementIx curve exec ctx (encodeDeposit amount []) accounts.adapterProgram
        accounts.instructionsSysvar accounts.position.info accounts.positionUsdcPool.info
        accounts.adapterState accounts.remainingAccounts (signerSeeds accounts.position.data) w₁ =
          (.ok (), w₂))
      (returned : w₂.returnData = (accounts.adapterProgram.key, leBytes64 shares))
      (owned : w₂.ownedBy ctx.programId accounts.position.key = true) :
      Completed curve exec ctx w (.deposit amount)
        (written ctx accounts.position.key accounts.position.data
          (announced ctx (.deposited accounts.position.key amount shares) w₂))
  | withdraw {shares amountOut : UInt64} {accounts : Withdraw} {w₁ w₂ : Chain}
      (accepted : accounts.Accepted curve ctx w)
      (positive : 0 < shares)
      (version : accounts.adapterEntry.data.interfaceVersion = adapterInterfaceVersion)
      (routed : fundMovementIx curve exec ctx (encodeWithdraw shares []) accounts.adapterProgram
        accounts.instructionsSysvar accounts.position.info accounts.positionUsdcPool.info
        accounts.adapterState accounts.remainingAccounts (signerSeeds accounts.position.data) w =
          (.ok (), w₁))
      (returned : w₁.returnData = (accounts.adapterProgram.key, leBytes64 amountOut))
      (paid : payOut curve exec ctx accounts amountOut w₁ = (.ok (), w₂))
      (owned : w₂.ownedBy ctx.programId accounts.position.key = true) :
      Completed curve exec ctx w (.withdraw shares)
        (written ctx accounts.position.key accounts.position.data
          (announced ctx (.withdrawn accounts.position.key shares amountOut) w₂))
  | currentValue {value : UInt64} {accounts : CurrentValue} {w₁ : Chain}
      (accepted : accounts.Accepted curve ctx w)
      (version : accounts.adapterEntry.data.interfaceVersion = adapterInterfaceVersion)
      (routed : invoke curve exec ctx
        (currentValueInstruction accounts.adapterProgram accounts.instructionsSysvar
          accounts.position.info accounts.adapterState accounts.remainingAccounts)
        DispatcherError.adapterMismatch w = (.ok (), w₁))
      (returned : w₁.returnData = (accounts.adapterProgram.key, leBytes64 value)) :
      Completed curve exec ctx w .currentValue
        (announced ctx (.valueRead accounts.position.key value)
          { w₁ with returnData := (ctx.programId, leBytes64 value) })

section Completion

variable {curve : Curve} {exec : Callee ProgramState Event} {ctx : Context} {w w' : Chain}

theorem initializeRegistry_completed
    (h : initializeRegistry curve ctx w = (.ok (), w')) :
    Completed curve exec ctx w .initializeRegistry w' := by
  simp only [initializeRegistry, Exec.bind_ok, Exec.read_ok, Exec.ofExcept_ok, store_ok] at h
  obtain ⟨_, _, ⟨rfl, rfl⟩, accounts, _, ⟨loaded, rfl⟩, bump, w₁, hinit, _, _, ⟨-, rfl⟩, owned,
    rfl⟩ := h
  exact .initializeRegistry loaded hinit owned

theorem whitelistAdapter_completed {name : String} {interfaceVersion : UInt8}
    (h : whitelistAdapter curve ctx name interfaceVersion w = (.ok (), w')) :
    Completed curve exec ctx w (.whitelistAdapter name interfaceVersion) w' := by
  simp only [whitelistAdapter, emit, Exec.bind_ok, Exec.read_ok, Exec.ofExcept_ok,
    Exec.require_ok, Exec.ofOption_ok, Exec.modify_ok, store_ok] at h
  obtain ⟨_, _, ⟨rfl, rfl⟩, accounts, _, ⟨loaded, rfl⟩, bump, w₁, hinit, _, _, ⟨passed, rfl⟩,
    _, _, ⟨short, rfl⟩, _, _, ⟨version, rfl⟩, _, _, ⟨room, rfl⟩, _, _, ⟨rfl, rfl⟩, adapterCount, _,
    ⟨counted, rfl⟩, _, _, rfl, _, _, ⟨ownedRegistry, rfl⟩, ownedEntry, rfl⟩ := h
  exact .whitelistAdapter loaded passed hinit short version room counted ownedRegistry ownedEntry

theorem pauseAdapter_completed {paused : Bool}
    (h : pauseAdapter curve ctx paused w = (.ok (), w')) :
    Completed curve exec ctx w (.pauseAdapter paused) w' := by
  simp only [pauseAdapter, emit, Exec.bind_ok, Exec.read_ok, Exec.ofExcept_ok, Exec.modify_ok,
    store_ok] at h
  obtain ⟨_, _, ⟨rfl, rfl⟩, accounts, _, ⟨loaded, rfl⟩, _, _, ⟨passed, rfl⟩, _, _, rfl, owned,
    rfl⟩ := h
  exact .pauseAdapter loaded passed owned

theorem openPosition_completed
    (h : openPosition curve exec ctx w = (.ok (), w')) :
    Completed curve exec ctx w .openPosition w' := by
  simp only [openPosition, emit, Exec.bind_ok, Exec.read_ok, Exec.ofExcept_ok, Exec.require_ok,
    Exec.modify_ok, store_ok] at h
  obtain ⟨_, _, ⟨rfl, rfl⟩, accounts, _, ⟨hload, rfl⟩, bump, w₁, created, _, w₂, pooled, _, _,
    ⟨hconstraints, rfl⟩, _, _, ⟨version, rfl⟩, _, _, ⟨rfl, rfl⟩, _, w₃, routed, _, _, rfl, owned,
    rfl⟩ := h
  have loaded := OpenPosition.load_ok hload
  have gate := OpenPosition.gate_of_constraints loaded hconstraints
  exact .openPosition loaded gate version created pooled routed owned

theorem deposit_completed {amount : UInt64}
    (h : deposit curve exec ctx amount w = (.ok (), w')) :
    Completed curve exec ctx w (.deposit amount) w' := by
  simp only [deposit, routeDeposit, emit, Exec.bind_ok, Exec.read_ok, Exec.ofExcept_ok,
    Exec.require_ok, Exec.modify_ok, readReturn_ok, store_ok] at h
  obtain ⟨_, _, ⟨rfl, rfl⟩, accounts, _, ⟨hload, rfl⟩, _, _, ⟨hconstraints, rfl⟩, _, _,
    ⟨positive, rfl⟩, _, _, ⟨version, rfl⟩, _, w₁, funded, shares, _, ⟨_, w₂, routed, returned, rfl⟩,
    _, _, rfl, owned, rfl⟩ := h
  exact .deposit (Deposit.accepted_of_load hload hconstraints) positive version funded routed
    returned owned

theorem withdraw_completed {shares : UInt64}
    (h : withdraw curve exec ctx shares w = (.ok (), w')) :
    Completed curve exec ctx w (.withdraw shares) w' := by
  simp only [withdraw, routeWithdraw, emit, Exec.bind_ok, Exec.read_ok, Exec.ofExcept_ok,
    Exec.require_ok, Exec.modify_ok, readReturn_ok, store_ok] at h
  obtain ⟨_, _, ⟨rfl, rfl⟩, accounts, _, ⟨hload, rfl⟩, _, _, ⟨hconstraints, rfl⟩, _, _,
    ⟨positive, rfl⟩, _, _, ⟨version, rfl⟩, amountOut, _, ⟨_, w₁, routed, returned, rfl⟩, _, w₂,
    paid, _, _, rfl, owned, rfl⟩ := h
  exact .withdraw (Deposit.accepted_of_load hload hconstraints) positive version routed returned
    paid owned

theorem currentValue_completed (h : currentValue curve exec ctx w = (.ok (), w')) :
    Completed curve exec ctx w .currentValue w' := by
  simp only [currentValue, routeCurrentValue, emit, setReturnData, Exec.bind_ok, Exec.read_ok,
    Exec.ofExcept_ok, Exec.require_ok, Exec.modify_ok, readReturn_ok] at h
  obtain ⟨_, _, ⟨rfl, rfl⟩, accounts, _, ⟨hload, rfl⟩, _, _, ⟨hconstraints, rfl⟩, _, _,
    ⟨version, rfl⟩, value, _, ⟨_, w₁, routed, returned, rfl⟩, _, _, rfl, rfl⟩ := h
  exact .currentValue (CurrentValue.accepted_of_load hload hconstraints) version routed returned

/-- Every completed instruction has one of the outcomes above. -/
theorem entry_completed {ix : Ix}
    (h : entry curve exec ctx ix w = (.ok (), w')) : Completed curve exec ctx w ix w' := by
  cases ix with
  | initializeRegistry => exact initializeRegistry_completed h
  | whitelistAdapter name interfaceVersion => exact whitelistAdapter_completed h
  | pauseAdapter paused => exact pauseAdapter_completed h
  | openPosition => exact openPosition_completed h
  | deposit amount => exact deposit_completed h
  | withdraw shares => exact withdraw_completed h
  | currentValue => exact currentValue_completed h

end Completion

end YieldAdapter.Dispatcher

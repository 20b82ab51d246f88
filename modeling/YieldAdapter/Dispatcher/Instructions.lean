import YieldAdapter.Dispatcher.Routing

/-!
# The dispatcher's instructions

Each instruction loads its accounts, creates those marked `init`, checks the
constraints, runs its handler, and writes the typed accounts marked `mut` back.
-/

set_option autoImplicit false

namespace YieldAdapter.Dispatcher

open Solana

/-! ### Accounts -/

structure InitializeRegistry where
  admin : AccountInfo
  registry : AccountInfo
  systemProgram : AccountInfo

structure WhitelistAdapter where
  admin : AccountInfo
  registry : Loaded Registry
  adapterEntry : AccountInfo
  adapterProgram : AccountInfo
  systemProgram : AccountInfo

structure PauseAdapter where
  admin : AccountInfo
  registry : Loaded Registry
  adapterEntry : Loaded AdapterEntry

structure OpenPosition where
  owner : AccountInfo
  adapterEntry : Loaded AdapterEntry
  adapterProgram : AccountInfo
  position : AccountInfo
  usdcMint : Loaded Mint
  positionUsdcPool : AccountInfo
  adapterState : AccountInfo
  instructionsSysvar : AccountInfo
  systemProgram : AccountInfo
  remainingAccounts : List AccountInfo

/-- The accounts of `deposit`, and of `withdraw`, whose constraints are the same. -/
structure Deposit where
  owner : AccountInfo
  adapterEntry : Loaded AdapterEntry
  adapterProgram : AccountInfo
  position : Loaded Position
  positionUsdcPool : Loaded TokenAccount
  ownerUsdcAta : Loaded TokenAccount
  adapterState : AccountInfo
  instructionsSysvar : AccountInfo
  remainingAccounts : List AccountInfo

abbrev Withdraw := Deposit

structure CurrentValue where
  adapterEntry : Loaded AdapterEntry
  adapterProgram : AccountInfo
  position : Loaded Position
  adapterState : AccountInfo
  instructionsSysvar : AccountInfo
  remainingAccounts : List AccountInfo

section Accounts

variable (curve : Curve) (ctx : Context) (w : Chain)

def InitializeRegistry.load : Except Error InitializeRegistry := do
  match ctx.accounts with
  | admin :: registry :: systemProgram :: _ =>
    checkSigner admin
    checkProgram w systemProgramId systemProgram
    pure { admin, registry, systemProgram }
  | _ => throw (.anchor .accountNotEnoughKeys)

def WhitelistAdapter.load : Except Error WhitelistAdapter := do
  match ctx.accounts with
  | admin :: registry :: adapterEntry :: adapterProgram :: systemProgram :: _ =>
    checkSigner admin
    let registry ← loadState Registry w registry
    checkProgram w systemProgramId systemProgram
    pure { admin, registry, adapterEntry, adapterProgram, systemProgram }
  | _ => throw (.anchor .accountNotEnoughKeys)

/-- `seeds = [REGISTRY_SEED]` with the stored bump. -/
def checkRegistrySeeds (registry : Loaded Registry) : Except Error Unit :=
  checkSeeds curve ctx.programId registrySeeds registry.data.bump registry.info

/-- `registry.admin == admin.key()`. -/
def checkAdmin (registry : Loaded Registry) (admin : AccountInfo) : Except Error Unit :=
  check (registry.data.admin = admin.key) DispatcherError.unauthorized

def WhitelistAdapter.constraints (accounts : WhitelistAdapter) : Except Error Unit := do
  checkMut accounts.admin
  checkRegistrySeeds curve ctx accounts.registry
  checkMut accounts.registry.info
  checkAdmin accounts.registry accounts.admin
  checkExecutable w accounts.adapterProgram

def PauseAdapter.load : Except Error PauseAdapter := do
  match ctx.accounts with
  | admin :: registry :: adapterEntry :: _ =>
    checkSigner admin
    let registry ← loadState Registry w registry
    let adapterEntry ← loadState AdapterEntry w adapterEntry
    pure { admin, registry, adapterEntry }
  | _ => throw (.anchor .accountNotEnoughKeys)

/-- The entry's seeds are derived from the adapter it names itself. -/
def PauseAdapter.constraints (accounts : PauseAdapter) : Except Error Unit := do
  checkRegistrySeeds curve ctx accounts.registry
  checkAdmin accounts.registry accounts.admin
  checkSeeds curve ctx.programId (entrySeeds accounts.adapterEntry.data.adapterProgram)
    accounts.adapterEntry.data.bump accounts.adapterEntry.info
  checkMut accounts.adapterEntry.info

/-- `seeds = [ENTRY_SEED, adapter_program]` and `adapter_entry.is_active`. -/
def checkActiveEntry (adapterEntry : Loaded AdapterEntry) (adapterProgram : AccountInfo) :
    Except Error Unit := do
  checkSeeds curve ctx.programId (entrySeeds adapterProgram.key) adapterEntry.data.bump
    adapterEntry.info
  check (adapterEntry.data.isActive = true) DispatcherError.adapterInactive

/-- `adapter_program.key() == position.adapter_program`, and `executable`. -/
def checkAdapterProgram (adapterProgram : AccountInfo) (position : Loaded Position) :
    Except Error Unit := do
  check (adapterProgram.key = position.data.adapterProgram) DispatcherError.adapterMismatch
  checkExecutable w adapterProgram

def OpenPosition.load : Except Error OpenPosition := do
  match ctx.accounts with
  | owner :: adapterEntry :: adapterProgram :: position :: usdcMint :: positionUsdcPool ::
      adapterState :: instructionsSysvar :: systemProgram :: tokenProgram ::
      associatedTokenProgram :: remainingAccounts =>
    checkSigner owner
    let adapterEntry ← loadState AdapterEntry w adapterEntry
    let usdcMint ← loadMint w usdcMint
    checkProgram w systemProgramId systemProgram
    checkProgram w tokenProgramId tokenProgram
    checkProgram w associatedTokenProgramId associatedTokenProgram
    pure { owner, adapterEntry, adapterProgram, position, usdcMint, positionUsdcPool, adapterState,
           instructionsSysvar, systemProgram, remainingAccounts }
  | _ => throw (.anchor .accountNotEnoughKeys)

def OpenPosition.constraints (accounts : OpenPosition) : Except Error Unit := do
  checkMut accounts.owner
  checkActiveEntry curve ctx accounts.adapterEntry accounts.adapterProgram
  checkExecutable w accounts.adapterProgram
  checkMut accounts.adapterState
  checkAddress sysvarInstructionsId accounts.instructionsSysvar (.anchor .constraintAddress)

def Deposit.load : Except Error Deposit := do
  match ctx.accounts with
  | owner :: adapterEntry :: adapterProgram :: position :: positionUsdcPool :: ownerUsdcAta ::
      adapterState :: instructionsSysvar :: tokenProgram :: remainingAccounts =>
    checkSigner owner
    let adapterEntry ← loadState AdapterEntry w adapterEntry
    let position ← loadState Position w position
    let positionUsdcPool ← loadToken w positionUsdcPool
    let ownerUsdcAta ← loadToken w ownerUsdcAta
    checkProgram w tokenProgramId tokenProgram
    pure { owner, adapterEntry, adapterProgram, position, positionUsdcPool, ownerUsdcAta,
           adapterState, instructionsSysvar, remainingAccounts }
  | _ => throw (.anchor .accountNotEnoughKeys)

def Deposit.constraints (accounts : Deposit) : Except Error Unit := do
  checkMut accounts.owner
  checkActiveEntry curve ctx accounts.adapterEntry accounts.adapterProgram
  checkAdapterProgram w accounts.adapterProgram accounts.position
  checkSeeds curve ctx.programId (positionSeeds accounts.owner.key accounts.adapterProgram.key)
    accounts.position.data.bump accounts.position.info
  checkMut accounts.position.info
  check (accounts.position.data.owner = accounts.owner.key) DispatcherError.unauthorized
  checkMut accounts.positionUsdcPool.info
  checkAddress accounts.position.data.usdcPool accounts.positionUsdcPool.info
    DispatcherError.adapterMismatch
  checkMut accounts.ownerUsdcAta.info
  check (accounts.ownerUsdcAta.data.authority = accounts.owner.key) (.anchor .constraintTokenOwner)
  check (accounts.ownerUsdcAta.data.mint = accounts.position.data.usdcMint)
    (.anchor .constraintTokenMint)
  checkMut accounts.adapterState
  checkAddress sysvarInstructionsId accounts.instructionsSysvar (.anchor .constraintAddress)

def CurrentValue.load : Except Error CurrentValue := do
  match ctx.accounts with
  | adapterEntry :: adapterProgram :: position :: adapterState :: instructionsSysvar ::
      remainingAccounts =>
    let adapterEntry ← loadState AdapterEntry w adapterEntry
    let position ← loadState Position w position
    pure { adapterEntry, adapterProgram, position, adapterState, instructionsSysvar,
           remainingAccounts }
  | _ => throw (.anchor .accountNotEnoughKeys)

def CurrentValue.constraints (accounts : CurrentValue) : Except Error Unit := do
  checkActiveEntry curve ctx accounts.adapterEntry accounts.adapterProgram
  checkAdapterProgram w accounts.adapterProgram accounts.position
  checkSeeds curve ctx.programId
    (positionSeeds accounts.position.data.owner accounts.adapterProgram.key)
    accounts.position.data.bump accounts.position.info
  checkAddress sysvarInstructionsId accounts.instructionsSysvar (.anchor .constraintAddress)

end Accounts

/-! ### Handlers -/

section Handlers

variable (curve : Curve) (exec : Callee ProgramState Event) (ctx : Context)

def initializeRegistry : Exec Chain Unit := do
  let w ← Exec.read
  let accounts ← Exec.ofExcept (InitializeRegistry.load ctx w)
  let bump ← initState curve ctx accounts.admin registrySeeds accounts.registry
  -- `init` runs before the constraints of the payer
  Exec.ofExcept (checkMut accounts.admin)
  store Registry ctx accounts.registry.key
    { admin := accounts.admin.key, adapterCount := 0, bump }

def whitelistAdapter (name : String) (interfaceVersion : UInt8) : Exec Chain Unit := do
  let w ← Exec.read
  let accounts ← Exec.ofExcept (WhitelistAdapter.load ctx w)
  let bump ← initState curve ctx accounts.admin (entrySeeds accounts.adapterProgram.key)
    accounts.adapterEntry
  Exec.ofExcept (accounts.constraints curve ctx w)
  Exec.require (name.utf8ByteSize ≤ maxNameLen) DispatcherError.nameTooLong
  Exec.require (interfaceVersion = adapterInterfaceVersion) DispatcherError.versionMismatch
  Exec.require (accounts.registry.data.adapterCount < maxAdapters) DispatcherError.registryFull
  let clock := (← Exec.read).clock
  let adapterCount ← Exec.ofOption (checkedAddU32 accounts.registry.data.adapterCount 1)
    DispatcherError.mathOverflow
  emit ctx (.adapterWhitelisted accounts.adapterProgram.key name interfaceVersion)
  -- both accounts are written back when the handler returns
  store Registry ctx accounts.registry.key { accounts.registry.data with adapterCount }
  store AdapterEntry ctx accounts.adapterEntry.key
    { adapterProgram := accounts.adapterProgram.key
      interfaceVersion
      name
      isActive := true
      addedAt := clock.unixTimestamp
      bump }

def pauseAdapter (paused : Bool) : Exec Chain Unit := do
  let w ← Exec.read
  let accounts ← Exec.ofExcept (PauseAdapter.load ctx w)
  Exec.ofExcept (accounts.constraints curve ctx)
  emit ctx (.adapterPaused accounts.adapterEntry.data.adapterProgram (!paused))
  store AdapterEntry ctx accounts.adapterEntry.key
    { accounts.adapterEntry.data with isActive := !paused }

def openPosition : Exec Chain Unit := do
  let w ← Exec.read
  let accounts ← Exec.ofExcept (OpenPosition.load ctx w)
  let bump ← initState curve ctx accounts.owner
    (positionSeeds accounts.owner.key accounts.adapterProgram.key) accounts.position
  initAssociatedToken curve ctx accounts.owner accounts.position accounts.usdcMint.info
    accounts.positionUsdcPool
  Exec.ofExcept (accounts.constraints curve ctx w)
  Exec.require (accounts.adapterEntry.data.interfaceVersion = adapterInterfaceVersion)
    DispatcherError.versionMismatch
  let clock := (← Exec.read).clock
  routeInitialize curve exec ctx accounts.adapterProgram accounts.instructionsSysvar
    accounts.position accounts.adapterState accounts.owner accounts.systemProgram
    accounts.remainingAccounts
    [(positionSeeds accounts.owner.key accounts.adapterProgram.key, bump)]
  emit ctx (.positionOpened accounts.owner.key accounts.adapterProgram.key accounts.position.key)
  -- the account holds its data only from here on, after the adapter's call
  store Position ctx accounts.position.key
    { owner := accounts.owner.key
      adapterProgram := accounts.adapterProgram.key
      usdcPool := accounts.positionUsdcPool.key
      usdcMint := accounts.usdcMint.key
      createdAt := clock.unixTimestamp
      bump }

/-- The seeds by which a stored position signs. -/
def signerSeeds (position : Position) : List (Seeds × UInt8) :=
  [(positionSeeds position.owner position.adapterProgram, position.bump)]

def deposit (amount : UInt64) : Exec Chain Unit := do
  let w ← Exec.read
  let accounts ← Exec.ofExcept (Deposit.load ctx w)
  Exec.ofExcept (accounts.constraints curve ctx w)
  Exec.require (0 < amount) DispatcherError.zeroAmount
  Exec.require (accounts.adapterEntry.data.interfaceVersion = adapterInterfaceVersion)
    DispatcherError.versionMismatch
  -- the owner signs for this one, so it needs no seeds
  transfer curve exec ctx accounts.ownerUsdcAta.info accounts.positionUsdcPool.info accounts.owner
    amount []
  let shares ← routeDeposit curve exec ctx accounts.adapterProgram accounts.instructionsSysvar
    accounts.position.info accounts.positionUsdcPool.info accounts.adapterState
    accounts.remainingAccounts amount (signerSeeds accounts.position.data)
  emit ctx (.deposited accounts.position.key amount shares)
  -- `position` is `mut`, and is written back as it was read
  store Position ctx accounts.position.key accounts.position.data

/-- Forward the redeemed USDC to the owner; nothing is transferred for a payout of zero. -/
def payOut (accounts : Withdraw) (amountOut : UInt64) : Exec Chain Unit :=
  if 0 < amountOut then
    transfer curve exec ctx accounts.positionUsdcPool.info accounts.ownerUsdcAta.info
      accounts.position.info amountOut (signerSeeds accounts.position.data)
  else
    pure ()

def withdraw (shares : UInt64) : Exec Chain Unit := do
  let w ← Exec.read
  let accounts ← Exec.ofExcept (Deposit.load ctx w)
  Exec.ofExcept (accounts.constraints curve ctx w)
  Exec.require (0 < shares) DispatcherError.zeroAmount
  Exec.require (accounts.adapterEntry.data.interfaceVersion = adapterInterfaceVersion)
    DispatcherError.versionMismatch
  let amountOut ← routeWithdraw curve exec ctx accounts.adapterProgram accounts.instructionsSysvar
    accounts.position.info accounts.positionUsdcPool.info accounts.adapterState
    accounts.remainingAccounts shares (signerSeeds accounts.position.data)
  payOut curve exec ctx accounts amountOut
  emit ctx (.withdrawn accounts.position.key shares amountOut)
  store Position ctx accounts.position.key accounts.position.data

def currentValue : Exec Chain Unit := do
  let w ← Exec.read
  let accounts ← Exec.ofExcept (CurrentValue.load ctx w)
  Exec.ofExcept (accounts.constraints curve ctx w)
  Exec.require (accounts.adapterEntry.data.interfaceVersion = adapterInterfaceVersion)
    DispatcherError.versionMismatch
  let value ← routeCurrentValue curve exec ctx accounts.adapterProgram accounts.instructionsSysvar
    accounts.position.info accounts.adapterState accounts.remainingAccounts
  -- the adapter's return data is replaced by the dispatcher's own
  setReturnData ctx (leBytes64 value)
  emit ctx (.valueRead accounts.position.key value)

/-- An instruction of the dispatcher with its arguments. -/
inductive Ix where
  | initializeRegistry
  | whitelistAdapter (name : String) (interfaceVersion : UInt8)
  | pauseAdapter (paused : Bool)
  | openPosition
  | deposit (amount : UInt64)
  | withdraw (shares : UInt64)
  | currentValue
  deriving DecidableEq

/-- The program's entry point. -/
def entry : Ix → Exec Chain Unit
  | .initializeRegistry => initializeRegistry curve ctx
  | .whitelistAdapter name interfaceVersion => whitelistAdapter curve ctx name interfaceVersion
  | .pauseAdapter paused => pauseAdapter curve ctx paused
  | .openPosition => openPosition curve exec ctx
  | .deposit amount => deposit curve exec ctx amount
  | .withdraw shares => withdraw curve exec ctx shares
  | .currentValue => currentValue curve exec ctx

end Handlers

end YieldAdapter.Dispatcher

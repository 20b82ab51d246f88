import YieldAdapter.State

/-!
# Routing

How the dispatcher calls an adapter. It controls the first accounts of each
call; whatever else it was handed is forwarded verbatim, flags included, so it
never needs to know an adapter's protocol. The position's address signs every
call that may move funds and none that only reads.
-/

set_option autoImplicit false

namespace YieldAdapter.Dispatcher

open Solana

/-! ### Constants and errors -/

def registrySeed : String := "registry"

def entrySeed : String := "adapter_entry"

def positionSeed : String := "position"

def maxNameLen : Nat := 32

def maxAdapters : UInt32 := 256

/-- The dispatcher's errors; Anchor numbers them from 6000 in this order. -/
inductive DispatcherError where
  | unauthorized
  | adapterInactive
  | versionMismatch
  | registryFull
  | nameTooLong
  | zeroAmount
  | mathOverflow
  | notExecutable
  | missingReturnData
  | adapterMismatch
  | staleValue
  deriving DecidableEq, Repr

def DispatcherError.toError : DispatcherError → Error
  | .unauthorized => .custom 6000
  | .adapterInactive => .custom 6001
  | .versionMismatch => .custom 6002
  | .registryFull => .custom 6003
  | .nameTooLong => .custom 6004
  | .zeroAmount => .custom 6005
  | .mathOverflow => .custom 6006
  | .notExecutable => .custom 6007
  | .missingReturnData => .custom 6008
  | .adapterMismatch => .custom 6009
  | .staleValue => .custom 6010

instance : Coe DispatcherError Error := ⟨DispatcherError.toError⟩

/-! ### Addresses -/

def registrySeeds : Seeds := .text registrySeed .nil

def entrySeeds (adapterProgram : Pubkey) : Seeds := .text entrySeed (.addr adapterProgram .nil)

def positionSeeds (owner adapterProgram : Pubkey) : Seeds :=
  .text positionSeed (.addr owner (.addr adapterProgram .nil))

/-- The address of a user's position in an adapter, for a given bump. -/
def positionAddress (owner adapterProgram : Pubkey) (bump : UInt8) : Pubkey :=
  .pda dispatcherId (positionSeeds owner adapterProgram) bump

/-- Only the dispatcher can sign for an address derived from its id. -/
def Derived (key : Pubkey) : Prop := ∃ seeds bump, key = .pda dispatcherId seeds bump

theorem derived_positionAddress (owner adapterProgram : Pubkey) (bump : UInt8) :
    Derived (positionAddress owner adapterProgram bump) := ⟨_, _, rfl⟩

/-- A position address determines its owner and its adapter. -/
theorem positionAddress_inj {owner owner' adapterProgram adapterProgram' : Pubkey}
    {bump bump' : UInt8}
    (h : positionAddress owner adapterProgram bump = positionAddress owner' adapterProgram' bump') :
    owner = owner' ∧ adapterProgram = adapterProgram' ∧ bump = bump' := by
  simpa [positionAddress, positionSeeds, and_assoc] using h

/-- No address is derived from itself, so an owner is never its own position. -/
theorem owner_ne_positionAddress (owner adapterProgram : Pubkey) (bump : UInt8) :
    owner ≠ positionAddress owner adapterProgram bump := by
  intro h
  have hsize := congrArg sizeOf h
  simp [positionAddress, positionSeeds] at hsize
  omega

/-! ### Calls -/

/-- The remaining accounts with the flags they came with. -/
def forward (metas : List AccountMeta) (remaining : List AccountInfo) : List AccountMeta :=
  metas ++ remaining.map fun acc => ⟨acc.key, acc.isSigner, acc.isWritable⟩

section Instructions

variable (adapterProgram instructionsSysvar position positionUsdcPool adapterState rentPayer
  systemProgram : AccountInfo) (remaining : List AccountInfo)

/-- `adapter_initialize`, with the position as a signer. -/
def initializeInstruction : Instruction where
  programId := adapterProgram.key
  accounts := forward
    [.newReadonly instructionsSysvar.key false,
      .newReadonly position.key true,
      .new adapterState.key false,
      .new rentPayer.key true,
      .newReadonly systemProgram.key false] remaining
  data := .bytes (encodeInitialize [])

/-- `adapter_deposit` or `adapter_withdraw`, with the position as a signer. -/
def fundMovementInstruction (data : Bytes) : Instruction where
  programId := adapterProgram.key
  accounts := forward
    [.newReadonly instructionsSysvar.key false,
      .new position.key true,
      .new positionUsdcPool.key false,
      .new adapterState.key false] remaining
  data := .bytes data

/-- `adapter_current_value`, where nothing is signed or writable. -/
def currentValueInstruction : Instruction where
  programId := adapterProgram.key
  accounts := forward
    [.newReadonly instructionsSysvar.key false,
      .newReadonly position.key false,
      .newReadonly adapterState.key false] remaining
  data := .bytes (encodeCurrentValue [])

end Instructions

/-- An SPL token transfer. -/
def transferInstruction (source destination authority : AccountInfo) (amount : UInt64) :
    Instruction where
  programId := tokenProgramId
  accounts := [.new source.key false, .new destination.key false, .newReadonly authority.key true]
  data := .transfer amount

section Calls

variable (curve : Curve) (exec : Callee ProgramState Event) (ctx : Context)

/-- CPI `adapter_initialize`. -/
def routeInitialize (adapterProgram instructionsSysvar position adapterState rentPayer
    systemProgram : AccountInfo) (remaining : List AccountInfo)
    (signerSeeds : List (Seeds × UInt8)) : Exec Chain Unit :=
  invokeSigned curve exec ctx
    (initializeInstruction adapterProgram instructionsSysvar position adapterState rentPayer
      systemProgram remaining)
    signerSeeds DispatcherError.adapterMismatch

/-- The CPI that `route_deposit` and `route_withdraw` share. -/
def fundMovementIx (data : Bytes) (adapterProgram instructionsSysvar position positionUsdcPool
    adapterState : AccountInfo) (remaining : List AccountInfo)
    (signerSeeds : List (Seeds × UInt8)) : Exec Chain Unit :=
  invokeSigned curve exec ctx
    (fundMovementInstruction adapterProgram instructionsSysvar position positionUsdcPool
      adapterState remaining data)
    signerSeeds DispatcherError.adapterMismatch

/-- The value the adapter returned. -/
def readReturn (adapterProgram : AccountInfo) : Exec Chain UInt64 := do
  let value ← getU64Return adapterProgram.key
  Exec.ofOption value DispatcherError.missingReturnData

/-- CPI `adapter_deposit`, returning the adapter's reported shares. -/
def routeDeposit (adapterProgram instructionsSysvar position positionUsdcPool
    adapterState : AccountInfo) (remaining : List AccountInfo) (amount : UInt64)
    (signerSeeds : List (Seeds × UInt8)) : Exec Chain UInt64 := do
  fundMovementIx curve exec ctx (encodeDeposit amount []) adapterProgram instructionsSysvar
    position positionUsdcPool adapterState remaining signerSeeds
  readReturn adapterProgram

/-- CPI `adapter_withdraw`, returning the adapter's reported payout. -/
def routeWithdraw (adapterProgram instructionsSysvar position positionUsdcPool
    adapterState : AccountInfo) (remaining : List AccountInfo) (shares : UInt64)
    (signerSeeds : List (Seeds × UInt8)) : Exec Chain UInt64 := do
  fundMovementIx curve exec ctx (encodeWithdraw shares []) adapterProgram instructionsSysvar
    position positionUsdcPool adapterState remaining signerSeeds
  readReturn adapterProgram

/-- CPI `adapter_current_value`, signed by nobody, returning the adapter's value. -/
def routeCurrentValue (adapterProgram instructionsSysvar position adapterState : AccountInfo)
    (remaining : List AccountInfo) : Exec Chain UInt64 := do
  invoke curve exec ctx
    (currentValueInstruction adapterProgram instructionsSysvar position adapterState remaining)
    DispatcherError.adapterMismatch
  readReturn adapterProgram

/-- `token::transfer`. -/
def transfer (source destination authority : AccountInfo) (amount : UInt64)
    (signerSeeds : List (Seeds × UInt8)) : Exec Chain Unit :=
  invokeSigned curve exec ctx (transferInstruction source destination authority amount)
    signerSeeds .calleeFailed

end Calls

theorem readReturn_ok {adapterProgram : AccountInfo} {value : UInt64} {w w' : Chain} :
    readReturn adapterProgram w = (.ok value, w') ↔
      w.returnData = (adapterProgram.key, leBytes64 value) ∧ w' = w := by
  simp only [readReturn, Exec.bind_ok, Exec.ofOption_ok]
  constructor
  · rintro ⟨_, _, hread, rfl, rfl⟩
    exact getU64Return_ok.mp hread
  · intro h
    exact ⟨_, _, getU64Return_ok.mpr h, rfl, h.2 ▸ rfl⟩

end YieldAdapter.Dispatcher

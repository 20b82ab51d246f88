import YieldAdapter.Solana.Anchor

/-!
# The adapter interface

The contract between the dispatcher and any adapter: the interface version and
limits, the header every adapter state begins with, the canonical error codes,
the instruction encoding with the decoder Anchor generates for it, the
return-data codec, and the check an adapter makes on its caller.
-/

set_option autoImplicit false

namespace YieldAdapter

open Solana

/-! ### Versioning and limits -/

/-- The interface version the registry stores for each adapter. -/
def adapterInterfaceVersion : UInt8 := 1

/-- The seed of an adapter's per-position state account. -/
def adapterStateSeed : String := "adapter_state"

/-- Upper bound on the opaque `adapter_data` of every instruction. -/
def maxAdapterDataLen : Nat := 256

/-- A value read from oracle or reserve state older than this many slots is considered stale. -/
def maxValueStalenessSlots : UInt64 := 60

/-- The dispatcher program. -/
def dispatcherId : Pubkey :=
  .key 0xa6b2e158d4ea3acc38115331430afd67bdbab91777cbf9522bfb2d878b22c803

/-- The prefix every adapter's state begins with. -/
structure AdapterStateHeader where
  position : Pubkey
  adapterProgram : Pubkey
  createdAt : Int64
  totalShares : UInt64
  deriving DecidableEq

/-- Canonical adapter error codes; Anchor numbers them from 6000 in this order. -/
inductive AdapterError where
  | unauthorized
  | zeroAmount
  | insufficientShares
  | mathOverflow
  | versionMismatch
  | staleOracle
  | adapterStateUninit
  | adapterDataTooLarge
  | cpiFailed
  deriving DecidableEq, Repr

/-- The numbered error of the interface. -/
def AdapterError.toError : AdapterError → Error
  | .unauthorized => .custom 6000
  | .zeroAmount => .custom 6001
  | .insufficientShares => .custom 6002
  | .mathOverflow => .custom 6003
  | .versionMismatch => .custom 6004
  | .staleOracle => .custom 6005
  | .adapterStateUninit => .custom 6006
  | .adapterDataTooLarge => .custom 6007
  | .cpiFailed => .custom 6008

instance : Coe AdapterError Error := ⟨AdapterError.toError⟩

/-! ### Instruction encoding -/

/-- The first eight bytes of each adapter instruction. -/
inductive Discriminator where
  | adapterInitialize
  | adapterDeposit
  | adapterWithdraw
  | adapterCurrentValue
  deriving DecidableEq

def Discriminator.bytes : Discriminator → Bytes
  | .adapterInitialize => [125, 160, 35, 249, 117, 179, 167, 76]
  | .adapterDeposit => [190, 207, 72, 186, 232, 106, 46, 72]
  | .adapterWithdraw => [121, 55, 72, 46, 185, 100, 173, 236]
  | .adapterCurrentValue => [67, 200, 59, 238, 163, 138, 170, 179]

/-- Discriminator and a length-prefixed byte string; the length is cut to a `u32`. -/
def encodeVec (disc : Discriminator) (data : Bytes) : Bytes :=
  disc.bytes ++ (leBytes 4 data.length ++ data)

/-- Discriminator, a `u64` and a length-prefixed byte string. -/
def encodeU64Vec (disc : Discriminator) (n : UInt64) (data : Bytes) : Bytes :=
  disc.bytes ++ (leBytes64 n ++ (leBytes 4 data.length ++ data))

/-- `adapter_initialize(adapter_data)`. -/
def encodeInitialize (adapterData : Bytes) : Bytes := encodeVec .adapterInitialize adapterData

/-- `adapter_deposit(amount, adapter_data)`. -/
def encodeDeposit (amount : UInt64) (adapterData : Bytes) : Bytes :=
  encodeU64Vec .adapterDeposit amount adapterData

/-- `adapter_withdraw(shares, adapter_data)`. -/
def encodeWithdraw (shares : UInt64) (adapterData : Bytes) : Bytes :=
  encodeU64Vec .adapterWithdraw shares adapterData

/-- `adapter_current_value(adapter_data)`. -/
def encodeCurrentValue (adapterData : Bytes) : Bytes :=
  encodeVec .adapterCurrentValue adapterData

/-- An instruction as an adapter receives it. -/
inductive AdapterInstruction where
  | init (adapterData : Bytes)
  | deposit (amount : UInt64) (adapterData : Bytes)
  | withdraw (shares : UInt64) (adapterData : Bytes)
  | currentValue (adapterData : Bytes)
  deriving DecidableEq

/-- Borsh `Vec<u8>`; bytes after it are left alone. -/
def decodeVec (data : Bytes) : Option Bytes := do
  let length ← readLE 4 data 0
  if 4 + length ≤ data.length then some ((data.drop 4).take length) else none

/-- Borsh `u64` and `Vec<u8>`. -/
def decodeU64Vec (data : Bytes) : Option (UInt64 × Bytes) := do
  let n ← readLE 8 data 0
  let adapterData ← decodeVec (data.drop 8)
  pure (UInt64.ofNat n, adapterData)

/-- Anchor's entry point of an adapter: eight bytes select the instruction, the
arguments follow. -/
def AdapterInstruction.decode (data : Bytes) : Except Error AdapterInstruction :=
  let arguments (decoded : Option AdapterInstruction) : Except Error AdapterInstruction :=
    decoded.elim (.error (.anchor .instructionDidNotDeserialize)) .ok
  if data.take 8 = Discriminator.adapterInitialize.bytes then
    arguments ((decodeVec (data.drop 8)).map .init)
  else if data.take 8 = Discriminator.adapterDeposit.bytes then
    arguments ((decodeU64Vec (data.drop 8)).map fun a => .deposit a.1 a.2)
  else if data.take 8 = Discriminator.adapterWithdraw.bytes then
    arguments ((decodeU64Vec (data.drop 8)).map fun a => .withdraw a.1 a.2)
  else if data.take 8 = Discriminator.adapterCurrentValue.bytes then
    arguments ((decodeVec (data.drop 8)).map .currentValue)
  else .error (.anchor .instructionFallbackNotFound)

section Encoding

variable {data : Bytes} (n : UInt64) (hshort : data.length < 2 ^ 32)

include hshort in
theorem decodeVec_encoded : decodeVec (leBytes 4 data.length ++ data) = some data := by
  have hlength : readLE 4 (leBytes 4 data.length ++ data) 0 = some data.length := by
    rw [readLE_eq_some]
    refine ⟨by simp, ?_⟩
    rw [List.drop_zero, List.take_left' (leBytes_length ..), leNat_leBytes_of_lt hshort]
  simp [decodeVec, hlength, List.drop_left' (leBytes_length ..)]

include hshort in
theorem decodeU64Vec_encoded :
    decodeU64Vec (leBytes64 n ++ (leBytes 4 data.length ++ data)) = some (n, data) := by
  have hread : readLE 8 (leBytes64 n ++ (leBytes 4 data.length ++ data)) 0 = some n.toNat := by
    rw [readLE_eq_some]
    refine ⟨by simp, ?_⟩
    rw [List.drop_zero, List.take_left' (leBytes64_length n), leNat_leBytes64]
  simp [decodeU64Vec, hread, List.drop_left' (leBytes64_length n), decodeVec_encoded hshort]

include hshort in
/-- An adapter decodes what the dispatcher encodes. -/
theorem decode_encodeInitialize :
    AdapterInstruction.decode (encodeInitialize data) = .ok (.init data) := by
  simp [AdapterInstruction.decode, encodeInitialize, encodeVec, Discriminator.bytes,
    decodeVec_encoded hshort]

include hshort in
theorem decode_encodeDeposit :
    AdapterInstruction.decode (encodeDeposit n data) = .ok (.deposit n data) := by
  simp [AdapterInstruction.decode, encodeDeposit, encodeU64Vec, Discriminator.bytes,
    decodeU64Vec_encoded n hshort]

include hshort in
theorem decode_encodeWithdraw :
    AdapterInstruction.decode (encodeWithdraw n data) = .ok (.withdraw n data) := by
  simp [AdapterInstruction.decode, encodeWithdraw, encodeU64Vec, Discriminator.bytes,
    decodeU64Vec_encoded n hshort]

include hshort in
theorem decode_encodeCurrentValue :
    AdapterInstruction.decode (encodeCurrentValue data) = .ok (.currentValue data) := by
  simp [AdapterInstruction.decode, encodeCurrentValue, encodeVec, Discriminator.bytes,
    decodeVec_encoded hshort]

end Encoding

/-! ### Results and callers -/

section Runtime

variable {σ η : Type}

/-- Adapters write their `u64` result here. -/
def setU64Return (ctx : Context) (value : UInt64) : Exec (World σ η) Unit :=
  setReturnData ctx (leBytes64 value)

/-- The `u64` the program just called wrote, if it wrote one. -/
def getU64Return (expectedProgram : Pubkey) : Exec (World σ η) (Option UInt64) := do
  match ← getReturnData with
  | none => pure none
  | some (program, data) =>
      if program ≠ expectedProgram ∨ data.length ≠ 8 then pure none
      else pure (fromLeBytes64 data)

/-- Whether the instruction being executed is one of the dispatcher's, by the
instructions sysvar. -/
def verifyCallerIsDispatcher (ctx : Context) (instructionsSysvar : AccountInfo)
    (dispatcher : Pubkey) : Except Error Unit := do
  let idx ← loadCurrentIndexChecked ctx instructionsSysvar
  let parent ← loadInstructionAtChecked ctx idx instructionsSysvar
  check (parent = dispatcher) AdapterError.unauthorized

variable {w w' : World σ η}

/-- A value is read exactly when the expected program left its eight bytes. -/
theorem getU64Return_ok {expectedProgram : Pubkey} {value : UInt64} :
    getU64Return expectedProgram w = (.ok (some value), w') ↔
      w.returnData = (expectedProgram, leBytes64 value) ∧ w' = w := by
  rcases hdata : w.returnData with ⟨program, data⟩
  have hnonempty : leBytes64 value ≠ [] := List.ne_nil_of_length_pos (by simp)
  simp only [getU64Return, getReturnData, Exec.bind_ok, Exec.read_ok, Exec.pure_ok]
  constructor
  · -- empty data, another program's data and data of another length are all no value
    rintro ⟨_, _, ⟨_, _, ⟨rfl, rfl⟩, rfl, rfl⟩, hrun⟩
    rw [hdata] at hrun
    split_ifs at hrun with hempty
    · simp at hrun
    · dsimp only at hrun
      split_ifs at hrun with hother
      · simp at hrun
      · rw [Exec.pure_ok, eq_comm, fromLeBytes64_eq_some] at hrun
        obtain ⟨rfl, rfl⟩ := hrun
        simp only [not_or, not_not] at hother
        exact ⟨by rw [hother.1], rfl⟩
  · rintro ⟨hpair, rfl⟩
    obtain ⟨rfl, rfl⟩ := Prod.mk.inj hpair
    refine ⟨some (program, leBytes64 value), _, ⟨_, _, ⟨rfl, rfl⟩, ?_, rfl⟩, ?_⟩
    · simp [hdata, hnonempty]
    · simp

theorem verifyCallerIsDispatcher_ok {ctx : Context} {info : AccountInfo} {dispatcher : Pubkey}
    {u : Unit} :
    verifyCallerIsDispatcher ctx info dispatcher = .ok u ↔
      info.key = sysvarInstructionsId ∧
        ctx.sysvar.programIds[ctx.sysvar.currentIndex]? = some dispatcher := by
  simp only [verifyCallerIsDispatcher, loadCurrentIndexChecked, loadInstructionAtChecked,
    except_bind_ok, check_ok]
  constructor
  · rintro ⟨idx, ⟨_, hkey, hidx⟩, parent, ⟨_, -, hparent⟩, rfl⟩
    obtain rfl : ctx.sysvar.currentIndex = idx := by simpa [pure, Except.pure] using hidx
    refine ⟨hkey, ?_⟩
    split at hparent
    · rename_i found hfound
      rw [hfound, show found = parent by simpa [pure, Except.pure] using hparent]
    · simp [throw, throwThe, MonadExceptOf.throw] at hparent
  · rintro ⟨hkey, hfound⟩
    refine ⟨ctx.sysvar.currentIndex, ⟨(), hkey, rfl⟩, dispatcher, ⟨(), hkey, ?_⟩, rfl⟩
    rw [hfound]
    rfl

end Runtime

/-! ### Callers seen and callers meant

The sysvar knows the top-level program, not the one that made the call. The two are
the same program when nothing stands between the transaction and the adapter but the
dispatcher. -/

section Callers

variable {ctx : Context} {info : AccountInfo}

/-- In a running transaction, the check asks whether the outermost program is the
dispatcher. -/
theorem verifyCallerIsDispatcher_ok_iff_outermost (hsysvar : info.key = sysvarInstructionsId)
    (hexecuting : ctx.Executing) (hadapter : ctx.programId ≠ dispatcherId) :
    verifyCallerIsDispatcher ctx info dispatcherId = .ok () ↔
      ctx.callers.head? = some dispatcherId := by
  rw [verifyCallerIsDispatcher_ok, hexecuting]
  simp only [hsysvar, true_and, Context.stack]
  cases hcallers : ctx.callers with
  | nil => simp [hadapter]
  | cons outermost rest => simp

/-- The check answers for the direct caller exactly when the dispatcher is both the
outermost and the innermost program above the adapter, or neither. -/
theorem verifyCallerIsDispatcher_exact_iff (hsysvar : info.key = sysvarInstructionsId)
    (hexecuting : ctx.Executing) (hadapter : ctx.programId ≠ dispatcherId) :
    (verifyCallerIsDispatcher ctx info dispatcherId = .ok () ↔
      ctx.callers.getLast? = some dispatcherId) ↔
    (ctx.callers.head? = some dispatcherId ↔ ctx.callers.getLast? = some dispatcherId) := by
  have houtermost := verifyCallerIsDispatcher_ok_iff_outermost hsysvar hexecuting hadapter
  rw [houtermost]

/-- A call by `program` to an adapter, `callers` standing above it in a transaction of
one instruction. -/
def calledThrough (callers : List Pubkey) (adapter : Pubkey) : Context where
  programId := adapter
  callers := callers
  sysvar := ⟨callers.take 1, 0⟩
  accounts := [⟨sysvarInstructionsId, false, false⟩]

/-- A program the dispatcher called passes for the dispatcher, and the dispatcher
called by another program does not. -/
theorem verifyCallerIsDispatcher_inexact :
    (verifyCallerIsDispatcher (calledThrough [dispatcherId, .key 7] (.key 8))
        ⟨sysvarInstructionsId, false, false⟩ dispatcherId = .ok () ∧
      (calledThrough [dispatcherId, .key 7] (.key 8)).Executing ∧
      Pubkey.key 7 ≠ dispatcherId) ∧
    verifyCallerIsDispatcher (calledThrough [.key 7, dispatcherId] (.key 8))
        ⟨sysvarInstructionsId, false, false⟩ dispatcherId =
      .error AdapterError.unauthorized.toError ∧
    (calledThrough [.key 7, dispatcherId] (.key 8)).Executing := by
  refine ⟨⟨?_, by decide, by decide⟩, ?_, by decide⟩
  · exact verifyCallerIsDispatcher_ok.mpr ⟨rfl, rfl⟩
  · decide +kernel

/-- The exactness at the stack the tests run, the dispatcher directly above the adapter, and
at one where the dispatcher stands between two other programs: the call is refused, and it is
not the dispatcher's. -/
theorem verifyCallerIsDispatcher_exact_stacks :
    (verifyCallerIsDispatcher (calledThrough [dispatcherId] (.key 8))
        ⟨sysvarInstructionsId, false, false⟩ dispatcherId = .ok () ↔
      (calledThrough [dispatcherId] (.key 8)).callers.getLast? = some dispatcherId) ∧
    (verifyCallerIsDispatcher (calledThrough [.key 7, dispatcherId, .key 9] (.key 8))
        ⟨sysvarInstructionsId, false, false⟩ dispatcherId = .ok () ↔
      (calledThrough [.key 7, dispatcherId, .key 9] (.key 8)).callers.getLast? =
        some dispatcherId) ∧
    verifyCallerIsDispatcher (calledThrough [.key 7, dispatcherId, .key 9] (.key 8))
        ⟨sysvarInstructionsId, false, false⟩ dispatcherId ≠ .ok () := by
  have hdeep := (@verifyCallerIsDispatcher_exact_iff
    (calledThrough [.key 7, dispatcherId, .key 9] (.key 8)) ⟨sysvarInstructionsId, false, false⟩
    rfl (by decide) (by decide)).mpr (by decide)
  refine ⟨(verifyCallerIsDispatcher_exact_iff rfl (by decide) (by decide)).mpr Iff.rfl, hdeep, ?_⟩
  rw [Ne, hdeep]
  decide

end Callers

end YieldAdapter

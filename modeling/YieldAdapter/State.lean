import YieldAdapter.Interface

/-!
# Account and event types

The accounts of the dispatcher and of the five adapters, and the events they
emit. The adapters' states differ in their tails and share the header, so what
is said of all of them goes through `AdapterAccount`.
-/

set_option autoImplicit false

namespace YieldAdapter

open Solana

/-! ### The dispatcher -/

/-- Governance root. -/
structure Registry where
  admin : Pubkey
  adapterCount : UInt32
  bump : UInt8
  deriving DecidableEq

/-- The whitelist entry of one adapter program. -/
structure AdapterEntry where
  adapterProgram : Pubkey
  interfaceVersion : UInt8
  name : String
  isActive : Bool
  addedAt : Int64
  bump : UInt8
  deriving DecidableEq

/-- A user's routing position into one adapter. -/
structure Position where
  owner : Pubkey
  adapterProgram : Pubkey
  usdcPool : Pubkey
  usdcMint : Pubkey
  createdAt : Int64
  bump : UInt8
  deriving DecidableEq

/-! ### The adapters -/

namespace KaminoUsdc

def programId : Pubkey :=
  .key 0x9b3a1fd951bfdd03c801a6e33e01ee6303434869244fce360542cf40870bed2c

structure AdapterState where
  header : AdapterStateHeader
  kaminoReserve : Pubkey
  collateralVault : Pubkey
  bump : UInt8
  deriving DecidableEq

end KaminoUsdc

namespace MarginfiUsdc

def programId : Pubkey :=
  .key 0x3e45fe2bb4507b0831976d6299d0bd8543388686de0eed86364aba2a4f52cdda

structure AdapterState where
  header : AdapterStateHeader
  marginfiGroup : Pubkey
  marginfiAccount : Pubkey
  bank : Pubkey
  bump : UInt8
  deriving DecidableEq

end MarginfiUsdc

namespace JupiterLp

def programId : Pubkey :=
  .key 0xc05850b44962dbb649b207cd59e46e12aebfeed4864ce9c416bf1ff1fe8d4c5a

structure AdapterState where
  header : AdapterStateHeader
  pool : Pubkey
  custody : Pubkey
  lpTokenAccount : Pubkey
  lpMint : Pubkey
  bump : UInt8
  deriving DecidableEq

end JupiterLp

namespace MapleSyrup

def programId : Pubkey :=
  .key 0x25a891133f9e58faa32ff09c017f1c616fd8628f7b6de10da70e382a188d97c0

structure AdapterState where
  header : AdapterStateHeader
  whirlpool : Pubkey
  syrupTokenAccount : Pubkey
  bump : UInt8
  deriving DecidableEq

end MapleSyrup

namespace DriftIf

def programId : Pubkey :=
  .key 0xaa80a446dc537ec788595a1b1923e630fc9d4dc899e6fa2d90ca9a80120f2344

structure AdapterState where
  header : AdapterStateHeader
  spotMarket : Pubkey
  insuranceFundStake : Pubkey
  userStats : Pubkey
  bump : UInt8
  deriving DecidableEq

end DriftIf

/-! ### Accounts and events together -/

/-- The typed accounts of all six programs. -/
inductive ProgramState where
  | registry (state : Registry)
  | adapterEntry (state : AdapterEntry)
  | position (state : Position)
  | kaminoUsdc (state : KaminoUsdc.AdapterState)
  | marginfiUsdc (state : MarginfiUsdc.AdapterState)
  | jupiterLp (state : JupiterLp.AdapterState)
  | mapleSyrup (state : MapleSyrup.AdapterState)
  | driftIf (state : DriftIf.AdapterState)
  deriving DecidableEq

/-- The events of the dispatcher, then the three every adapter emits. -/
inductive Event where
  | adapterWhitelisted (adapterProgram : Pubkey) (name : String) (interfaceVersion : UInt8)
  | adapterPaused (adapterProgram : Pubkey) (isActive : Bool)
  | positionOpened (owner adapterProgram position : Pubkey)
  | deposited (position : Pubkey) (amountIn sharesMinted : UInt64)
  | withdrawn (position : Pubkey) (sharesBurned amountOut : UInt64)
  | valueRead (position : Pubkey) (valueUsdc : UInt64)
  | adapterDeposit (position : Pubkey) (amountIn sharesMinted : UInt64)
  | adapterWithdraw (position : Pubkey) (sharesBurned amountOut : UInt64)
  | adapterValue (position : Pubkey) (currentValueUsdc asOfSlot : UInt64)
  deriving DecidableEq

/-- The chain these programs run on. -/
abbrev Chain := World ProgramState Event

instance : AnchorState ProgramState Registry where
  programId := dispatcherId
  encode := .registry
  decode | .registry s => some s | _ => none
  decode_eq_some s t := by cases s <;> simp

instance : AnchorState ProgramState AdapterEntry where
  programId := dispatcherId
  encode := .adapterEntry
  decode | .adapterEntry s => some s | _ => none
  decode_eq_some s t := by cases s <;> simp

instance : AnchorState ProgramState Position where
  programId := dispatcherId
  encode := .position
  decode | .position s => some s | _ => none
  decode_eq_some s t := by cases s <;> simp

/-- An adapter's state account: a header, a stored bump and a tail of its own. -/
class AdapterAccount (τ : Type) extends AnchorState ProgramState τ where
  header : τ → AdapterStateHeader
  bump : τ → UInt8
  setTotalShares : τ → UInt64 → τ
  header_setTotalShares : ∀ s n, header (setTotalShares s n) = { header s with totalShares := n }
  bump_setTotalShares : ∀ s n, bump (setTotalShares s n) = bump s

attribute [simp] AdapterAccount.header_setTotalShares AdapterAccount.bump_setTotalShares

instance : AdapterAccount KaminoUsdc.AdapterState where
  programId := KaminoUsdc.programId
  encode := .kaminoUsdc
  decode | .kaminoUsdc s => some s | _ => none
  decode_eq_some s t := by cases s <;> simp
  header s := s.header
  bump s := s.bump
  setTotalShares s n := { s with header := { s.header with totalShares := n } }
  header_setTotalShares _ _ := rfl
  bump_setTotalShares _ _ := rfl

instance : AdapterAccount MarginfiUsdc.AdapterState where
  programId := MarginfiUsdc.programId
  encode := .marginfiUsdc
  decode | .marginfiUsdc s => some s | _ => none
  decode_eq_some s t := by cases s <;> simp
  header s := s.header
  bump s := s.bump
  setTotalShares s n := { s with header := { s.header with totalShares := n } }
  header_setTotalShares _ _ := rfl
  bump_setTotalShares _ _ := rfl

instance : AdapterAccount JupiterLp.AdapterState where
  programId := JupiterLp.programId
  encode := .jupiterLp
  decode | .jupiterLp s => some s | _ => none
  decode_eq_some s t := by cases s <;> simp
  header s := s.header
  bump s := s.bump
  setTotalShares s n := { s with header := { s.header with totalShares := n } }
  header_setTotalShares _ _ := rfl
  bump_setTotalShares _ _ := rfl

instance : AdapterAccount MapleSyrup.AdapterState where
  programId := MapleSyrup.programId
  encode := .mapleSyrup
  decode | .mapleSyrup s => some s | _ => none
  decode_eq_some s t := by cases s <;> simp
  header s := s.header
  bump s := s.bump
  setTotalShares s n := { s with header := { s.header with totalShares := n } }
  header_setTotalShares _ _ := rfl
  bump_setTotalShares _ _ := rfl

instance : AdapterAccount DriftIf.AdapterState where
  programId := DriftIf.programId
  encode := .driftIf
  decode | .driftIf s => some s | _ => none
  decode_eq_some s t := by cases s <;> simp
  header s := s.header
  bump s := s.bump
  setTotalShares s n := { s with header := { s.header with totalShares := n } }
  header_setTotalShares _ _ := rfl
  bump_setTotalShares _ _ := rfl

end YieldAdapter

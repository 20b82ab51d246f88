import YieldAdapter.Solana.Format
import YieldAdapter.Dispatcher.Routing
import YieldAdapter.Adapter.Programs

/-!
# Accounts and events in bytes

Every typed account begins with eight bytes that name its type, and so does every event. The
fields follow in Borsh. Addresses are written by whatever gives them their 32 bytes, so what
is read back is a record of those bytes.
-/

set_option autoImplicit false

namespace YieldAdapter

open Solana

/-- The bytes of an address. -/
abbrev AddressBytes := Vector UInt8 32

/-- An address in Borsh. -/
def addressFormat : Format AddressBytes := .fixed 32

/-! ### The types of accounts -/

/-- The account types of the six programs. -/
inductive StateKind where
  | registry
  | adapterEntry
  | position
  | kaminoUsdc
  | marginfiUsdc
  | jupiterLp
  | mapleSyrup
  | driftIf
  deriving DecidableEq

namespace StateKind

def all : List StateKind :=
  [registry, adapterEntry, position, kaminoUsdc, marginfiUsdc, jupiterLp, mapleSyrup, driftIf]

theorem mem_all (kind : StateKind) : kind ∈ all := by
  cases kind <;> decide

/-- The program whose accounts have the type. -/
def programId : StateKind → Pubkey
  | registry | adapterEntry | position => dispatcherId
  | kaminoUsdc => KaminoUsdc.programId
  | marginfiUsdc => MarginfiUsdc.programId
  | jupiterLp => JupiterLp.programId
  | mapleSyrup => MapleSyrup.programId
  | driftIf => DriftIf.programId

/-- The adapters' states have the same name, and so the same eight bytes. -/
def discriminator : StateKind → Bytes
  | registry => [47, 174, 110, 246, 184, 182, 252, 218]
  | adapterEntry => [204, 228, 11, 242, 235, 250, 45, 145]
  | position => [170, 188, 143, 228, 122, 64, 247, 208]
  | kaminoUsdc | marginfiUsdc | jupiterLp | mapleSyrup | driftIf =>
      [88, 130, 126, 170, 183, 106, 151, 212]

theorem length_discriminator (kind : StateKind) : kind.discriminator.length = 8 := by
  cases kind <;> rfl

/-- Within a program the eight bytes tell the type. -/
theorem eq_of_discriminator {kind kind' : StateKind} (hprogram : kind.programId = kind'.programId)
    (h : kind.discriminator = kind'.discriminator) : kind = kind' := by
  revert hprogram h
  cases kind <;> cases kind' <;> decide

end StateKind

/-- `position`, `adapter_program`, `created_at` and `total_shares`. -/
abbrev HeaderFields := AddressBytes × AddressBytes × Int64 × UInt64

/-- The prefix of every adapter's state. -/
def headerFormat : Format HeaderFields := addressFormat.pair (addressFormat.pair (.pair .i64 .u64))

namespace StateKind

/-- The fields of a type, in their order in the source. -/
def Fields : StateKind → Type
  | registry => AddressBytes × UInt32 × UInt8
  | adapterEntry => AddressBytes × UInt8 × String × Bool × Int64 × UInt8
  | position => AddressBytes × AddressBytes × AddressBytes × AddressBytes × Int64 × UInt8
  | kaminoUsdc | mapleSyrup => HeaderFields × AddressBytes × AddressBytes × UInt8
  | marginfiUsdc | driftIf => HeaderFields × AddressBytes × AddressBytes × AddressBytes × UInt8
  | jupiterLp =>
      HeaderFields × AddressBytes × AddressBytes × AddressBytes × AddressBytes × UInt8

def format : (kind : StateKind) → Format kind.Fields
  | registry => addressFormat.pair (.pair .u32 .u8)
  | adapterEntry => addressFormat.pair (.pair .u8 (.pair .string (.pair .bool (.pair .i64 .u8))))
  | position => addressFormat.pair (addressFormat.pair (addressFormat.pair
      (addressFormat.pair (.pair .i64 .u8))))
  | kaminoUsdc | mapleSyrup => headerFormat.pair (addressFormat.pair (addressFormat.pair .u8))
  | marginfiUsdc | driftIf =>
      headerFormat.pair (addressFormat.pair (addressFormat.pair (addressFormat.pair .u8)))
  | jupiterLp => headerFormat.pair (addressFormat.pair (addressFormat.pair (addressFormat.pair
      (addressFormat.pair .u8))))

/-- `INIT_SPACE` of the type. -/
def initSpace : StateKind → Nat
  | registry => 32 + 4 + 1
  | adapterEntry => 32 + 1 + (4 + Dispatcher.maxNameLen) + 1 + 8 + 1
  | position => 32 + 32 + 32 + 32 + 8 + 1
  | kaminoUsdc | mapleSyrup => (32 + 32 + 8 + 8) + 32 + 32 + 1
  | marginfiUsdc | driftIf => (32 + 32 + 8 + 8) + 32 + 32 + 32 + 1
  | jupiterLp => (32 + 32 + 8 + 8) + 32 + 32 + 32 + 32 + 1

end StateKind

/-! ### Accounts -/

section Accounts

variable (address : Pubkey → AddressBytes)

def AdapterStateHeader.fields (h : AdapterStateHeader) : HeaderFields :=
  (address h.position, address h.adapterProgram, h.createdAt, h.totalShares)

namespace ProgramState

def kind : ProgramState → StateKind
  | registry _ => .registry
  | adapterEntry _ => .adapterEntry
  | position _ => .position
  | kaminoUsdc _ => .kaminoUsdc
  | marginfiUsdc _ => .marginfiUsdc
  | jupiterLp _ => .jupiterLp
  | mapleSyrup _ => .mapleSyrup
  | driftIf _ => .driftIf

def fields : (s : ProgramState) → s.kind.Fields
  | registry s => (address s.admin, s.adapterCount, s.bump)
  | adapterEntry s =>
      (address s.adapterProgram, s.interfaceVersion, s.name, s.isActive, s.addedAt, s.bump)
  | position s =>
      (address s.owner, address s.adapterProgram, address s.usdcPool, address s.usdcMint,
        s.createdAt, s.bump)
  | kaminoUsdc s =>
      (s.header.fields address, address s.kaminoReserve, address s.collateralVault, s.bump)
  | marginfiUsdc s =>
      (s.header.fields address, address s.marginfiGroup, address s.marginfiAccount,
        address s.bank, s.bump)
  | jupiterLp s =>
      (s.header.fields address, address s.pool, address s.custody, address s.lpTokenAccount,
        address s.lpMint, s.bump)
  | mapleSyrup s =>
      (s.header.fields address, address s.whirlpool, address s.syrupTokenAccount, s.bump)
  | driftIf s =>
      (s.header.fields address, address s.spotMarket, address s.insuranceFundStake,
        address s.userStats, s.bump)

/-- The data of the account, as Anchor writes it. -/
def bytes (s : ProgramState) : Bytes :=
  s.kind.discriminator ++ s.kind.format.write (s.fields address)

/-- An entry's name is not longer than `whitelist_adapter` lets it be. -/
def Short (s : ProgramState) : Prop :=
  ∀ e, s = .adapterEntry e → e.name.utf8ByteSize ≤ Dispatcher.maxNameLen

end ProgramState

/-- How the chain these programs run on lays its accounts out. -/
def borshLayout : Layout ProgramState := ⟨address, ProgramState.bytes address⟩

end Accounts

/-- The types a program's accounts can have, by their discriminators. -/
def accountTags (programId : Pubkey) : Format.Tags StateKind where
  kinds := StateKind.all.filter (·.programId = programId)
  tag := StateKind.discriminator
  width := 8
  length_tag kind _ := kind.length_discriminator
  tag_inj kind hmem kind' hmem' h := by
    simp only [List.mem_filter, decide_eq_true_eq] at hmem hmem'
    exact StateKind.eq_of_discriminator (hmem.2.trans hmem'.2.symm) h

/-- How a program's accounts are read: the discriminator selects the type. -/
def accountFormat (programId : Pubkey) : Format ((kind : StateKind) × kind.Fields) :=
  .tagged (accountTags programId) StateKind.format

section Reading

variable {address : Pubkey → AddressBytes} {s : ProgramState}

theorem ProgramState.Short.valid (h : s.Short) : s.kind.format.Valid (s.fields address) := by
  cases s with
  | adapterEntry e =>
    have hshort : e.name.utf8ByteSize ≤ 32 := h e rfl
    simp only [kind, fields, StateKind.format, addressFormat, Format.valid_pair,
      Format.valid_fixed, Format.valid_u8, Format.valid_string, Format.valid_bool,
      Format.valid_i64, true_and, and_true]
    omega
  | _ =>
    simp [kind, fields, StateKind.format, headerFormat, addressFormat]

/-- An account fits into the space it was created with. -/
theorem ProgramState.Short.length_le (h : s.Short) :
    (s.bytes address).length ≤ 8 + s.kind.initSpace := by
  rw [bytes, List.length_append, StateKind.length_discriminator]
  cases s with
  | adapterEntry e =>
    have hshort := h e rfl
    simp only [kind, fields, StateKind.format, addressFormat, Format.length_write_pair,
      Format.length_write_fixed, Format.length_write_u8, Format.length_write_string,
      Format.length_write_bool, Format.length_write_i64, StateKind.initSpace]
    omega
  | _ =>
    simp [kind, fields, StateKind.format, StateKind.initSpace, headerFormat, addressFormat]

/-- Reading an account of a program gives its type and its fields, and leaves what the space
has beyond them. -/
theorem ProgramState.Short.read (h : s.Short) (padding : Bytes) :
    (accountFormat s.kind.programId).read (s.bytes address ++ padding) =
      some (⟨s.kind, s.fields address⟩, padding) := by
  have hkind : s.kind ∈ (accountTags s.kind.programId).kinds := by
    simp [accountTags, s.kind.mem_all]
  exact (accountFormat s.kind.programId).read_write (a := ⟨s.kind, s.fields address⟩)
    ⟨hkind, h.valid⟩ padding

/-- A state account's header comes right after the discriminator. -/
theorem bytes_encode {adapter : Adapter} (s : adapter.State) :
    ∃ rest, (AnchorState.encode s : ProgramState).bytes address =
      (AnchorState.encode s : ProgramState).kind.discriminator ++
        (headerFormat.write ((AdapterAccount.header s).fields address) ++ rest) := by
  cases adapter <;> exact ⟨_, rfl⟩

/-- Whichever adapter's the account is, its header is read at the same place. -/
theorem read_header {adapter : Adapter} (s : adapter.State) (padding : Bytes) :
    ∃ rest, headerFormat.read (((AnchorState.encode s : ProgramState).bytes address ++
      padding).drop 8) = some ((AdapterAccount.header s).fields address, rest) := by
  obtain ⟨rest, hbytes⟩ := @bytes_encode address adapter s
  refine ⟨rest ++ padding, ?_⟩
  rw [hbytes, List.append_assoc, List.drop_left' (StateKind.length_discriminator _),
    List.append_assoc]
  exact headerFormat.read_write (by simp [headerFormat, addressFormat]) _

end Reading

/-! ### The types of events -/

/-- The events of the dispatcher, then the three every adapter emits. -/
inductive EventKind where
  | adapterWhitelisted
  | adapterPaused
  | positionOpened
  | deposited
  | withdrawn
  | valueRead
  | adapterDeposit
  | adapterWithdraw
  | adapterValue
  deriving DecidableEq

namespace EventKind

def all : List EventKind :=
  [adapterWhitelisted, adapterPaused, positionOpened, deposited, withdrawn, valueRead,
    adapterDeposit, adapterWithdraw, adapterValue]

theorem mem_all (kind : EventKind) : kind ∈ all := by
  cases kind <;> decide

def discriminator : EventKind → Bytes
  | adapterWhitelisted => [237, 172, 209, 145, 139, 69, 188, 193]
  | adapterPaused => [152, 100, 97, 30, 233, 108, 147, 226]
  | positionOpened => [237, 175, 243, 230, 147, 117, 101, 121]
  | deposited => [111, 141, 26, 45, 161, 35, 100, 57]
  | withdrawn => [20, 89, 223, 198, 194, 124, 219, 13]
  | valueRead => [187, 67, 167, 217, 92, 93, 206, 191]
  | adapterDeposit => [240, 79, 36, 190, 33, 174, 160, 90]
  | adapterWithdraw => [35, 174, 25, 44, 211, 160, 142, 133]
  | adapterValue => [34, 18, 18, 108, 55, 88, 215, 10]

theorem length_discriminator (kind : EventKind) : kind.discriminator.length = 8 := by
  cases kind <;> rfl

theorem discriminator_inj {kind kind' : EventKind} (h : kind.discriminator = kind'.discriminator) :
    kind = kind' := by
  revert h
  cases kind <;> cases kind' <;> decide

/-- The fields of an event, in their order in the source. -/
def Fields : EventKind → Type
  | adapterWhitelisted => AddressBytes × String × UInt8
  | adapterPaused => AddressBytes × Bool
  | positionOpened => AddressBytes × AddressBytes × AddressBytes
  | valueRead => AddressBytes × UInt64
  | deposited | withdrawn | adapterDeposit | adapterWithdraw | adapterValue =>
      AddressBytes × UInt64 × UInt64

def format : (kind : EventKind) → Format kind.Fields
  | adapterWhitelisted => addressFormat.pair (.pair .string .u8)
  | adapterPaused => addressFormat.pair .bool
  | positionOpened => addressFormat.pair (addressFormat.pair addressFormat)
  | valueRead => addressFormat.pair .u64
  | deposited | withdrawn | adapterDeposit | adapterWithdraw | adapterValue =>
      addressFormat.pair (.pair .u64 .u64)

end EventKind

/-- What is read of an event. -/
abbrev EventRecord := (kind : EventKind) × kind.Fields

def eventTags : Format.Tags EventKind where
  kinds := EventKind.all
  tag := EventKind.discriminator
  width := 8
  length_tag kind _ := kind.length_discriminator
  tag_inj _ _ _ _ h := EventKind.discriminator_inj h

/-- How a line of a program's log is read. -/
def eventFormat : Format EventRecord := .tagged eventTags EventKind.format

/-! ### Events -/

namespace Event

def kind : Event → EventKind
  | adapterWhitelisted .. => .adapterWhitelisted
  | adapterPaused .. => .adapterPaused
  | positionOpened .. => .positionOpened
  | deposited .. => .deposited
  | withdrawn .. => .withdrawn
  | valueRead .. => .valueRead
  | adapterDeposit .. => .adapterDeposit
  | adapterWithdraw .. => .adapterWithdraw
  | adapterValue .. => .adapterValue

section Bytes

variable (address : Pubkey → AddressBytes)

def fields : (event : Event) → event.kind.Fields
  | adapterWhitelisted adapterProgram name interfaceVersion =>
      (address adapterProgram, name, interfaceVersion)
  | adapterPaused adapterProgram isActive => (address adapterProgram, isActive)
  | positionOpened owner adapterProgram position =>
      (address owner, address adapterProgram, address position)
  | deposited position amountIn sharesMinted => (address position, amountIn, sharesMinted)
  | withdrawn position sharesBurned amountOut => (address position, sharesBurned, amountOut)
  | valueRead position valueUsdc => (address position, valueUsdc)
  | adapterDeposit position amountIn sharesMinted => (address position, amountIn, sharesMinted)
  | adapterWithdraw position sharesBurned amountOut => (address position, sharesBurned, amountOut)
  | adapterValue position currentValueUsdc asOfSlot =>
      (address position, currentValueUsdc, asOfSlot)

/-- What a reader gets of the event. -/
def record (event : Event) : EventRecord := ⟨event.kind, event.fields address⟩

/-- The line an event adds to the log. -/
def bytes (event : Event) : Bytes := eventFormat.write (event.record address)

end Bytes

/-- A listing names the adapter no longer than an entry can. -/
def Short (event : Event) : Prop :=
  ∀ adapterProgram name interfaceVersion,
    event = adapterWhitelisted adapterProgram name interfaceVersion →
      name.utf8ByteSize ≤ Dispatcher.maxNameLen

theorem Short.read {address : Pubkey → AddressBytes} {event : Event} (h : event.Short)
    (padding : Bytes) :
    eventFormat.read (event.bytes address ++ padding) = some (event.record address, padding) := by
  refine eventFormat.read_write ⟨event.kind.mem_all, ?_⟩ padding
  cases event with
  | adapterWhitelisted adapterProgram name interfaceVersion =>
    have hshort : name.utf8ByteSize ≤ 32 := h _ _ _ rfl
    simp only [record, kind, fields, EventKind.format, addressFormat, Format.valid_pair,
      Format.valid_fixed, Format.valid_string, Format.valid_u8, true_and, and_true]
    omega
  | _ => simp [record, kind, fields, EventKind.format, addressFormat]

end Event

/-- What is read of a log; lines that are no events are passed over. -/
def readLog (lines : List Bytes) : List EventRecord :=
  lines.filterMap fun line => (eventFormat.read line).map Prod.fst

theorem readLog_bytes {address : Pubkey → AddressBytes} {events : List Event}
    (h : ∀ event ∈ events, event.Short) :
    readLog (events.map (Event.bytes address)) = events.map (Event.record address) := by
  unfold readLog
  rw [List.filterMap_map, ← List.filterMap_eq_map]
  refine List.filterMap_congr fun event hevent => ?_
  have hread : eventFormat.read (event.bytes address ++ []) = some (event.record address, []) :=
    (h event hevent).read []
  rw [List.append_nil] at hread
  simp [hread]

end YieldAdapter

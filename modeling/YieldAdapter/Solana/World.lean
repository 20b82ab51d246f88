import YieldAdapter.Solana.Address
import YieldAdapter.Solana.Bytes

/-!
# Accounts and what a foreign program may do to them

The world a program runs in: the accounts by address, the clock, the return-data
channel and the event log. Account contents are kept decoded: SPL token accounts
and mints, the typed accounts of Anchor programs, and raw bytes for everything
else. `AccountData.bytes` gives the stored bytes of all of them.

`Framed locked signed` is the runtime's guarantee about code we do not see. The
accounts of a `locked` program stay as they are, since that program is on the
call stack and cannot be entered again, and a token account keeps its mint, its
authority and at least its balance unless its authority `signed`. That nobody else can
debit it holds of token accounts on which no delegate is approved.
-/

set_option autoImplicit false

namespace Solana

/-- The SPL Token program. -/
def tokenProgramId : Pubkey :=
  .key 0x06ddf6e1d765a193d9cbe146ceeb79ac1cb485ed5f5b37913a8cf5857eff00a9

/-- The System program. -/
def systemProgramId : Pubkey := .key 0

/-- The Associated Token Account program. -/
def associatedTokenProgramId : Pubkey :=
  .key 0x8c97258f4e2489f1bb3d1029148e0d830b5a1399daff1084048e7bd8dbe9f859

/-- An SPL token account. No delegate and no close authority is approved on it, so that only
its authority's signature debits it. -/
structure TokenAccount where
  mint : Pubkey
  authority : Pubkey
  amount : UInt64
  deriving DecidableEq

/-- An SPL mint. -/
structure Mint where
  mintAuthority : Option Pubkey
  supply : UInt64
  decimals : UInt8
  freezeAuthority : Option Pubkey
  deriving DecidableEq

/-- What an account stores; `σ` is the type of the typed Anchor accounts. -/
inductive AccountData (σ : Type) where
  | raw (bytes : Bytes)
  | token (account : TokenAccount)
  | mint (mint : Mint)
  | anchor (state : σ)

/-- An account: the program that owns it and its contents. -/
structure Account (σ : Type) where
  owner : Pubkey
  executable : Bool
  data : AccountData σ

/-- How addresses and typed accounts are laid out in bytes. -/
structure Layout (σ : Type) where
  key : Pubkey → Vector UInt8 32
  state : σ → Bytes

section Layout

variable {σ : Type} (layout : Layout σ)

/-- An optional address: a four-byte tag and 32 bytes. -/
def optionBytes : Option Pubkey → Bytes
  | none => List.replicate 36 0
  | some k => [1, 0, 0, 0] ++ (layout.key k).toList

/-- The stored bytes. A token account carries no delegate and no close authority. -/
def AccountData.bytes : AccountData σ → Bytes
  | .raw bytes => bytes
  | .token t =>
      (layout.key t.mint).toList ++ (layout.key t.authority).toList ++ leBytes64 t.amount ++
        (List.replicate 36 0 ++ [1] ++ List.replicate 56 0)
  | .mint m =>
      optionBytes layout m.mintAuthority ++ leBytes64 m.supply ++ [m.decimals, 1] ++
        optionBytes layout m.freezeAuthority
  | .anchor s => layout.state s

end Layout

/-- The clock sysvar. -/
structure Clock where
  slot : UInt64
  unixTimestamp : Int64
  deriving DecidableEq

/-- The account a program is handed, with the privileges the caller passed on. -/
structure AccountInfo where
  key : Pubkey
  isSigner : Bool
  isWritable : Bool
  deriving DecidableEq

/-- An account of an instruction about to be issued. -/
structure AccountMeta where
  pubkey : Pubkey
  isSigner : Bool
  isWritable : Bool
  deriving DecidableEq

/-- A writable account. -/
def AccountMeta.new (pubkey : Pubkey) (isSigner : Bool) : AccountMeta := ⟨pubkey, isSigner, true⟩

/-- An account that is only read. -/
def AccountMeta.newReadonly (pubkey : Pubkey) (isSigner : Bool) : AccountMeta :=
  ⟨pubkey, isSigner, false⟩

/-- Instruction data. The instructions of the System, Token and Associated Token
programs are named; every other instruction is its bytes. -/
inductive InstructionData where
  | bytes (data : Bytes)
  | createAccount (owner : Pubkey)
  | createAssociated
  | transfer (amount : UInt64)
  deriving DecidableEq

/-- An instruction of some program. -/
structure Instruction where
  programId : Pubkey
  accounts : List AccountMeta
  data : InstructionData
  deriving DecidableEq

/-- What the instructions sysvar exposes: the programs of the transaction's
top-level instructions and the index of the one being executed. -/
structure InstructionsSysvar where
  programIds : List Pubkey
  currentIndex : Nat
  deriving DecidableEq

/-- A cross-program invocation, with the programs executing when it was issued,
outermost first; the last of them issued it. -/
structure Call where
  sysvar : InstructionsSysvar
  stack : List Pubkey
  instruction : Instruction
  deriving DecidableEq

/-- The addresses whose signature the call carries. -/
def Call.signers (call : Call) : List Pubkey :=
  (call.instruction.accounts.filter (·.isSigner)).map (·.pubkey)

/-- Everything a program can read or change, and the calls issued so far by the
program at hand. Events carry the program that emitted them; newest first. -/
structure World (σ η : Type) where
  accounts : Pubkey → Option (Account σ)
  clock : Clock
  returnData : Pubkey × Bytes
  events : List (Pubkey × η)
  calls : List Call

/-- Type `τ` is the contents of one kind of account of an Anchor program. -/
class AnchorState (σ τ : Type) where
  programId : Pubkey
  encode : τ → σ
  decode : σ → Option τ
  decode_eq_some : ∀ s t, decode s = some t ↔ s = encode t

theorem AnchorState.encode_inj {σ τ : Type} [AnchorState σ τ] {s t : τ}
    (h : (AnchorState.encode s : σ) = AnchorState.encode t) : s = t := by
  have hdecoded := AnchorState.decode_eq_some (AnchorState.encode s : σ) s
  rw [h, (AnchorState.decode_eq_some _ t).mpr rfl] at hdecoded
  exact (Option.some.inj (hdecoded.mpr rfl)).symm

/-- The events of one program in a log. -/
def emissions {η : Type} (programId : Pubkey) (events : List (Pubkey × η)) : List η :=
  events.filterMap fun e => if e.1 = programId then some e.2 else none

section Emissions

variable {η : Type} {programId : Pubkey}

@[simp] theorem emissions_nil : emissions programId ([] : List (Pubkey × η)) = [] := rfl

@[simp] theorem emissions_cons (e : Pubkey × η) (events : List (Pubkey × η)) :
    emissions programId (e :: events) =
      if e.1 = programId then e.2 :: emissions programId events
      else emissions programId events := by
  by_cases h : e.1 = programId <;> simp [emissions, h]

@[simp] theorem emissions_append (events events' : List (Pubkey × η)) :
    emissions programId (events ++ events') =
      emissions programId events ++ emissions programId events' :=
  List.filterMap_append

theorem mem_emissions {events : List (Pubkey × η)} {event : η} :
    event ∈ emissions programId events ↔ (programId, event) ∈ events := by
  simp only [emissions, List.mem_filterMap, Option.ite_none_right_eq_some, Option.some.injEq]
  constructor
  · rintro ⟨⟨_, _⟩, hmem, rfl, rfl⟩
    exact hmem
  · exact fun hmem => ⟨_, hmem, rfl, rfl⟩

theorem emissions_eq_nil {events : List (Pubkey × η)} (h : ∀ e ∈ events, e.1 ≠ programId) :
    emissions programId events = [] := by
  rw [emissions, List.filterMap_eq_nil_iff]
  exact fun e he => if_neg (h e he)

end Emissions

namespace World

variable {σ η : Type}

/-- Store an account. -/
def put (w : World σ η) (key : Pubkey) (account : Account σ) : World σ η :=
  { w with accounts := fun k => if k = key then some account else w.accounts k }

@[simp] theorem put_accounts (w : World σ η) (key k : Pubkey) (account : Account σ) :
    (w.put key account).accounts k = if k = key then some account else w.accounts k := rfl

/-- The token account stored at an address, if the Token program owns it. -/
def token? (w : World σ η) (key : Pubkey) : Option TokenAccount :=
  match w.accounts key with
  | some ⟨owner, _, .token t⟩ => if owner = tokenProgramId then some t else none
  | _ => none

/-- The typed account stored at an address, if the program of its type owns it. -/
def state? (τ : Type) [AnchorState σ τ] (w : World σ η) (key : Pubkey) : Option τ :=
  match w.accounts key with
  | some ⟨owner, _, .anchor s⟩ =>
      if owner = AnchorState.programId σ τ then AnchorState.decode s else none
  | _ => none

/-- The typed contents of an account that `programId` owns, whatever their type. -/
def typed? (w : World σ η) (programId key : Pubkey) : Option σ :=
  match w.accounts key with
  | some ⟨owner, _, .anchor s⟩ => if owner = programId then some s else none
  | _ => none

/-- What a program has emitted, newest first. -/
def emittedBy (w : World σ η) (programId : Pubkey) : List η := emissions programId w.events

/-- The same world, with no calls issued yet. -/
def fresh (w : World σ η) : World σ η := { w with calls := [] }

@[simp] theorem fresh_accounts (w : World σ η) : w.fresh.accounts = w.accounts := rfl

@[simp] theorem fresh_calls (w : World σ η) : w.fresh.calls = [] := rfl

@[simp] theorem fresh_token? (w : World σ η) (key : Pubkey) : w.fresh.token? key = w.token? key :=
  rfl

@[simp] theorem fresh_emittedBy (w : World σ η) (programId : Pubkey) :
    w.fresh.emittedBy programId = w.emittedBy programId := rfl

/-- Whether the account at an address is an executable program. -/
def executable (w : World σ η) (key : Pubkey) : Bool :=
  (w.accounts key).elim false (·.executable)

/-- Whether a program owns the account at an address. -/
def ownedBy (w : World σ η) (programId key : Pubkey) : Bool :=
  (w.accounts key).elim false fun account => decide (account.owner = programId)

/-- The stored bytes at an address; an account that does not exist has none. -/
def bytes (layout : Layout σ) (w : World σ η) (key : Pubkey) : Bytes :=
  (w.accounts key).elim [] fun account => account.data.bytes layout

theorem token?_eq_some {w : World σ η} {key : Pubkey} {t : TokenAccount} :
    w.token? key = some t ↔
      ∃ executable, w.accounts key = some ⟨tokenProgramId, executable, .token t⟩ := by
  unfold token?
  split
  · rename_i owner executable account hstored
    split_ifs with howner
    · subst howner
      simp [hstored, eq_comm]
    · simp [hstored, howner]
  · rename_i hother
    constructor
    · intro h
      cases h
    · rintro ⟨executable, hstored⟩
      exact absurd hstored (hother _ _ _)

theorem state?_eq_some {τ : Type} [AnchorState σ τ] {w : World σ η} {key : Pubkey} {t : τ} :
    w.state? τ key = some t ↔
      ∃ executable, w.accounts key =
        some ⟨AnchorState.programId σ τ, executable, .anchor (AnchorState.encode t)⟩ := by
  unfold state?
  split
  · rename_i owner executable s hstored
    split_ifs with howner
    · subst howner
      simp [hstored, AnchorState.decode_eq_some]
    · simp [hstored, howner]
  · rename_i hother
    constructor
    · intro h
      cases h
    · rintro ⟨executable, hstored⟩
      exact absurd hstored (hother _ _ _)

theorem typed?_eq_some {w : World σ η} {programId key : Pubkey} {s : σ} :
    w.typed? programId key = some s ↔
      ∃ executable, w.accounts key = some ⟨programId, executable, .anchor s⟩ := by
  unfold typed?
  split
  · rename_i owner executable s' hstored
    split_ifs with howner
    · subst howner
      simp [hstored]
    · simp [hstored, howner]
  · rename_i hother
    constructor
    · intro h
      cases h
    · rintro ⟨executable, hstored⟩
      exact absurd hstored (hother _ _ _)

/-- Reading at a type is reading what the program of that type stored. -/
theorem state?_eq_some_iff_typed? {τ : Type} [AnchorState σ τ] {w : World σ η} {key : Pubkey}
    {t : τ} : w.state? τ key = some t ↔
      w.typed? (AnchorState.programId σ τ) key = some (AnchorState.encode t) := by
  rw [state?_eq_some, typed?_eq_some]

/-- What is read at a type depends only on what the program of that type stored. -/
theorem state?_congr_typed? {τ : Type} [AnchorState σ τ] {w w' : World σ η} {key : Pubkey}
    (h : w'.typed? (AnchorState.programId σ τ) key = w.typed? (AnchorState.programId σ τ) key) :
    w'.state? τ key = w.state? τ key := by
  apply Option.ext
  intro t
  rw [state?_eq_some_iff_typed?, state?_eq_some_iff_typed?, h]

/-- Reading at a type is decoding what the program of that type stored. -/
theorem state?_eq_bind {τ : Type} [AnchorState σ τ] (w : World σ η) (key : Pubkey) :
    w.state? τ key = (w.typed? (AnchorState.programId σ τ) key).bind AnchorState.decode := by
  apply Option.ext
  intro t
  rw [state?_eq_some_iff_typed?]
  simp [Option.bind_eq_some_iff, AnchorState.decode_eq_some]

theorem typed?_of_vacant {w : World σ η} {programId key : Pubkey} (h : w.accounts key = none) :
    w.typed? programId key = none := by
  simp [typed?, h]

/-- What is stored is not where something is vacant. -/
theorem ne_of_vacant {w : World σ η} {programId key k : Pubkey} {s : σ}
    (hvacant : w.typed? programId key = none) (hstored : w.typed? programId k = some s) :
    k ≠ key := by
  rintro rfl
  rw [hvacant] at hstored
  cases hstored

/-- Accounts that hold different things are different accounts. -/
theorem ne_of_stored {w : World σ η} {programId key k : Pubkey} {s t : σ} (hne : s ≠ t)
    (h : w.typed? programId key = some s) (h' : w.typed? programId k = some t) : key ≠ k := by
  rintro rfl
  exact hne (Option.some.inj (h.symm.trans h'))

@[simp] theorem typed?_put (w : World σ η) (programId key k : Pubkey) (s : σ) :
    (w.put key ⟨programId, false, .anchor s⟩).typed? programId k =
      if k = key then some s else w.typed? programId k := by
  by_cases hk : k = key <;> simp [typed?, hk]

theorem owner_of_ownedBy {w : World σ η} {programId key : Pubkey} {account : Account σ}
    (howned : w.ownedBy programId key = true) (hstored : w.accounts key = some account) :
    account.owner = programId := by
  simpa [ownedBy, hstored] using howned

/-- A typed account is owned by the program of its type. -/
theorem ownedBy_of_state? {τ : Type} [AnchorState σ τ] {w : World σ η} {key : Pubkey} {s : τ}
    (h : w.state? τ key = some s) : w.ownedBy (AnchorState.programId σ τ) key = true := by
  obtain ⟨executable, hstored⟩ := state?_eq_some.mp h
  simp [ownedBy, hstored]

/-- One account has one owner. -/
theorem ne_of_owners {w : World σ η} {program other key k : Pubkey} (hne : program ≠ other)
    (h : w.ownedBy program key = true) (h' : w.ownedBy other k = true) : key ≠ k := by
  rintro rfl
  cases hstored : w.accounts key with
  | none => simp [ownedBy, hstored] at h
  | some account =>
    exact hne ((owner_of_ownedBy h hstored).symm.trans (owner_of_ownedBy h' hstored))

theorem token?_of_ownedBy {w : World σ η} {programId key : Pubkey}
    (howned : w.ownedBy programId key = true) (htoken : programId ≠ tokenProgramId) :
    w.token? key = none := by
  rw [Option.eq_none_iff_forall_ne_some]
  intro t ht
  obtain ⟨executable, hstored⟩ := token?_eq_some.mp ht
  exact htoken (owner_of_ownedBy howned hstored).symm

/-- A typed account is not a token account. -/
theorem ne_of_token?_state? {τ : Type} [AnchorState σ τ] {w : World σ η} {key k : Pubkey}
    {account : TokenAccount} {s : τ} (htoken : w.token? key = some account)
    (hstate : w.state? τ k = some s) : key ≠ k := by
  rintro rfl
  obtain ⟨_, hstored⟩ := token?_eq_some.mp htoken
  obtain ⟨_, htyped⟩ := state?_eq_some.mp hstate
  rw [hstored] at htyped
  simp at htyped

/-- Storing at one address leaves what is read at the others. -/
theorem state?_put_ne {τ : Type} [AnchorState σ τ] {w : World σ η} {key k : Pubkey}
    {account : Account σ} (hne : k ≠ key) : (w.put key account).state? τ k = w.state? τ k := by
  simp [state?, hne]

theorem token?_put_ne {w : World σ η} {key k : Pubkey} {account : Account σ} (hne : k ≠ key) :
    (w.put key account).token? k = w.token? k := by
  simp [token?, hne]

/-- What was stored is what is read, for the program that owns its type. -/
theorem state?_put_self {τ : Type} [AnchorState σ τ] {w : World σ η} {key programId : Pubkey}
    {t : τ} (hprogram : programId = AnchorState.programId σ τ) :
    (w.put key ⟨programId, false, .anchor (AnchorState.encode t)⟩).state? τ key = some t := by
  simp [state?, hprogram, AnchorState.decode_eq_some]

theorem state?_congr {τ : Type} [AnchorState σ τ] {w w' : World σ η}
    (h : w'.accounts = w.accounts) (key : Pubkey) : w'.state? τ key = w.state? τ key := by
  simp [state?, h]

theorem token?_congr {w w' : World σ η} (h : w'.accounts = w.accounts) (key : Pubkey) :
    w'.token? key = w.token? key := by
  simp [token?, h]

theorem ownedBy_congr {w w' : World σ η} (h : w'.accounts = w.accounts) (programId key : Pubkey) :
    w'.ownedBy programId key = w.ownedBy programId key := by
  simp [ownedBy, h]

theorem bytes_congr {layout : Layout σ} {w w' : World σ η} (h : w'.accounts = w.accounts)
    (key : Pubkey) : w'.bytes layout key = w.bytes layout key := by
  simp [bytes, h]

end World

/-! ### The frame a foreign program respects -/

/-- What may have changed while the programs `locked` could not run and only the
authorities `signed` had given their signature. -/
structure Framed {σ η : Type} (locked signed : Pubkey → Prop) (w w' : World σ η) : Prop where
  kept : ∀ key account, w.accounts key = some account → locked account.owner →
    w'.accounts key = some account
  made : ∀ key account s, w'.accounts key = some account → locked account.owner →
    account.data = .anchor s → w.accounts key = some account
  debited : ∀ key t, w.token? key = some t → ¬ signed t.authority →
    ∃ t', w'.token? key = some t' ∧ t'.mint = t.mint ∧ t'.authority = t.authority ∧
      t.amount ≤ t'.amount
  emitted : ∃ recent, w'.events = recent ++ w.events ∧ ∀ e ∈ recent, ¬ locked e.1

namespace Framed

variable {σ η : Type} {locked signed signed' : Pubkey → Prop} {w w' w'' : World σ η}

theorem refl (w : World σ η) : Framed locked signed w w where
  kept _ _ h _ := h
  made _ _ _ h _ _ := h
  debited _ t h _ := ⟨t, h, rfl, rfl, UInt64.le_refl _⟩
  emitted := ⟨[], rfl, by simp⟩

theorem trans (h : Framed locked signed w w') (h' : Framed locked signed w' w'') :
    Framed locked signed w w'' where
  kept key account hstored howner := h'.kept key account (h.kept key account hstored howner) howner
  made key account s hstored howner hdata :=
    h.made key account s (h'.made key account s hstored howner hdata) howner hdata
  debited key t ht hsigned := by
    obtain ⟨t₁, ht₁, hmint, hauthority, hle⟩ := h.debited key t ht hsigned
    obtain ⟨t₂, ht₂, hmint', hauthority', hle'⟩ :=
      h'.debited key t₁ ht₁ (by rwa [hauthority])
    exact ⟨t₂, ht₂, hmint'.trans hmint, hauthority'.trans hauthority, UInt64.le_trans hle hle'⟩
  emitted := by
    obtain ⟨recent, hevents, hfree⟩ := h.emitted
    obtain ⟨recent', hevents', hfree'⟩ := h'.emitted
    refine ⟨recent' ++ recent, by rw [hevents', hevents, List.append_assoc], fun e he => ?_⟩
    rcases List.mem_append.mp he with he | he
    · exact hfree' e he
    · exact hfree e he

instance : Std.Refl (Framed (σ := σ) (η := η) locked signed) := ⟨refl⟩

instance : IsTrans (World σ η) (Framed locked signed) := ⟨fun _ _ _ => trans⟩

/-- Fewer locked programs and more signatures allow more. -/
theorem mono {locked' : Pubkey → Prop} (h : Framed locked signed w w')
    (hlocked : ∀ k, locked' k → locked k) (hsigned : ∀ k, signed k → signed' k) :
    Framed locked' signed' w w' where
  kept key account hstored howner := h.kept key account hstored (hlocked _ howner)
  made key account s hstored howner := h.made key account s hstored (hlocked _ howner)
  debited key t ht hnot := h.debited key t ht fun hs => hnot (hsigned _ hs)
  emitted := by
    obtain ⟨recent, hevents, hfree⟩ := h.emitted
    exact ⟨recent, hevents, fun e he hl => hfree e he (hlocked _ hl)⟩

/-- The typed accounts of a locked program are the same before and after. -/
theorem typed?_eq (h : Framed locked signed w w') {programId : Pubkey} (hlocked : locked programId)
    (key : Pubkey) : w'.typed? programId key = w.typed? programId key := by
  apply Option.ext
  intro s
  simp only [World.typed?_eq_some]
  constructor
  · rintro ⟨executable, hstored⟩
    exact ⟨executable, h.made key _ _ hstored hlocked rfl⟩
  · rintro ⟨executable, hstored⟩
    exact ⟨executable, h.kept key _ hstored hlocked⟩

/-- A locked program has emitted nothing. -/
theorem emittedBy_eq (h : Framed locked signed w w') {programId : Pubkey}
    (hlocked : locked programId) : w'.emittedBy programId = w.emittedBy programId := by
  obtain ⟨recent, hevents, hfree⟩ := h.emitted
  have hnone : emissions programId recent = [] := by
    refine emissions_eq_nil fun e he hsame => hfree e he ?_
    rw [hsame]
    exact hlocked
  rw [World.emittedBy, hevents, emissions_append, hnone, List.nil_append, World.emittedBy]

theorem state?_eq {τ : Type} [AnchorState σ τ] (h : Framed locked signed w w')
    (hlocked : locked (AnchorState.programId σ τ)) (key : Pubkey) :
    w'.state? τ key = w.state? τ key :=
  World.state?_congr_typed? (h.typed?_eq hlocked key)

/-- A program's balance cannot fall without its signature. -/
theorem amount_le (h : Framed locked signed w w') {key : Pubkey} {t : TokenAccount}
    (ht : w.token? key = some t) (hunsigned : ¬ signed t.authority) :
    ∃ t', w'.token? key = some t' ∧ t'.authority = t.authority ∧ t.amount ≤ t'.amount := by
  obtain ⟨t', ht', -, hauthority, hle⟩ := h.debited key t ht hunsigned
  exact ⟨t', ht', hauthority, hle⟩

/-- Filling a vacant address with an account that holds no typed data. -/
theorem put_vacant {key : Pubkey} {account : Account σ} (hvacant : w.accounts key = none)
    (huntyped : ∀ s, account.data ≠ .anchor s) : Framed locked signed w (w.put key account) where
  kept k other hstored _ := by
    have hne : k ≠ key := by
      rintro rfl
      simp [hvacant] at hstored
    simpa [hne] using hstored
  made k other s hstored _ hdata := by
    by_cases hk : k = key
    · simp only [World.put_accounts, hk, if_pos, Option.some.injEq] at hstored
      exact absurd (hstored ▸ hdata) (huntyped s)
    · simpa [hk] using hstored
  debited k t ht _ := by
    obtain ⟨executable, hstored⟩ := World.token?_eq_some.mp ht
    have hne : k ≠ key := by
      rintro rfl
      simp [hvacant] at hstored
    exact ⟨t, World.token?_eq_some.mpr ⟨executable, by simpa [hne] using hstored⟩, rfl, rfl,
      UInt64.le_refl _⟩
  emitted := ⟨[], rfl, by simp⟩

/-- Overwriting an account of a program that is neither locked nor the Token program. -/
theorem put_owned {programId key : Pubkey} {account : Account σ}
    (howned : w.ownedBy programId key = true) (howner : account.owner = programId)
    (hfree : ¬ locked programId) (htoken : programId ≠ tokenProgramId) :
    Framed locked signed w (w.put key account) where
  kept k other hstored hlocked := by
    have hne : k ≠ key := by
      rintro rfl
      exact hfree (World.owner_of_ownedBy howned hstored ▸ hlocked)
    simpa [hne] using hstored
  made k other s hstored hlocked _ := by
    by_cases hk : k = key
    · simp only [World.put_accounts, hk, if_pos, Option.some.injEq] at hstored
      exact absurd (hstored ▸ hlocked) (howner ▸ hfree)
    · simpa [hk] using hstored
  debited k t ht _ := by
    obtain ⟨executable, hstored⟩ := World.token?_eq_some.mp ht
    have hne : k ≠ key := by
      rintro rfl
      exact htoken (World.owner_of_ownedBy howned hstored).symm
    exact ⟨t, World.token?_eq_some.mpr ⟨executable, by simpa [hne] using hstored⟩, rfl, rfl,
      UInt64.le_refl _⟩
  emitted := ⟨[], rfl, by simp⟩

/-- What lies outside accounts and events is outside the frame. -/
theorem settled (haccounts : w'.accounts = w.accounts) (hevents : w'.events = w.events) :
    Framed locked signed w w' where
  kept key account hstored _ := by rw [haccounts]; exact hstored
  made key account s hstored _ _ := by rw [← haccounts]; exact hstored
  debited key t ht _ := by
    refine ⟨t, ?_, rfl, rfl, UInt64.le_refl _⟩
    unfold World.token? at *
    rwa [haccounts]
  emitted := ⟨[], by rw [hevents]; rfl, by simp⟩

end Framed

/-! ### What a program may do on its own -/

/-- `R` holds from one world to the next when nothing happened to accounts and events. -/
class Quiet {σ η : Type} (R : World σ η → World σ η → Prop) : Prop
    extends Std.Refl R, IsTrans (World σ η) R where
  settled : ∀ {w w'}, w'.accounts = w.accounts → w'.events = w.events → R w w'

/-- `R` also holds when an account without typed data was created at a vacant address. -/
class Benign {σ η : Type} (R : World σ η → World σ η → Prop) : Prop extends Quiet R where
  created : ∀ {w key account}, w.accounts key = none → (∀ s, account.data ≠ .anchor s) →
    R w (w.put key account)

/-- `R` also holds when `programId` writes a typed account it owns or emits an event. -/
class Writes {σ η : Type} (programId : Pubkey) (R : World σ η → World σ η → Prop) : Prop
    extends Quiet R where
  written : ∀ {w key s}, w.ownedBy programId key = true →
    R w (w.put key ⟨programId, false, .anchor s⟩)
  emitted : ∀ w event, R w { w with events := (programId, event) :: w.events }

/-- All of these. -/
class Permits {σ η : Type} (programId : Pubkey) (R : World σ η → World σ η → Prop) : Prop
    extends Benign R, Writes programId R

instance Framed.benign {σ η : Type} {locked signed : Pubkey → Prop} :
    Benign (Framed (σ := σ) (η := η) locked signed) where
  settled := Framed.settled
  created := Framed.put_vacant

/-- A program that is not locked stays in the frame by itself. -/
theorem Framed.permits {σ η : Type} {locked signed : Pubkey → Prop} {programId : Pubkey}
    (hfree : ¬ locked programId) (htoken : programId ≠ tokenProgramId) :
    Permits programId (Framed (σ := σ) (η := η) locked signed) where
  written howned := Framed.put_owned howned rfl hfree htoken
  emitted w event :=
    { kept := fun _ _ h _ => h
      made := fun _ _ _ h _ _ => h
      debited := fun _ t h _ => ⟨t, h, rfl, rfl, UInt64.le_refl _⟩
      emitted := ⟨[(programId, event)], rfl, by simpa using hfree⟩ }

end Solana

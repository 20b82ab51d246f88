import YieldAdapter.Dispatcher.Pairing
import YieldAdapter.Formats

/-!
# What is on the wire

A request arrives as bytes, and what the programs store and announce is bytes to everyone
else. The dispatcher's instructions are read from exactly their encodings. In every state of
every run the typed accounts fit into their space and are read back from it, and so is the
dispatcher's log. The header that each adapter's state begins with therefore tells a reader
who does not know the adapter how many shares the log accounts for.
-/

set_option autoImplicit false

namespace YieldAdapter.Dispatcher

open Solana Accounting

/-! ### Instructions -/

/-- The instructions of the dispatcher. -/
inductive IxKind where
  | initializeRegistry
  | whitelistAdapter
  | pauseAdapter
  | openPosition
  | deposit
  | withdraw
  | currentValue
  deriving DecidableEq

namespace IxKind

def all : List IxKind :=
  [initializeRegistry, whitelistAdapter, pauseAdapter, openPosition, deposit, withdraw,
    currentValue]

theorem mem_all (kind : IxKind) : kind ∈ all := by
  cases kind <;> decide

def discriminator : IxKind → Bytes
  | initializeRegistry => [189, 181, 20, 17, 174, 57, 249, 59]
  | whitelistAdapter => [62, 74, 124, 166, 112, 117, 86, 43]
  | pauseAdapter => [28, 176, 64, 210, 204, 183, 164, 160]
  | openPosition => [135, 128, 47, 77, 15, 152, 240, 49]
  | deposit => [242, 35, 198, 137, 82, 225, 242, 182]
  | withdraw => [183, 18, 70, 156, 148, 109, 161, 34]
  | currentValue => [232, 199, 167, 206, 247, 56, 234, 20]

theorem length_discriminator (kind : IxKind) : kind.discriminator.length = 8 := by
  cases kind <;> rfl

theorem discriminator_inj {kind kind' : IxKind} (h : kind.discriminator = kind'.discriminator) :
    kind = kind' := by
  revert h
  cases kind <;> cases kind' <;> decide

/-- The arguments of an instruction. -/
def Args : IxKind → Type
  | whitelistAdapter => String × UInt8
  | pauseAdapter => Bool
  | deposit | withdraw => UInt64
  | initializeRegistry | openPosition | currentValue => Unit

def format : (kind : IxKind) → Format kind.Args
  | whitelistAdapter => .pair .string .u8
  | pauseAdapter => .bool
  | deposit | withdraw => .u64
  | initializeRegistry | openPosition | currentValue => .unit

end IxKind

def ixTags : Format.Tags IxKind where
  kinds := IxKind.all
  tag := IxKind.discriminator
  width := 8
  length_tag kind _ := kind.length_discriminator
  tag_inj _ _ _ _ h := IxKind.discriminator_inj h

namespace Ix

def kind : Ix → IxKind
  | initializeRegistry => .initializeRegistry
  | whitelistAdapter .. => .whitelistAdapter
  | pauseAdapter .. => .pauseAdapter
  | openPosition => .openPosition
  | deposit .. => .deposit
  | withdraw .. => .withdraw
  | currentValue => .currentValue

def args : (ix : Ix) → ix.kind.Args
  | initializeRegistry | openPosition | currentValue => ()
  | whitelistAdapter name interfaceVersion => (name, interfaceVersion)
  | pauseAdapter paused => paused
  | deposit amount => amount
  | withdraw shares => shares

/-- The instruction of a kind with the arguments. -/
def ofArgs : (kind : IxKind) → kind.Args → Ix
  | .initializeRegistry, _ => initializeRegistry
  | .whitelistAdapter, (name, interfaceVersion) => whitelistAdapter name interfaceVersion
  | .pauseAdapter, paused => pauseAdapter paused
  | .openPosition, _ => openPosition
  | .deposit, amount => deposit amount
  | .withdraw, shares => withdraw shares
  | .currentValue, _ => currentValue

@[simp] theorem ofArgs_args (ix : Ix) : ofArgs ix.kind ix.args = ix := by
  cases ix <;> rfl

/-- The data of a request for the instruction. -/
def encode (ix : Ix) : Bytes := ix.kind.discriminator ++ ix.kind.format.write ix.args

/-- The data can be written: a name's length goes into four bytes. -/
def Encodable (ix : Ix) : Prop := ix.kind.format.Valid ix.args

/-- The tag of the instructions that Anchor adds to every program, about the account that holds
the program's interface description. -/
def idlTag : Bytes := [64, 244, 188, 120, 167, 233, 105, 10]

/-- The tag of the calls by which a program would send events to itself. -/
def eventTag : Bytes := [228, 69, 165, 46, 81, 203, 154, 29]

/-- What the entry point runs: an instruction of the dispatcher's, or Anchor's own handler with
its arguments. -/
inductive Decoded where
  | own (ix : Ix)
  | idl (args : Bytes)

/-- The entry point's decoder. Bytes after the arguments are left alone. -/
def decode (data : Bytes) : Except Error Decoded :=
  match ixTags.find data with
  | some kind =>
    match kind.format.read (data.drop ixTags.width) with
    | none => .error (.anchor .instructionDidNotDeserialize)
    | some (args, _) => .ok (.own (ofArgs kind args))
  | none =>
    -- Anchor's tags come after the dispatcher's instructions
    if data.take 8 = idlTag then .ok (.idl (data.drop 8))
    else if data.take 8 = eventTag then .error (.anchor .eventInstructionStub)
    else .error (.anchor .instructionFallbackNotFound)

section Decode

variable {data : Bytes} {ix : Ix}

theorem encodable_iff : ix.Encodable ↔
    ∀ name interfaceVersion, ix = .whitelistAdapter name interfaceVersion →
      name.utf8ByteSize < 2 ^ 32 := by
  cases ix with
  | whitelistAdapter name interfaceVersion => simp [Encodable, kind, args, IxKind.format]
  | _ => simp [Encodable, kind, args, IxKind.format]

theorem encodable_ofArgs {kind : IxKind} {args : kind.Args} :
    (ofArgs kind args).Encodable ↔ kind.format.Valid args := by
  cases kind <;> rfl

theorem encode_ofArgs {kind : IxKind} {args : kind.Args} :
    (ofArgs kind args).encode = kind.discriminator ++ kind.format.write args := by
  cases kind <;> rfl

/-- No instruction's discriminator is found in data that begins with none. -/
theorem find_eq_none : ixTags.find data = none ↔
    ∀ kind : IxKind, kind.discriminator ≠ data.take 8 := by
  rw [Option.eq_none_iff_forall_ne_some]
  refine forall_congr' fun kind => ?_
  rw [Ne, ixTags.find_eq_some, not_and]
  exact ⟨fun h => h kind.mem_all, fun h _ => h⟩

/-- Neither of Anchor's tags is an instruction's discriminator. -/
theorem discriminator_ne_tags (kind : IxKind) :
    kind.discriminator ≠ idlTag ∧ kind.discriminator ≠ eventTag := by
  cases kind <;> decide

theorem find_eq_none_of_tag {tag : Bytes} (htag : tag = idlTag ∨ tag = eventTag)
    (h : data.take 8 = tag) : ixTags.find data = none := by
  rw [find_eq_none]
  intro kind hkind
  obtain ⟨hidl, hevent⟩ := discriminator_ne_tags kind
  rw [h] at hkind
  rcases htag with rfl | rfl
  · exact hidl hkind
  · exact hevent hkind

/-- How the entry point gets from the data to its answer. -/
inductive Dispatched (data : Bytes) : Except Error Decoded → Prop
  | own {kind : IxKind} {args : kind.Args} {rest : Bytes}
      (found : ixTags.find data = some kind)
      (read : kind.format.read (data.drop ixTags.width) = some (args, rest)) :
      Dispatched data (.ok (.own (ofArgs kind args)))
  | garbled {kind : IxKind} (found : ixTags.find data = some kind)
      (unread : kind.format.read (data.drop ixTags.width) = none) :
      Dispatched data (.error (.anchor .instructionDidNotDeserialize))
  | idl (unfound : ixTags.find data = none) (tag : data.take 8 = idlTag) :
      Dispatched data (.ok (.idl (data.drop 8)))
  | event (unfound : ixTags.find data = none) (tag : data.take 8 = eventTag) :
      Dispatched data (.error (.anchor .eventInstructionStub))
  | fallback (unfound : ixTags.find data = none) (idl : data.take 8 ≠ idlTag)
      (event : data.take 8 ≠ eventTag) :
      Dispatched data (.error (.anchor .instructionFallbackNotFound))

theorem dispatched (data : Bytes) : Dispatched data (decode data) := by
  unfold decode
  split
  · rename_i kind found
    split
    · exact .garbled found ‹_›
    · exact .own found ‹_›
  · rename_i unfound
    split_ifs with idl event
    · exact .idl unfound idl
    · exact .event unfound event
    · exact .fallback unfound idl event

/-- The instructions that are decoded are those whose encoding the data begins with. -/
theorem decode_eq_own :
    decode data = .ok (.own ix) ↔ ix.Encodable ∧ ∃ rest, data = ix.encode ++ rest := by
  constructor
  · intro h
    have hdispatched := dispatched data
    rw [h] at hdispatched
    cases hdispatched with
    | @own kind args rest found read =>
      -- the tag and the arguments are written back as they were read
      obtain ⟨hvalid, hdrop⟩ := kind.format.read_eq_some.mp read
      obtain ⟨-, htag⟩ := ixTags.find_eq_some.mp found
      have htag : kind.discriminator = data.take ixTags.width := htag
      refine ⟨encodable_ofArgs.mpr hvalid, rest, ?_⟩
      rw [encode_ofArgs, List.append_assoc, ← hdrop, htag, List.take_append_drop]
  · rintro ⟨hvalid, rest, rfl⟩
    have hfind : ixTags.find (ix.encode ++ rest) = some ix.kind := by
      rw [encode, List.append_assoc]
      exact ixTags.find_append ix.kind.mem_all
    have hdrop : (ix.encode ++ rest).drop ixTags.width = ix.kind.format.write ix.args ++ rest := by
      rw [encode, List.append_assoc]
      exact List.drop_left' ix.kind.length_discriminator
    simp only [decode, hfind, hdrop, ix.kind.format.read_write hvalid rest, ofArgs_args]

/-- Data is Anchor's if it begins with Anchor's tag. -/
theorem decode_eq_idl {args : Bytes} :
    decode data = .ok (.idl args) ↔ data = idlTag ++ args := by
  constructor
  · intro h
    have hdispatched := dispatched data
    rw [h] at hdispatched
    cases hdispatched with
    | idl unfound tag => rw [← tag, List.take_append_drop]
  · rintro rfl
    have htake : (idlTag ++ args).take 8 = idlTag := List.take_left' rfl
    have hdrop : (idlTag ++ args).drop 8 = args := List.drop_left' rfl
    simp only [decode, find_eq_none_of_tag (.inl rfl) htake, htake, hdrop, if_true]

/-- The stub of event calls answers data that begins with their tag. -/
theorem decode_eq_eventStub :
    decode data = .error (.anchor .eventInstructionStub) ↔ data.take 8 = eventTag := by
  constructor
  · intro h
    have hdispatched := dispatched data
    rw [h] at hdispatched
    cases hdispatched with
    | event unfound tag => exact tag
  · intro htake
    have hidl : data.take 8 ≠ idlTag := by
      rw [htake]
      decide
    simp only [decode, find_eq_none_of_tag (.inr rfl) htake, if_neg hidl, if_pos htake]

/-- Data that begins with no instruction's discriminator and no tag of Anchor's is refused. -/
theorem decode_eq_fallback : decode data = .error (.anchor .instructionFallbackNotFound) ↔
    (∀ kind : IxKind, kind.discriminator ≠ data.take 8) ∧ data.take 8 ≠ idlTag ∧
      data.take 8 ≠ eventTag := by
  rw [← find_eq_none]
  constructor
  · intro h
    have hdispatched := dispatched data
    rw [h] at hdispatched
    cases hdispatched with
    | fallback unfound idl event => exact ⟨unfound, idl, event⟩
  · rintro ⟨hnone, hidl, hevent⟩
    simp only [decode, hnone, if_neg hidl, if_neg hevent]

/-- An instruction whose arguments cannot be read is refused. -/
theorem decode_eq_didNotDeserialize :
    decode data = .error (.anchor .instructionDidNotDeserialize) ↔
      (∃ kind : IxKind, kind.discriminator = data.take 8) ∧
        ∀ (ix : Ix) rest, ix.Encodable → data ≠ ix.encode ++ rest := by
  have hown : (∀ (ix : Ix) rest, ix.Encodable → data ≠ ix.encode ++ rest) ↔
      ∀ ix, decode data ≠ .ok (.own ix) := by
    simp only [Ne, decode_eq_own, not_and, not_exists]
    exact forall_congr' fun _ => forall_comm
  rw [hown]
  constructor
  · intro h
    refine ⟨?_, by simp [h]⟩
    have hdispatched := dispatched data
    rw [h] at hdispatched
    cases hdispatched with
    | @garbled kind found unread => exact ⟨kind, (ixTags.find_eq_some.mp found).2⟩
  · rintro ⟨⟨kind, hkind⟩, hunread⟩
    have hfind : ixTags.find data = some kind := ixTags.find_eq_some.mpr ⟨kind.mem_all, hkind⟩
    cases hread : kind.format.read (data.drop ixTags.width) with
    | none => simp only [decode, hfind, hread]
    | some read =>
      refine absurd ?_ (hunread (ofArgs kind read.1))
      simp only [decode, hfind, hread]

/-- The data of a request is that of an instruction if it begins with the instruction's
encoding, and of one instruction at most. What begins with one of Anchor's own tags goes to
Anchor's handler or is answered by its stub. Everything else is refused: for its first eight
bytes if no instruction has them, else for the arguments. -/
theorem decoded_exactly (data : Bytes) :
    (∀ ix, decode data = .ok (.own ix) ↔ ix.Encodable ∧ ∃ rest, data = ix.encode ++ rest) ∧
    (∀ args, decode data = .ok (.idl args) ↔ data = idlTag ++ args) ∧
    (decode data = .error (.anchor .eventInstructionStub) ↔ data.take 8 = eventTag) ∧
    (decode data = .error (.anchor .instructionFallbackNotFound) ↔
      (∀ kind : IxKind, kind.discriminator ≠ data.take 8) ∧ data.take 8 ≠ idlTag ∧
        data.take 8 ≠ eventTag) ∧
    (decode data = .error (.anchor .instructionDidNotDeserialize) ↔
      (∃ kind : IxKind, kind.discriminator = data.take 8) ∧
        ∀ (ix : Ix) rest, ix.Encodable → data ≠ ix.encode ++ rest) :=
  ⟨fun _ => decode_eq_own, fun _ => decode_eq_idl, decode_eq_eventStub, decode_eq_fallback,
    decode_eq_didNotDeserialize⟩

end Decode

end Ix

/-! ### Accounts -/

section Accounts

variable {curve : Curve} {w : Chain} {past : List (Chain × Option Request)}
variable {address : Pubkey → AddressBytes}

/-- The bytes counted for an entry are those it is written in. -/
theorem entryBytes_eq (e : AdapterEntry) :
    entryBytes e = ((ProgramState.adapterEntry e).bytes address).length := by
  simp only [entryBytes, ProgramState.bytes, ProgramState.kind, ProgramState.fields,
    StateKind.format, addressFormat, List.length_append, StateKind.length_discriminator,
    Format.length_write_pair, Format.length_write_fixed, Format.length_write_u8,
    Format.length_write_string, Format.length_write_bool, Format.length_write_i64]
  omega

theorem Roster.short {entries : List Pubkey} (h : Roster curve w entries) {key : Pubkey}
    {s : ProgramState} (hstored : w.typed? s.kind.programId key = some s) : s.Short := by
  rintro e rfl
  exact (h.entered key e hstored).short

theorem bytes_of_typed {layout : Layout ProgramState} {programId key : Pubkey} {s : ProgramState}
    (h : w.typed? programId key = some s) : w.bytes layout key = layout.state s := by
  obtain ⟨executable, hstored⟩ := World.typed?_eq_some.mp h
  simp [World.bytes, hstored, AccountData.bytes]

/-- In every state of every run each typed account fits into the space it was created with.
A reader who knows only which program owns the account gets back the type and the fields. -/
theorem accounts_readable (run : HostileRun curve Unfounded past w) {s : ProgramState}
    {key : Pubkey} (hstored : w.typed? s.kind.programId key = some s) :
    (w.bytes (borshLayout address) key).length ≤ 8 + s.kind.initSpace ∧
      ∀ padding, (accountFormat s.kind.programId).read
        (w.bytes (borshLayout address) key ++ padding) =
          some (⟨s.kind, s.fields address⟩, padding) := by
  obtain ⟨entries, hroster⟩ := roster_of_run run
  have hshort := hroster.short hstored
  have hbytes : w.bytes (borshLayout address) key = s.bytes address := bytes_of_typed hstored
  rw [hbytes]
  exact ⟨hshort.length_le, hshort.read⟩

end Accounts

/-! ### Headers -/

/-- Every state account names its own adapter. -/
def Attributed (w : Chain) : Prop :=
  ∀ (adapter : Adapter) key (s : adapter.State),
    w.typed? adapter.programId key = some (AnchorState.encode s) →
      (AdapterAccount.header s).adapterProgram = adapter.programId

section Headers

variable {curve : Curve} {layout : Layout ProgramState} {protocol : Callee ProgramState Event}
variable {w w' : Chain} {adapter : Adapter} {call : Call}

theorem Attributed.of_retains (h : Attributed w) (hretains : Retains w w') : Attributed w' :=
  fun adapter key s hstored => h adapter key s ((hretains adapter key).symm.trans hstored)

theorem Attributed.of_adjusts (h : Attributed w) {key : Pubkey} {s : adapter.State}
    (hadjusts : Adjusts adapter key (AnchorState.encode s) w w')
    (hprogram : (AdapterAccount.header s).adapterProgram = adapter.programId) :
    Attributed w' := by
  intro other k t hstored
  rw [hadjusts other k] at hstored
  split_ifs at hstored with hsame
  · obtain ⟨rfl, rfl⟩ := hsame
    obtain rfl := AnchorState.encode_inj (Option.some.inj hstored)
    exact hprogram
  · exact h other k t hstored

/-- Nothing the dispatcher writes is a state account. -/
theorem attributed_permits :
    Permits dispatcherId fun w w' : Chain => Attributed w → Attributed w' where
  refl _ := id
  trans _ _ _ h h' := h' ∘ h
  settled haccounts hevents h :=
    have hframed : Framed Suite (fun _ => False) _ _ := .settled haccounts hevents
    h.of_retains (.of_keeps (.of_framed hframed))
  created hvacant huntyped h :=
    have hframed : Framed Suite (fun _ => False) _ _ := .put_vacant hvacant huntyped
    h.of_retains (.of_keeps (.of_framed hframed))
  written howned h := h.of_retains (.of_stores (stores_put howned))
  emitted _ _ := id

/-- An adapter writes its own address when it creates a state account, and nothing but the
total afterwards. -/
theorem Attributed.of_callee (hprotocol : Lawful Suite protocol) (h : Attributed w)
    (hrun : Adapter.callee curve layout protocol call w = some w') : Attributed w' := by
  cases hfound : Adapter.ofProgramId call.instruction.programId with
  | none =>
    rw [Adapter.callee, hfound] at hrun
    exact h.of_retains (.of_keeps (.of_framed (hprotocol call w w' hrun)))
  | some adapter =>
    have hprogram := Adapter.ofProgramId_eq_some hfound
    obtain ⟨data, ix, hdata, hdecode, heffect⟩ := effect_of_callee hprotocol hprogram hrun
    have hmoved : ∀ {key} {s : adapter.State} {total value event},
        Books adapter key s total value event w w' → Attributed w' := by
      intro key s total value event hbooks
      refine h.of_adjusts (.of_stores hbooks.after) ?_
      rw [AdapterAccount.header_setTotalShares]
      exact h adapter key s hbooks.stored
    cases heffect with
    | initialized named found vacant backs empty after logged =>
      obtain ⟨data', ix', hdata', hdecode', hcompleted⟩ :=
        Adapter.completed_of_callee hprogram hrun
      obtain rfl : data' = data := InstructionData.bytes.inj (hdata'.symm.trans hdata)
      obtain rfl := Except.ok.inj (hdecode'.symm.trans hdecode)
      cases hcompleted with
      | initialized slots guarded seeds vacant' header bump calls owned =>
        have hkeeps : Keeps w.fresh _ := .of_framed (calls.framed hprotocol)
        have hfresh : Attributed w.fresh := h
        refine hfresh.of_adjusts (.of_stores (.of_keeps hkeeps (stores_put owned))) ?_
        rw [header]
        exact adapter.crateId_state
    | deposited named slot backs total_eq books => exact hmoved books
    | withdrawn named slot backs remains pooled held holds measured books => exact hmoved books
    | valued keeps returned logged => exact h.of_retains (.of_keeps keeps)

/-- In every state of every run the state accounts name their adapters. -/
theorem attributed_of_run {past : List (Chain × Option Request)}
    (run : SuiteRun curve layout Untouched past w) : Attributed w := by
  refine run.invariant (fun _ w => Attributed w) ?_ ?_
  · intro w₀ huntouched adapter key s hstored
    simp [huntouched.vacant adapter] at hstored
  · intro past w₁ label w₂ _ ih hstep
    cases hstep with
    | request request hexec =>
      obtain ⟨protocol, hprotocol, hexec⟩ := hexec
      have hpermits := attributed_permits
      refine Request.apply_within (R := fun w w' : Chain => Attributed w → Attributed w')
        (fun _ _ _ _ hrun h => h.of_callee hprotocol (hexec ▸ hrun)) ih
    | outside hframed => exact ih.of_retains (.of_keeps (.of_framed hframed))

end Headers

/-! ### The log -/

/-- The position an event is about. -/
def position? : Event → Option Pubkey
  | .adapterWhitelisted .. | .adapterPaused .. => none
  | .positionOpened _ _ position => some position
  | .deposited position .. | .withdrawn position .. | .valueRead position _ => some position
  | .adapterDeposit position .. | .adapterWithdraw position .. => some position
  | .adapterValue position .. => some position

/-- The lines of the dispatcher's log. -/
def logLines (address : Pubkey → AddressBytes) (w : Chain) : List Bytes :=
  (w.emittedBy dispatcherId).map (Event.bytes address)

/-- The shares a record reports minted for the position with these bytes. -/
def recordedMint (position : AddressBytes) : EventRecord → Nat
  | ⟨.deposited, (p, _, shares)⟩ => if p = position then shares.toNat else 0
  | ⟨.adapterDeposit, (p, _, shares)⟩ => if p = position then shares.toNat else 0
  | _ => 0

/-- The shares a record reports burned for the position with these bytes. -/
def recordedBurn (position : AddressBytes) : EventRecord → Nat
  | ⟨.withdrawn, (p, shares, _)⟩ => if p = position then shares.toNat else 0
  | ⟨.adapterWithdraw, (p, shares, _)⟩ => if p = position then shares.toNat else 0
  | _ => 0

section Log

variable {curve : Curve} {layout : Layout ProgramState} {w : Chain} {label : Option Request}
variable {past : List (Chain × Option Request)} {address : Pubkey → AddressBytes}

/-- The name in a listing went through the check on its length. -/
theorem Reports.short {event : Event} (h : Reports curve w label (some event)) : event.Short := by
  rintro adapterProgram name interfaceVersion rfl
  cases h with
  | listed done ix named =>
    have hcompleted := Request.completed_of_done done
    rw [ix] at hcompleted
    generalize Request.apply _ _ _ = w' at hcompleted
    cases hcompleted with
    | whitelistAdapter loaded passed created short => exact short

theorem shortLog_of_run {start : Chain → Prop} (run : HostileRun curve start past w)
    (hstart : ∀ w, start w → w.emittedBy dispatcherId = []) :
    ∀ event ∈ w.emittedBy dispatcherId, event.Short := by
  refine run.invariant (fun _ w => ∀ event ∈ w.emittedBy dispatcherId, event.Short) ?_ ?_
  · intro w₀ h event hevent
    simp [hstart w₀ h] at hevent
  · intro past w₁ label w₂ _ ih hstep event hevent
    obtain ⟨event', hreports, -, hemitted⟩ := announced_of_step hstep
    rw [hemitted, List.mem_append, Option.mem_toList] at hevent
    rcases hevent with hnew | hold
    · obtain rfl : event' = some event := hnew
      exact hreports.short
    · exact ih event hold

/-- Where no other position has the bytes, a record reports what its event does. -/
theorem recorded_record {position : Pubkey} {event : Event}
    (h : ∀ p, position? event = some p → address p = address position → p = position) :
    recordedMint (address position) (event.record address) = sharesMinted position event ∧
      recordedBurn (address position) (event.record address) = sharesBurned position event := by
  have hsame : ∀ p, position? event = some p → (address p = address position ↔ p = position) :=
    fun p hp => ⟨h p hp, congrArg address⟩
  cases event with
  | deposited p amount shares | withdrawn p shares amount | adapterDeposit p amount shares
  | adapterWithdraw p shares amount =>
    simp [recordedMint, recordedBurn, Event.record, Event.kind, Event.fields, sharesMinted,
      sharesBurned, hsame p rfl]
  | _ => exact ⟨rfl, rfl⟩

/-- What a reader counts in the log of a run is what the events say. -/
theorem counted_of_run {start : Chain → Prop} {position : Pubkey}
    (run : HostileRun curve start past w) (hstart : ∀ w, start w → w.emittedBy dispatcherId = [])
    (hapart : ∀ event ∈ w.emittedBy dispatcherId, ∀ p, position? event = some p →
      address p = address position → p = position) :
    ((readLog (logLines address w)).map (recordedMint (address position))).sum =
        minted position (w.emittedBy dispatcherId) ∧
      ((readLog (logLines address w)).map (recordedBurn (address position))).sum =
        burned position (w.emittedBy dispatcherId) := by
  rw [logLines, readLog_bytes (shortLog_of_run run hstart), List.map_map, List.map_map]
  have hmint := List.map_congr_left fun event hevent => (recorded_record (hapart event hevent)).1
  have hburn := List.map_congr_left fun event hevent => (recorded_record (hapart event hevent)).2
  exact ⟨congrArg List.sum hmint, congrArg List.sum hburn⟩

/-- A reader who knows neither the adapter nor what comes after the header finds in every
adapter's state account an open position of this very adapter, and the shares that the
dispatcher's log, read line by line, reports minted for the position and not burned, where the
adapters are called by the dispatcher only. Of a MarginFi position this holds as long as no
withdrawal was completed that asked for more than was booked. -/
theorem header_matches_log
    (run : SuiteRun curve layout (fun w => Unused w ∧ Untouched w) past w) {adapter : Adapter}
    {key : Pubkey} {s : adapter.State} (hstored : w.state? adapter.State key = some s)
    (hcareful : adapter = .marginfiUsdc → ∀ step ∈ past,
      ¬ Overdraws curve adapter (AdapterAccount.header s).position step)
    (hapart : ∀ event ∈ w.emittedBy dispatcherId, ∀ p, position? event = some p →
      address p = address (AdapterAccount.header s).position →
        p = (AdapterAccount.header s).position) (padding : Bytes) :
    ∃ position createdAt totalShares rest,
      headerFormat.read ((w.bytes (borshLayout address) key ++ padding).drop 8) =
        some ((address position, address adapter.programId, createdAt, totalShares), rest) ∧
      OpenIn adapter position w ∧
      ((readLog (logLines address w)).map (recordedMint (address position))).sum =
        ((readLog (logLines address w)).map (recordedBurn (address position))).sum +
          totalShares.toNat := by
  have huntouched : SuiteRun curve layout Untouched past w := run.mono_start fun _ => And.right
  have htyped := state?_iff_typed?.mp hstored
  have hbytes : w.bytes (borshLayout address) key =
    (AnchorState.encode s : ProgramState).bytes address := bytes_of_typed htyped
  obtain ⟨rest, hread⟩ := @read_header address adapter s padding
  rw [← hbytes, AdapterStateHeader.fields, attributed_of_run huntouched adapter key s htyped]
    at hread
  refine ⟨_, _, _, rest, hread, (paired_of_run run adapter _).mpr ⟨key, s, hstored, rfl⟩, ?_⟩
  -- what the reader counts is what the ledger of the position says
  obtain ⟨hmint, hburn⟩ := counted_of_run (run.mono fun _ _ _ => hostile_of_step)
    (fun _ h => h.2.silent _ suite_dispatcherId) hapart
  obtain ⟨hreported, hbooked⟩ := Reported.of_stored huntouched hstored
  have hbalanced := hreported.balanced hcareful
  rw [← hreported.agree] at hbalanced
  simp only [ShareLedger.Balanced, ledger, hbooked] at hbalanced
  rw [hmint, hburn]
  omega

end Log

namespace Sample

/-- Addresses in bytes: a derived one by its bump. -/
def addressBytes : Pubkey → AddressBytes
  | .key n => .ofFn fun i => UInt8.ofNat (n / 256 ^ i.val)
  | .pda _ _ bump => .replicate 32 bump

def savingsEntry : AdapterEntry where
  adapterProgram := MarginfiUsdc.programId
  interfaceVersion := 1
  name := "x"
  isActive := true
  addedAt := 0
  bump := 255

/-- The entry of the lender's adapter, with its one-letter name, leaves 31 bytes of its space. -/
theorem accounts_readable_funded :
    (fundedSavings.bytes (borshLayout addressBytes) (entryKey MarginfiUsdc.programId)).length =
      8 + StateKind.adapterEntry.initSpace - 31 ∧
    (accountFormat dispatcherId).read
      (fundedSavings.bytes (borshLayout addressBytes) (entryKey MarginfiUsdc.programId) ++
        List.replicate 31 0) =
      some (⟨.adapterEntry, (ProgramState.adapterEntry savingsEntry).fields addressBytes⟩,
        List.replicate 31 0) := by
  have hstored : fundedSavings.typed? dispatcherId (entryKey MarginfiUsdc.programId) =
      some (.adapterEntry savingsEntry) := by decide +kernel
  have hrun : HostileRun curve Unfounded fundedPast fundedSavings :=
    (fundedSavings_run.mono fun _ _ _ => hostile_of_step).mono_start fun _ h => h.1.unfounded
  exact ⟨by decide +kernel, (@accounts_readable curve fundedSavings fundedPast addressBytes hrun
    (.adapterEntry savingsEntry) (entryKey MarginfiUsdc.programId) hstored).2 _⟩

/-- The saver's 10 shares. -/
theorem header_matches_log_funded :
    ∃ position createdAt totalShares rest,
      headerFormat.read ((fundedSavings.bytes (borshLayout addressBytes)
        (stateKey MarginfiUsdc.programId) ++ [0]).drop 8) =
          some ((addressBytes position, addressBytes MarginfiUsdc.programId, createdAt,
            totalShares), rest) ∧
      OpenIn .marginfiUsdc position fundedSavings ∧
      ((readLog (logLines addressBytes fundedSavings)).map
        (recordedMint (addressBytes position))).sum =
          ((readLog (logLines addressBytes fundedSavings)).map
            (recordedBurn (addressBytes position))).sum + totalShares.toNat := by
  have hstored : fundedSavings.state? MarginfiUsdc.AdapterState (stateKey MarginfiUsdc.programId) =
      some (savingsState 10) := by decide +kernel
  have hlog : ∀ event ∈ fundedSavings.emittedBy dispatcherId, ∀ p, position? event = some p →
      p = positionKey MarginfiUsdc.programId := by decide +kernel
  refine @header_matches_log curve layout fundedSavings _ addressBytes fundedSavings_run
    .marginfiUsdc _ (savingsState 10) hstored (fun _ => ?_) (fun event hevent p hp _ => ?_) [0]
  · -- no step of the run withdraws
    unfold fundedPast
    simp only [List.forall_mem_cons, List.not_mem_nil, false_imp_iff, implies_true, and_true]
    exact ⟨not_overdraws_of_ix fun _ h => (nomatch h), not_overdraws_of_ix fun _ h => (nomatch h),
      not_overdraws_of_ix fun _ h => (nomatch h), not_overdraws_of_ix fun _ h => (nomatch h)⟩
  · exact hlog event hevent p hp

end Sample

end YieldAdapter.Dispatcher

import YieldAdapter.Adapter.Effects
import YieldAdapter.Adapter.Pricing
import YieldAdapter.Dispatcher.Run

/-!
# Requests over the five adapters

Runs in which the dispatcher's calls to the five adapters run the adapters' own code,
over protocols that may do anything but touch this repository's accounts and call the
adapters back. A step of such a run opens one state account, moves one ledger, or leaves
all of them alone; what it moved by is what both the adapter and the dispatcher announced.
-/

set_option autoImplicit false

namespace YieldAdapter.Dispatcher

open Solana

/-- The programs called are the adapters, and beyond them a protocol that leaves this
repository's accounts to their programs. The protocol does not call an adapter back: within a
request of the dispatcher's the adapters run where the dispatcher calls them, and nowhere
else. -/
def OverAdapters (curve : Curve) (layout : Layout ProgramState)
    (exec : Callee ProgramState Event) : Prop :=
  ∃ protocol, Lawful Suite protocol ∧ exec = Adapter.callee curve layout protocol

/-- Runs over the adapters, with whatever else happens on the chain in between. -/
abbrev SuiteRun (curve : Curve) (layout : Layout ProgramState) (start : Chain → Prop) :
    List (Chain × Option Request) → Chain → Prop :=
  Run start (Step curve (OverAdapters curve layout) Suite)

/-- The adapters have no state yet, and the programs of this repository have said nothing. -/
structure Untouched (w : Chain) : Prop where
  vacant : ∀ (adapter : Adapter) (key : Pubkey), w.typed? adapter.programId key = none
  silent : ∀ program, Suite program → w.emittedBy program = []

/-! ### What the events report -/

/-- The shares an event reports minted for a position. -/
def sharesMinted (position : Pubkey) : Event → Nat
  | .deposited p _ shares => if p = position then shares.toNat else 0
  | .adapterDeposit p _ shares => if p = position then shares.toNat else 0
  | _ => 0

/-- The shares an event reports burned for a position. -/
def sharesBurned (position : Pubkey) : Event → Nat
  | .withdrawn p shares _ => if p = position then shares.toNat else 0
  | .adapterWithdraw p shares _ => if p = position then shares.toNat else 0
  | _ => 0

/-- The event reports nothing about the ledger of a position. -/
def Unrelated (position : Pubkey) (event : Event) : Prop :=
  sharesMinted position event = 0 ∧ sharesBurned position event = 0

/-! ### What one step does -/

/-- Of the adapters' state accounts, only that of `adapter` at `key` may differ, and
it now holds `s`. -/
def Adjusts (adapter : Adapter) (key : Pubkey) (s : ProgramState) (w w' : Chain) : Prop :=
  ∀ (other : Adapter) (k : Pubkey), w'.typed? other.programId k =
    if other = adapter ∧ k = key then some s else w.typed? other.programId k

/-- The adapters' state accounts are the same. -/
def Retains (w w' : Chain) : Prop :=
  ∀ (adapter : Adapter) (k : Pubkey), w'.typed? adapter.programId k = w.typed? adapter.programId k

/-- The instructions that move an owner's funds name the owner's position fourth. -/
def Request.Names (request : Request) (position : Pubkey) : Prop :=
  request.ix.movesFunds = true ∧ request.ctx.accounts[3]?.map (·.key) = some position

/-- A completed request named the position that the state `s` of `adapter` backs. -/
structure Serves (curve : Curve) (w : Chain) (adapter : Adapter) (s : adapter.State)
    (position : Pubkey) (request : Request) : Prop where
  derived : ∃ owner bump, position = positionAddress owner adapter.programId bump
  backs : (AdapterAccount.header s).position = position
  named : request.Names position
  done : request.Done curve w

/-- What one step of a run did to the adapters' ledgers. -/
inductive Served (curve : Curve) (w w' : Chain) : Option Request → Prop
  | quiet {label : Option Request} {log : List (Pubkey × Event)}
      (retains : Retains w w') (logged : Logged log w w')
      (unrelated : ∀ e ∈ log, ∀ (adapter : Adapter) owner bump,
        Unrelated (positionAddress owner adapter.programId bump) e.2)
      (idle : ∀ request (adapter : Adapter) owner bump, label = some request →
        request.Done curve w →
          ¬ request.Names (positionAddress owner adapter.programId bump)) :
      Served curve w w' label
  | opened {request : Request} {adapter : Adapter} {s : adapter.State} {owner position key : Pubkey}
      (ix : request.ix = .openPosition)
      (serves : Serves curve w adapter s position request)
      (found : findProgramAddress curve adapter.programId
        (adapterStateSeeds adapter.programId position) = some (key, AdapterAccount.bump s))
      (vacant : w.typed? adapter.programId key = none)
      (empty : (AdapterAccount.header s).totalShares = 0)
      (adjusts : Adjusts adapter key (AnchorState.encode s) w w')
      (logged : Logged [(dispatcherId, .positionOpened owner adapter.programId position)] w w') :
      Served curve w w' (some request)
  | deposited {request : Request} {adapter : Adapter} {s : adapter.State} {position key : Pubkey}
      {amount shares total : UInt64}
      (ix : request.ix = .deposit amount)
      (serves : Serves curve w adapter s position request)
      (stored : w.typed? adapter.programId key = some (AnchorState.encode s))
      (total_eq : total.toNat = (AdapterAccount.header s).totalShares.toNat + shares.toNat)
      (adjusts : Adjusts adapter key
        (AnchorState.encode (AdapterAccount.setTotalShares s total)) w w')
      (logged : Logged [(dispatcherId, .deposited position amount shares),
        (adapter.programId, .adapterDeposit position amount shares)] w w') :
      Served curve w w' (some request)
  | withdrawn {request : Request} {adapter : Adapter} {s : adapter.State} {position key : Pubkey}
      {shares amountOut total : UInt64}
      (ix : request.ix = .withdraw shares)
      (serves : Serves curve w adapter s position request)
      (stored : w.typed? adapter.programId key = some (AnchorState.encode s))
      (remains : adapter.remaining (AdapterAccount.header s).totalShares shares = some total)
      (adjusts : Adjusts adapter key
        (AnchorState.encode (AdapterAccount.setTotalShares s total)) w w')
      (logged : Logged [(dispatcherId, .withdrawn position shares amountOut),
        (adapter.programId, .adapterWithdraw position shares amountOut)] w w') :
      Served curve w w' (some request)

section Frames

variable {w w' w'' : Chain} {adapter : Adapter} {key : Pubkey} {s : ProgramState}

theorem Retains.of_keeps (h : Keeps w w') : Retains w w' := fun adapter => h _ adapter.suite

theorem Retains.trans (h : Retains w w') (h' : Retains w' w'') : Retains w w'' :=
  fun adapter k => (h' adapter k).trans (h adapter k)

/-- What the dispatcher stores is not an adapter's state. -/
theorem Retains.of_stores (h : Stores dispatcherId key s w w') : Retains w w' := by
  intro adapter k
  rw [h _ adapter.suite k, if_neg fun hsame => adapter.programId_ne_dispatcherId hsame.1]

theorem Adjusts.of_stores (h : Stores adapter.programId key s w w') :
    Adjusts adapter key s w w' := by
  intro other k
  rw [h _ other.suite k]
  by_cases hsame : other = adapter
  · simp [hsame]
  · have hprogram : other.programId ≠ adapter.programId := fun h => hsame (Adapter.programId_inj h)
    simp [hsame, hprogram]

theorem Adjusts.of_retains (h : Retains w w') (h' : Adjusts adapter key s w' w'') :
    Adjusts adapter key s w w'' := by
  intro other k
  rw [h' other k, h other k]

theorem Adjusts.trans_retains (h : Adjusts adapter key s w w') (h' : Retains w' w'') :
    Adjusts adapter key s w w'' := by
  intro other k
  rw [h' other k, h other k]

end Frames

section Routed

variable {curve : Curve} {layout : Layout ProgramState} {protocol : Callee ProgramState Event}
variable {ctx : Context} {instruction : Instruction} {signerSeeds : List (Seeds × UInt8)}
variable {onFailure : Error} {w w' : Chain}

/-- A call to a program that is none of the adapters. -/
theorem framed_of_other (hprotocol : Lawful Suite protocol)
    (hother : ∀ adapter : Adapter, instruction.programId ≠ adapter.programId)
    (h : invokeSigned curve (Adapter.callee curve layout protocol) ctx instruction signerSeeds
      onFailure w = (.ok (), w')) :
    Framed Suite (Call.Authorizes ⟨ctx.sysvar, ctx.stack, instruction⟩) w w' := by
  -- the call is the protocol's own
  refine invokeSigned_within (fun w₁ w₂ hrun => ?_) h
  rw [Adapter.callee_of_other hother] at hrun
  exact hprotocol _ _ _ hrun

/-- A call to an adapter has the adapter's effect. -/
theorem effect_of_routed (hprotocol : Lawful Suite protocol) {adapter : Adapter} {data : Bytes}
    {ix : AdapterInstruction} (hprogram : instruction.programId = adapter.programId)
    (hdata : instruction.data = .bytes data) (hdecode : AdapterInstruction.decode data = .ok ix)
    (h : invokeSigned curve (Adapter.callee curve layout protocol) ctx instruction signerSeeds
      onFailure w = (.ok (), w')) :
    Effect curve adapter ⟨ctx.sysvar, ctx.stack, instruction⟩ w w' ix := by
  obtain ⟨_, w₁, -, -, hrun, rfl⟩ := invokeSigned_ok h
  obtain ⟨data', ix', hdata', hdecode', heffect⟩ := effect_of_callee hprotocol hprogram hrun
  obtain rfl : data' = data := InstructionData.bytes.inj (hdata'.symm.trans hdata)
  obtain rfl : ix' = ix := Except.ok.inj (hdecode'.symm.trans hdecode)
  -- issuing and returning touch none of what the effect is about
  cases heffect with
  | initialized named found vacant backs empty after logged =>
    exact .initialized named found vacant backs empty after logged
  | deposited named slot backs total_eq books =>
    exact .deposited named slot backs total_eq
      ⟨books.stored, books.after, books.returned, books.logged⟩
  | withdrawn named slot backs remains pooled held holds measured books =>
    exact .withdrawn named slot backs remains pooled held holds measured
      ⟨books.stored, books.after, books.returned, books.logged⟩
  | valued keeps returned logged => exact .valued keeps returned logged

/-- What the dispatcher announces and writes concerns no adapter's state. -/
theorem retains_written {τ : Type} [AnchorState ProgramState τ] {key : Pubkey} {state : τ}
    (hprogram : ctx.programId = dispatcherId) (howned : w.ownedBy ctx.programId key = true) :
    Retains w (written ctx key state w) := by
  unfold written
  rw [hprogram] at howned ⊢
  exact .of_stores (stores_put howned)

theorem logged_announced {event : Event} (hprogram : ctx.programId = dispatcherId) :
    Logged [(dispatcherId, event)] w (announced ctx event w) := by
  refine logged_of_events ?_
  rw [← hprogram]
  rfl

theorem logged_written {τ : Type} [AnchorState ProgramState τ] {key : Pubkey} {state : τ} :
    Logged [] w (written ctx key state w) := fun _ _ => rfl

/-- An event and a write of the dispatcher's end an instruction. -/
theorem closing {τ : Type} [AnchorState ProgramState τ] {key : Pubkey} {state : τ} {event : Event}
    (hprogram : ctx.programId = dispatcherId) (howned : w.ownedBy ctx.programId key = true) :
    Retains w (written ctx key state (announced ctx event w)) ∧
      Logged [(dispatcherId, event)] w (written ctx key state (announced ctx event w)) := by
  -- the event first, then the write, which logs nothing
  constructor
  · exact retains_written (w := announced ctx event w) hprogram howned
  · exact (logged_announced hprogram).trans (logged_written (w := announced ctx event w))

end Routed

section Served

variable {curve : Curve} {layout : Layout ProgramState} {protocol : Callee ProgramState Event}
variable {w w' : Chain} {request : Request}

/-- A stored position of the dispatcher is the address of its owner and adapter. -/
private theorem position_of_seeds {ctx : Context} {owner adapterProgram key : Pubkey} {bump : UInt8}
    (hprogram : ctx.programId = dispatcherId)
    (h : createProgramAddress curve ctx.programId (positionSeeds owner adapterProgram) bump =
      some key) : key = positionAddress owner adapterProgram bump := by
  rw [hprogram] at h
  exact (createProgramAddress_eq_some.mp h).2

/-- Positions in other programs are no adapter's business. -/
private theorem unrelated_of_other {owner adapterProgram : Pubkey} {bump : UInt8}
    (hother : ∀ adapter : Adapter, adapterProgram ≠ adapter.programId) (amount shares : UInt64)
    (adapter : Adapter) (owner' : Pubkey) (bump' : UInt8) :
    Unrelated (positionAddress owner' adapter.programId bump')
        (.deposited (positionAddress owner adapterProgram bump) amount shares) ∧
      Unrelated (positionAddress owner' adapter.programId bump')
        (.withdrawn (positionAddress owner adapterProgram bump) shares amount) := by
  have hne : positionAddress owner adapterProgram bump ≠
      positionAddress owner' adapter.programId bump' :=
    fun h => hother adapter (positionAddress_inj h).2.1
  simp [Unrelated, sharesMinted, sharesBurned, hne]

/-- A request that moves nothing of the adapters' and announces nothing about them. -/
private theorem served_quiet {log : List (Pubkey × Event)} (retains : Retains w w')
    (logged : Logged log w w')
    (unrelated : ∀ e ∈ log, ∀ (adapter : Adapter) owner bump,
      Unrelated (positionAddress owner adapter.programId bump) e.2)
    (idle : request.ix.movesFunds = false ∨ ∀ (adapter : Adapter) owner bump,
      ¬ request.Names (positionAddress owner adapter.programId bump)) :
    Served curve w w' (some request) := by
  refine .quiet retains logged unrelated fun other adapter owner bump hlabel _ hnames => ?_
  obtain rfl := Option.some.inj hlabel
  rcases idle with hmoves | hidle
  · exact absurd hnames.1 (by simp [hmoves])
  · exact hidle adapter owner bump hnames

/-- A request that names a position in another program names none in an adapter. -/
private theorem not_names_of_other {owner adapterProgram : Pubkey} {bump : UInt8}
    (hother : ∀ adapter : Adapter, adapterProgram ≠ adapter.programId)
    (hnamed : request.ctx.accounts[3]?.map (·.key) =
      some (positionAddress owner adapterProgram bump))
    (adapter : Adapter) (owner' : Pubkey) (bump' : UInt8) :
    ¬ request.Names (positionAddress owner' adapter.programId bump') := by
  intro hnames
  have hsame := Option.some.inj (hnamed.symm.trans hnames.2)
  exact hother adapter (positionAddress_inj hsame).2.1

/-- A protocol's own step moves no ledger. -/
private theorem framed_step {signed : Pubkey → Prop} (h : Framed Suite signed w w') :
    Retains w w' ∧ Logged [] w w' :=
  ⟨.of_keeps (.of_framed h), .of_framed h⟩

theorem served_of_openPosition (hprotocol : Lawful Suite protocol)
    (hdone : request.Done curve w) (hix : request.ix = .openPosition)
    (h : Completed curve (Adapter.callee curve layout protocol) request.ctx w .openPosition w') :
    Served curve w w' (some request) := by
  have hprogram := request.program
  cases h with
  | @openPosition accounts bump createdAt w₁ w₂ w₃ loaded gate version created pooled routed
      owned =>
    obtain ⟨found, -, -⟩ := initState_ok created
    have hposition := position_of_seeds hprogram (findProgramAddress_create found)
    have hnamed : request.ctx.accounts[3]?.map (·.key) = some accounts.position.key := by
      obtain ⟨_, _, hslots⟩ := loaded.slots
      rw [hslots]
      rfl
    -- both accounts are created without touching any state account
    have hcreated : Framed Suite (fun _ => False) w w₁ := initState_leaves.of_ok created
    have hpooled : Framed Suite (fun _ => False) w₁ w₂ := initAssociatedToken_leaves.of_ok pooled
    obtain ⟨hretains, hlogged⟩ := framed_step (hcreated.trans hpooled)
    obtain ⟨hretains', hlogged'⟩ := @closing _ w₃ _ _ accounts.position.key
      ({ owner := accounts.owner.key
         adapterProgram := accounts.adapterProgram.key
         usdcPool := accounts.positionUsdcPool.key
         usdcMint := accounts.usdcMint.key
         createdAt, bump } : Position)
      (.positionOpened accounts.owner.key accounts.adapterProgram.key accounts.position.key)
      hprogram owned
    -- a whitelisted program need not be one of the five adapters
    by_cases hother : ∀ adapter : Adapter, accounts.adapterProgram.key ≠ adapter.programId
    · obtain ⟨hrouted, hquiet⟩ := framed_step (framed_of_other hprotocol hother routed)
      refine served_quiet ((hretains.trans hrouted).trans hretains')
        ((hlogged.trans hquiet).trans hlogged') (fun e he adapter owner bump => ?_)
        (.inr (not_names_of_other hother (hposition ▸ hnamed)))
      obtain rfl := List.mem_singleton.mp he
      exact ⟨rfl, rfl⟩
    obtain ⟨adapter, hadapter⟩ := not_forall_not.mp hother
    have heffect := effect_of_routed hprotocol hadapter rfl (decode_encodeInitialize (by simp))
      routed
    rw [hadapter] at hposition hretains' hlogged' ⊢
    cases heffect with
    | initialized named found' vacant backs empty after logged =>
      obtain rfl := Option.some.inj named
      have hvacant := (hretains adapter _).symm.trans (World.typed?_of_vacant vacant)
      exact .opened hix ⟨⟨_, _, hposition⟩, backs, ⟨by rw [hix]; rfl, hnamed⟩, hdone⟩ found' hvacant
        empty (.trans_retains (.of_retains hretains (.of_stores after)) hretains')
        ((hlogged.trans logged).trans hlogged')

theorem served_of_deposit {amount : UInt64} (hprotocol : Lawful Suite protocol)
    (hdone : request.Done curve w) (hix : request.ix = .deposit amount)
    (h : Completed curve (Adapter.callee curve layout protocol) request.ctx w (.deposit amount)
      w') :
    Served curve w w' (some request) := by
  have hprogram := request.program
  cases h with
  | @deposit _ shares accounts w₁ w₂ accepted positive version funded routed returned owned =>
    have hposition := position_of_seeds hprogram accepted.seeds
    have hnamed : request.ctx.accounts[3]?.map (·.key) = some accounts.position.key := by
      obtain ⟨_, hslots⟩ := accepted.slots
      rw [hslots]
      rfl
    -- the owner's transfer into the pool is the Token program's
    have htoken : ∀ adapter : Adapter, tokenProgramId ≠ adapter.programId :=
      fun adapter => adapter.programId_ne_tokenProgramId.symm
    obtain ⟨hretains, hlogged⟩ := framed_step (framed_of_other hprotocol htoken funded)
    obtain ⟨hretains', hlogged'⟩ := @closing _ w₂ _ _ accounts.position.key accounts.position.data
      (.deposited accounts.position.key amount shares) hprogram owned
    by_cases hother : ∀ adapter : Adapter, accounts.adapterProgram.key ≠ adapter.programId
    · obtain ⟨hrouted, hquiet⟩ := framed_step (framed_of_other hprotocol hother routed)
      refine served_quiet ((hretains.trans hrouted).trans hretains')
        ((hlogged.trans hquiet).trans hlogged') (fun e he adapter owner bump => ?_)
        (.inr (not_names_of_other hother (hposition ▸ hnamed)))
      obtain rfl := List.mem_singleton.mp he
      rw [hposition]
      exact (unrelated_of_other hother amount shares adapter owner bump).1
    obtain ⟨adapter, hadapter⟩ := not_forall_not.mp hother
    have heffect := effect_of_routed hprotocol hadapter rfl (decode_encodeDeposit amount (by simp))
      routed
    rw [hadapter] at hposition returned
    cases heffect with
    | deposited named slot backs total_eq books =>
      obtain rfl := Option.some.inj named
      -- the shares read back are the ones the adapter announced
      obtain rfl := leBytes64_inj (Prod.mk.inj (books.returned.symm.trans returned)).2
      have hstored := (hretains adapter _).symm.trans books.stored
      exact .deposited hix ⟨⟨_, _, hposition⟩, backs, ⟨by rw [hix]; rfl, hnamed⟩, hdone⟩ hstored
        total_eq (.trans_retains (.of_retains hretains (.of_stores books.after)) hretains')
        ((hlogged.trans books.logged).trans hlogged')

theorem served_of_withdraw {shares : UInt64} (hprotocol : Lawful Suite protocol)
    (hdone : request.Done curve w) (hix : request.ix = .withdraw shares)
    (h : Completed curve (Adapter.callee curve layout protocol) request.ctx w (.withdraw shares)
      w') :
    Served curve w w' (some request) := by
  have hprogram := request.program
  cases h with
  | @withdraw _ amountOut accounts w₁ w₂ accepted positive version routed returned paid owned =>
    have hposition := position_of_seeds hprogram accepted.seeds
    have hnamed : request.ctx.accounts[3]?.map (·.key) = some accounts.position.key := by
      obtain ⟨_, hslots⟩ := accepted.slots
      rw [hslots]
      rfl
    have hpaid : Retains w₁ w₂ ∧ Logged [] w₁ w₂ := by
      unfold payOut at paid
      split_ifs at paid
      · exact framed_step (framed_of_other hprotocol
          (fun adapter => adapter.programId_ne_tokenProgramId.symm) paid)
      · obtain ⟨-, rfl⟩ := Exec.pure_ok.mp paid
        exact ⟨fun _ _ => rfl, fun _ _ => rfl⟩
    obtain ⟨hretains', hlogged'⟩ := @closing _ w₂ _ _ accounts.position.key accounts.position.data
      (.withdrawn accounts.position.key shares amountOut) hprogram owned
    have hretains := hpaid.1.trans hretains'
    have hlogged := hpaid.2.trans hlogged'
    by_cases hother : ∀ adapter : Adapter, accounts.adapterProgram.key ≠ adapter.programId
    · obtain ⟨hrouted, hquiet⟩ := framed_step (framed_of_other hprotocol hother routed)
      refine served_quiet (hrouted.trans hretains) (hquiet.trans hlogged)
        (fun e he adapter owner bump => ?_)
        (.inr (not_names_of_other hother (hposition ▸ hnamed)))
      obtain rfl := List.mem_singleton.mp he
      rw [hposition]
      exact (unrelated_of_other hother amountOut shares adapter owner bump).2
    obtain ⟨adapter, hadapter⟩ := not_forall_not.mp hother
    have heffect := effect_of_routed hprotocol hadapter rfl
      (decode_encodeWithdraw shares (by simp)) routed
    rw [hadapter] at hposition returned
    cases heffect with
    | withdrawn named slot backs remains pooled held holds measured books =>
      obtain rfl := Option.some.inj named
      obtain rfl := leBytes64_inj (Prod.mk.inj (books.returned.symm.trans returned)).2
      exact .withdrawn hix ⟨⟨_, _, hposition⟩, backs, ⟨by rw [hix]; rfl, hnamed⟩, hdone⟩
        books.stored remains (.trans_retains (.of_stores books.after) hretains)
        (books.logged.trans hlogged)

theorem served_of_currentValue (hprotocol : Lawful Suite protocol)
    (hix : request.ix = .currentValue)
    (h : Completed curve (Adapter.callee curve layout protocol) request.ctx w .currentValue w') :
    Served curve w w' (some request) := by
  have hprogram := request.program
  have hidle : request.ix.movesFunds = false := by rw [hix]; rfl
  cases h with
  | @currentValue value accounts w₁ accepted version routed returned =>
    have hannounced : Logged [(dispatcherId, .valueRead accounts.position.key value)] w₁
        (announced request.ctx (.valueRead accounts.position.key value)
          { w₁ with returnData := (request.ctx.programId, leBytes64 value) }) :=
      @logged_announced _ { w₁ with returnData := (request.ctx.programId, leBytes64 value) } _
        hprogram
    have hretains : Retains w₁ (announced request.ctx (.valueRead accounts.position.key value)
        { w₁ with returnData := (request.ctx.programId, leBytes64 value) }) := fun _ _ => rfl
    by_cases hother : ∀ adapter : Adapter, accounts.adapterProgram.key ≠ adapter.programId
    · obtain ⟨hrouted, hquiet⟩ := framed_step (framed_of_other hprotocol hother routed)
      refine served_quiet (hrouted.trans hretains) (hquiet.trans hannounced)
        (fun e he adapter owner bump => ?_) (.inl hidle)
      obtain rfl := List.mem_singleton.mp he
      exact ⟨rfl, rfl⟩
    obtain ⟨adapter, hadapter⟩ := not_forall_not.mp hother
    have heffect := effect_of_routed hprotocol hadapter rfl
      (decode_encodeCurrentValue (by simp)) routed
    cases heffect with
    | valued keeps _ logged =>
      refine served_quiet ((Retains.of_keeps keeps).trans hretains) (logged.trans hannounced)
        (fun e he adapter owner bump => ?_) (.inl hidle)
      -- neither the adapter's event nor the dispatcher's is about shares
      simp only [List.cons_append, List.nil_append, List.mem_cons, List.not_mem_nil, or_false] at he
      rcases he with rfl | rfl
      · exact ⟨rfl, rfl⟩
      · exact ⟨rfl, rfl⟩

/-- Calls on record are none of a step's doing. -/
private theorem Served.of_fresh (h : Served curve w.fresh w' (some request)) :
    Served curve w w' (some request) := by
  cases h with
  | quiet retains logged unrelated idle => exact .quiet retains logged unrelated idle
  | opened ix serves found vacant empty adjusts logged =>
    exact .opened ix ⟨serves.derived, serves.backs, serves.named, serves.done⟩ found vacant empty
      adjusts logged
  | deposited ix serves stored total_eq adjusts logged =>
    exact .deposited ix ⟨serves.derived, serves.backs, serves.named, serves.done⟩ stored total_eq
      adjusts logged
  | withdrawn ix serves stored remains adjusts logged =>
    exact .withdrawn ix ⟨serves.derived, serves.backs, serves.named, serves.done⟩ stored remains
      adjusts logged

/-- Every request over the adapters serves at most one position of one adapter. -/
theorem served_of_request (hexec : OverAdapters curve layout request.exec) :
    Served curve w (request.apply curve w) (some request) := by
  obtain ⟨protocol, hprotocol, hexec⟩ := hexec
  have hprogram := request.program
  rcases request.apply_cases curve w with ⟨⟨e, w₁, hfailed⟩, hunchanged⟩ | ⟨hrun, hcompleted⟩
  · rw [hunchanged]
    refine @Served.quiet _ _ _ _ [] (fun _ _ => rfl) (fun _ _ => rfl) (by simp) ?_
    intro other adapter owner bump hlabel hdone
    obtain rfl := Option.some.inj hlabel
    simp [Request.Done, hfailed] at hdone
  -- a request that completed: the first three instructions call no adapter
  have hdone : request.Done curve w := congrArg Prod.fst hrun
  rw [hexec] at hcompleted
  refine Served.of_fresh ?_
  generalize request.apply curve w = w' at hcompleted ⊢
  generalize hix : request.ix = ix at hcompleted
  cases ix with
  | initializeRegistry =>
    cases hcompleted with
    | initializeRegistry loaded created owned =>
      have hcreated : Framed Suite (fun _ => False) w.fresh _ := initState_leaves.of_ok created
      obtain ⟨hretains, hlogged⟩ := framed_step hcreated
      exact served_quiet (hretains.trans (retains_written hprogram owned))
        (hlogged.trans logged_written) (by simp) (.inl (by rw [hix]; rfl))
  | whitelistAdapter name interfaceVersion =>
    cases hcompleted with
    | @whitelistAdapter _ _ _ adapterCount _ accounts w₁ loaded passed created short version room
        counted ownedRegistry ownedEntry =>
      have hcreated : Framed Suite (fun _ => False) w.fresh _ := initState_leaves.of_ok created
      obtain ⟨hretains, hlogged⟩ := framed_step hcreated
      obtain ⟨hretains', hlogged'⟩ := @closing _ w₁ Registry _ _
        { accounts.registry.data with adapterCount }
        (.adapterWhitelisted accounts.adapterProgram.key name interfaceVersion)
        hprogram ownedRegistry
      refine served_quiet ((hretains.trans hretains').trans (retains_written hprogram ownedEntry))
        ((hlogged.trans hlogged').trans logged_written) (fun e he adapter owner bump => ?_)
        (.inl (by rw [hix]; rfl))
      obtain rfl := List.mem_singleton.mp he
      exact ⟨rfl, rfl⟩
  | pauseAdapter paused =>
    cases hcompleted with
    | @pauseAdapter _ accounts loaded passed owned =>
      obtain ⟨hretains, hlogged⟩ := @closing _ w.fresh AdapterEntry _ _
        { accounts.adapterEntry.data with isActive := !paused }
        (.adapterPaused accounts.adapterEntry.data.adapterProgram (!paused)) hprogram owned
      refine served_quiet hretains hlogged (fun e he adapter owner bump => ?_)
        (.inl (by rw [hix]; rfl))
      obtain rfl := List.mem_singleton.mp he
      exact ⟨rfl, rfl⟩
  | openPosition => exact served_of_openPosition hprotocol hdone hix hcompleted
  | deposit amount => exact served_of_deposit hprotocol hdone hix hcompleted
  | withdraw shares => exact served_of_withdraw hprotocol hdone hix hcompleted
  | currentValue => exact served_of_currentValue hprotocol hix hcompleted

/-- So does every step of a run. -/
theorem served_of_step {label : Option Request}
    (h : Step curve (OverAdapters curve layout) Suite w label w') : Served curve w w' label := by
  cases h with
  | request request hexec => exact served_of_request hexec
  | outside hframed =>
    exact @Served.quiet _ _ _ _ [] (.of_keeps (.of_framed hframed)) (.of_framed hframed) (by simp)
      (by simp)

end Served

/-! ### Two small protocols

A lender that the MarginFi adapter can call and a fund that the Drift adapter can
call. Both move tokens for whoever signed, and out of vaults of their own. -/

namespace Sample

/-- Keys and typed accounts are not read by these protocols. -/
def layout : Layout ProgramState := ⟨fun _ => Vector.replicate 32 0, fun _ => []⟩

def lender : Pubkey := .key 20

def fund : Pubkey := .key 30

/-- The authority of a program's vaults. -/
def vaultAuthority (program : Pubkey) : Pubkey := .pda program .nil 255

/-- Move tokens that the call's signers or the program itself hold. -/
def pay (program : Pubkey) (call : Call) (source destination : Pubkey) (amount : UInt64)
    (w : Chain) : Option Chain := do
  let t ← w.token? source
  if t.authority ∈ call.signers ∨ t.authority = vaultAuthority program ∧ program ∉ call.stack then
    moveTokens source destination amount w
  else none

/-- Write a data account of the program's, or create it. -/
def record (program key : Pubkey) (data : Bytes) (w : Chain) : Option Chain :=
  if w.ownedBy program key = true ∨ w.accounts key = none then
    some (w.put key ⟨program, false, .raw data⟩)
  else none

/-- An amount in instruction data, after the discriminator. -/
def amountAt (off : Nat) (data : Bytes) : Option UInt64 := fromLeBytes64 ((data.drop off).take 8)

theorem amountAt_append {off : Nat} {head tail : Bytes} (hlength : head.length = off)
    (amount : UInt64) : amountAt off (head ++ leBytes64 amount ++ tail) = some amount := by
  have hdrop : (head ++ leBytes64 amount ++ tail).drop off = leBytes64 amount ++ tail := by
    rw [List.append_assoc]
    exact List.drop_left' hlength
  have htake : (leBytes64 amount ++ tail).take 8 = leBytes64 amount :=
    List.take_left' (leBytes64_length amount)
  rw [amountAt, hdrop, htake, fromLeBytes64_leBytes64]

/-- A MarginFi that leaves `dust` of each deposit where it was. -/
def lend (dust : UInt64) : Callee ProgramState Event := fun call w =>
  if call.instruction.programId = lender then
    match call.instruction.data, call.instruction.accounts with
    | .bytes data, [_, _, _, _, source, vault, _] => do
        let amount ← amountAt 8 data
        let taken ← checkedSub amount dust
        pay lender call source.pubkey vault.pubkey taken w
    | .bytes data, [_, _, _, _, destination, _, vault, _, _, _] => do
        let amount ← amountAt 8 data
        let held ← w.token? vault.pubkey
        -- the last byte is `withdraw_all`
        let paid := if data.drop 17 = [1] then held.amount else amount
        pay lender call vault.pubkey destination.pubkey paid w
    | _, _ => some w
  else tokenTransfer call w

theorem pay_framed {program source destination : Pubkey} {call : Call} {amount : UInt64}
    {w w' : Chain} (h : pay program call source destination amount w = some w') :
    Framed Suite call.Authorizes w w' := by
  simp only [pay, Option.bind_eq_bind, Option.bind_eq_some_iff] at h
  obtain ⟨t, ht, hmoved⟩ := h
  split_ifs at hmoved with hallowed
  refine moveTokens_framed hmoved (fun t' ht' => ?_) not_suite_tokenProgramId
  obtain rfl := Option.some.inj (ht.symm.trans ht')
  rcases hallowed with hsigned | ⟨howned, hidle⟩
  · exact .inl hsigned
  · exact .inr ⟨program, .nil, 255, howned, hidle⟩

theorem record_framed {program key : Pubkey} {data : Bytes} {signed : Pubkey → Prop} {w w' : Chain}
    (hfree : ¬ Suite program) (htoken : program ≠ tokenProgramId)
    (h : record program key data w = some w') : Framed Suite signed w w' := by
  unfold record at h
  split_ifs at h with hallowed
  obtain rfl := Option.some.inj h
  rcases hallowed with howned | hvacant
  · exact .put_owned howned rfl hfree htoken
  · exact .put_vacant hvacant fun s => by simp

theorem ownedBy_put_self {programId key : Pubkey} {data : AccountData ProgramState} {w : Chain} :
    (w.put key ⟨programId, false, data⟩).ownedBy programId key = true := by
  simp [World.ownedBy]

theorem record_ok {program key : Pubkey} {data : Bytes} {w w' : Chain}
    (h : record program key data w = some w') :
    w'.ownedBy program key = true ∧
      (∀ layout : Layout ProgramState, w'.bytes layout key = data) ∧
        ∀ k, k ≠ key → w'.accounts k = w.accounts k := by
  unfold record at h
  split_ifs at h
  obtain rfl := Option.some.inj h
  refine ⟨ownedBy_put_self, fun layout => ?_, fun k hne => by simp [hne]⟩
  simp [World.bytes, AccountData.bytes]

/-- Writing one account of a program leaves it its others. -/
theorem record_kept {program key k : Pubkey} {data : Bytes} {w w' : Chain}
    (h : record program key data w = some w') (howned : w.ownedBy program k = true) :
    w'.ownedBy program k = true := by
  obtain ⟨hself, -, hothers⟩ := record_ok h
  by_cases hkey : k = key
  · rw [hkey]
    exact hself
  · rw [World.ownedBy, hothers k hkey]
    exact howned

/-- Payments touch token accounts only. -/
theorem pay_accounts {program source destination : Pubkey} {call : Call} {amount : UInt64}
    {w w' : Chain} (h : pay program call source destination amount w = some w') {key : Pubkey}
    (htoken : program ≠ tokenProgramId) (howned : w.ownedBy program key = true) :
    w'.accounts key = w.accounts key := by
  have hother : ∀ k t, w.token? k = some t → key ≠ k := by
    intro k t ht hsame
    have hnone := World.token?_of_ownedBy howned htoken
    rw [hsame, ht] at hnone
    cases hnone
  simp only [pay, Option.bind_eq_bind, Option.bind_eq_some_iff] at h
  obtain ⟨_, -, hmoved⟩ := h
  split_ifs at hmoved
  obtain ⟨s, d, hs, hd, -, ⟨-, rfl⟩ | ⟨-, left, total, -, -, rfl⟩⟩ := moveTokens_ok hmoved
  · rfl
  · simp [World.putToken, hother _ _ hs, hother _ _ hd]

theorem pay_kept {program source destination : Pubkey} {call : Call} {amount : UInt64}
    {w w' : Chain} (h : pay program call source destination amount w = some w') {key : Pubkey}
    (htoken : program ≠ tokenProgramId) (howned : w.ownedBy program key = true) :
    w'.ownedBy program key = true := by
  rw [World.ownedBy, pay_accounts h htoken howned]
  exact howned

theorem lend_lawful (dust : UInt64) : Lawful Suite (lend dust) := by
  intro call w w' h
  unfold lend at h
  split_ifs at h with hlender
  · split at h
    · simp only [Option.bind_eq_bind, Option.bind_eq_some_iff] at h
      obtain ⟨amount, -, taken, -, hpaid⟩ := h
      exact pay_framed hpaid
    · simp only [Option.bind_eq_bind, Option.bind_eq_some_iff] at h
      obtain ⟨amount, -, held, -, hpaid⟩ := h
      exact pay_framed hpaid
    · obtain rfl := Option.some.inj h
      exact .refl _
  · exact tokenTransfer_lawful not_suite_tokenProgramId _ _ _ h

/-- A Drift whose fund sells and redeems its shares at the price of its vault. A
request for removal is remembered as the amount to pay. -/
def insure : Callee ProgramState Event := fun call w =>
  if call.instruction.programId = fund then
    match call.instruction.data, call.instruction.accounts with
    | .bytes _, [userStats, _, _, _, _, _] => record fund userStats.pubkey [] w
    | .bytes _, [_, stake, _, _, _, _, _, _] => record fund stake.pubkey (stakeOf 0) w
    | .bytes data, [_, spotMarket, stake, _, _, _, ifVault, _, source, _] => do
        let amount ← amountAt 10 data
        let vault ← w.token? ifVault.pubkey
        let total := fundShares (w.bytes layout spotMarket.pubkey)
        let held := ifShares (w.bytes layout stake.pubkey)
        -- the first shares are sold one for one
        let bought := if total = 0 then amount.toNat else amount.toNat * total / vault.amount.toNat
        let w ← pay fund call source.pubkey ifVault.pubkey amount w
        let w ← record fund stake.pubkey (stakeOf (held + bought)) w
        record fund spotMarket.pubkey (spotMarketOf (total + bought)) w
    | .bytes data, [spotMarket, stake, userStats, _, ifVault] => do
        let amount ← amountAt 10 data
        let vault ← w.token? ifVault.pubkey
        let total := fundShares (w.bytes layout spotMarket.pubkey)
        let held := ifShares (w.bytes layout stake.pubkey)
        let sold := amount.toNat * total / vault.amount.toNat
        if held < sold then none
        else
          let w ← record fund stake.pubkey (stakeOf (held - sold)) w
          let w ← record fund spotMarket.pubkey (spotMarketOf (total - sold)) w
          record fund userStats.pubkey (leBytes64 amount) w
    | .bytes _, [_, _, _, userStats, _, ifVault, _, destination, _] => do
        let amount ← fromLeBytes64 (w.bytes layout userStats.pubkey)
        pay fund call ifVault.pubkey destination.pubkey amount w
    | _, _ => some w
  else tokenTransfer call w

theorem not_suite_fund : ¬ Suite fund := by
  rintro (h | ⟨adapter, h⟩)
  · exact absurd h (by decide)
  · cases adapter <;> exact absurd h (by decide)

theorem record_fund_framed {key : Pubkey} {data : Bytes} {signed : Pubkey → Prop} {w w' : Chain}
    (h : record fund key data w = some w') : Framed Suite signed w w' :=
  record_framed not_suite_fund (by decide) h

theorem insure_lawful : Lawful Suite insure := by
  intro call w w' h
  unfold insure at h
  split_ifs at h with hfund
  · split at h
    · exact record_fund_framed h
    · exact record_fund_framed h
    · simp only [Option.bind_eq_bind, Option.bind_eq_some_iff] at h
      obtain ⟨amount, -, vault, -, w₁, hpaid, w₂, hstake, hmarket⟩ := h
      rw [← hfund] at hpaid
      exact ((pay_framed hpaid).trans (record_fund_framed hstake)).trans
        (record_fund_framed hmarket)
    · simp only [Option.bind_eq_bind, Option.bind_eq_some_iff] at h
      obtain ⟨amount, -, vault, -, h⟩ := h
      split_ifs at h
      simp only [Option.bind_eq_some_iff] at h
      obtain ⟨w₁, hstake, w₂, hmarket, hstats⟩ := h
      exact ((record_fund_framed hstake).trans (record_fund_framed hmarket)).trans
        (record_fund_framed hstats)
    · simp only [Option.bind_eq_bind, Option.bind_eq_some_iff] at h
      obtain ⟨amount, -, hpaid⟩ := h
      rw [← hfund] at hpaid
      exact pay_framed hpaid
    · obtain rfl := Option.some.inj h
      exact .refl _
  · exact tokenTransfer_lawful not_suite_tokenProgramId _ _ _ h

end Sample

end YieldAdapter.Dispatcher

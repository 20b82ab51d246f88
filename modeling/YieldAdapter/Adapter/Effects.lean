import YieldAdapter.Adapter.Programs

/-!
# What a call to an adapter does

The protocols an adapter calls cannot touch the accounts of this repository's
programs, so a completed call to an adapter changes at most one of them, the state
account the call names, and of that account at most `total_shares`. The number the
adapter returns is the one its event carries. For a withdrawal it is also what the
position's pool gained.
-/

set_option autoImplicit false

namespace YieldAdapter

open Solana

/-- Of the typed accounts of this repository's programs, only the one of `programId` at
`key` may differ, and it now holds `s`. -/
def Stores (programId key : Pubkey) (s : ProgramState) (w w' : Chain) : Prop :=
  ∀ program, Suite program → ∀ k, w'.typed? program k =
    if program = programId ∧ k = key then some s else w.typed? program k

/-- The typed accounts of this repository's programs are the same. -/
def Keeps (w w' : Chain) : Prop :=
  ∀ program, Suite program → ∀ k, w'.typed? program k = w.typed? program k

/-- What the programs of this repository emitted since is the log. -/
def Logged (log : List (Pubkey × Event)) (w w' : Chain) : Prop :=
  ∀ program, Suite program → w'.emittedBy program = emissions program log ++ w.emittedBy program

/-- An adapter read the state `s` at `key`, wrote `total` as its ledger, returned
`value` and emitted `event`. -/
structure Books (adapter : Adapter) (key : Pubkey) (s : adapter.State) (total value : UInt64)
    (event : Event) (w w' : Chain) : Prop where
  stored : w.typed? adapter.programId key = some (AnchorState.encode s)
  after : Stores adapter.programId key
    (AnchorState.encode (AdapterAccount.setTotalShares s total)) w w'
  returned : w'.returnData = (adapter.programId, leBytes64 value)
  logged : Logged [(adapter.programId, event)] w w'

/-- What a completed call did to this repository's accounts, the return data and the
events, by instruction. -/
inductive Effect (curve : Curve) (adapter : Adapter) (call : Call) (w w' : Chain) :
    AdapterInstruction → Prop
  | initialized {adapterData : Bytes} {position key : Pubkey} {s : adapter.State}
      (named : call.instruction.accounts[1]?.map (·.pubkey) = some position)
      (found : findProgramAddress curve adapter.programId
        (adapterStateSeeds adapter.programId position) = some (key, AdapterAccount.bump s))
      (vacant : w.accounts key = none)
      (backs : (AdapterAccount.header s).position = position)
      (empty : (AdapterAccount.header s).totalShares = 0)
      (after : Stores adapter.programId key (AnchorState.encode s) w w')
      (logged : Logged [] w w') :
      Effect curve adapter call w w' (.init adapterData)
  | deposited {amount sharesMinted total : UInt64} {adapterData : Bytes}
      {position key : Pubkey} {s : adapter.State}
      (named : call.instruction.accounts[1]?.map (·.pubkey) = some position)
      (slot : call.instruction.accounts[3]?.map (·.pubkey) = some key)
      (backs : (AdapterAccount.header s).position = position)
      (total_eq : total.toNat =
        (AdapterAccount.header s).totalShares.toNat + sharesMinted.toNat)
      (books : Books adapter key s total sharesMinted
        (.adapterDeposit position amount sharesMinted) w w') :
      Effect curve adapter call w w' (.deposit amount adapterData)
  | withdrawn {shares amountOut total : UInt64} {adapterData : Bytes}
      {position key pool : Pubkey} {s : adapter.State} {before after : TokenAccount}
      (named : call.instruction.accounts[1]?.map (·.pubkey) = some position)
      (slot : call.instruction.accounts[3]?.map (·.pubkey) = some key)
      (backs : (AdapterAccount.header s).position = position)
      (remains : adapter.remaining (AdapterAccount.header s).totalShares shares = some total)
      (pooled : call.instruction.accounts[2]?.map (·.pubkey) = some pool)
      (held : w.token? pool = some before)
      (holds : w'.token? pool = some after)
      (measured : after.amount.toNat = amountOut.toNat + before.amount.toNat)
      (books : Books adapter key s total amountOut
        (.adapterWithdraw position shares amountOut) w w') :
      Effect curve adapter call w w' (.withdraw shares adapterData)
  | valued {value asOfSlot : UInt64} {adapterData : Bytes} {position : Pubkey}
      (keeps : Keeps w w')
      (returned : w'.returnData = (adapter.programId, leBytes64 value))
      (logged : Logged [(adapter.programId, .adapterValue position value asOfSlot)] w w') :
      Effect curve adapter call w w' (.currentValue adapterData)

section Rules

variable {curve : Curve} {layout : Layout ProgramState} {protocol : Callee ProgramState Event}
variable {adapter : Adapter} {call : Call} {ctx : Context} {w w' w'' : Chain}

theorem Adapter.suite (adapter : Adapter) : Suite adapter.programId := .inr ⟨adapter, rfl⟩

theorem suite_dispatcherId : Suite dispatcherId := .inl rfl

/-- The token program is none of this repository's. -/
theorem not_suite_tokenProgramId : ¬ Suite tokenProgramId := by
  rintro (h | ⟨adapter, h⟩)
  · exact absurd h (by decide)
  · exact adapter.programId_ne_tokenProgramId h.symm

theorem Keeps.of_framed {signed : Pubkey → Prop} (h : Framed Suite signed w w') : Keeps w w' :=
  fun _ hsuite => h.typed?_eq hsuite

theorem Keeps.trans (h : Keeps w w') (h' : Keeps w' w'') : Keeps w w'' :=
  fun program hsuite k => (h' program hsuite k).trans (h program hsuite k)

theorem Logged.of_framed {signed : Pubkey → Prop} (h : Framed Suite signed w w') :
    Logged [] w w' :=
  fun _ hsuite => h.emittedBy_eq hsuite

theorem Logged.trans {log log' : List (Pubkey × Event)} (h : Logged log w w')
    (h' : Logged log' w' w'') : Logged (log' ++ log) w w'' := by
  intro program hsuite
  rw [h' program hsuite, h program hsuite, emissions_append, List.append_assoc]

theorem logged_of_events {log : List (Pubkey × Event)} (h : w'.events = log ++ w.events) :
    Logged log w w' := by
  intro program _
  rw [World.emittedBy, h, emissions_append, World.emittedBy]

theorem Stores.of_keeps {programId key : Pubkey} {s : ProgramState} (h : Keeps w w')
    (h' : Stores programId key s w' w'') : Stores programId key s w w'' := by
  intro program hsuite k
  rw [h' program hsuite k, h program hsuite k]

/-- Writing an account one owns is storing to it, whoever looks. -/
theorem stores_put {programId key : Pubkey} {s : ProgramState}
    (howned : w.ownedBy programId key = true) :
    Stores programId key s w (w.put key ⟨programId, false, .anchor s⟩) := by
  intro program _ k
  by_cases hprogram : program = programId
  · subst hprogram
    simp [World.typed?_put]
  · rw [if_neg fun h => hprogram h.1]
    by_cases hk : k = key
    -- the owner of `key` is `programId` before and after
    · subst hk
      have hafter : (w.put k ⟨programId, false, .anchor s⟩).typed? program k = none := by
        simp [World.typed?, Ne.symm hprogram]
      have hbefore : w.typed? program k = none := by
        rw [Option.eq_none_iff_forall_ne_some]
        intro t ht
        obtain ⟨executable, hstored⟩ := World.typed?_eq_some.mp ht
        exact hprogram (World.owner_of_ownedBy howned hstored)
      rw [hafter, hbefore]
    · simp [World.typed?, hk]

/-- What the protocols did between the guards and the booking. -/
private theorem framed_of_foreign (hprotocol : Lawful Suite protocol)
    (h : Foreign protocol ctx ctx.Signer w w') : Keeps w w' ∧ Logged [] w w' := by
  have hframed := h.framed hprotocol
  exact ⟨.of_framed hframed, .of_framed hframed⟩

/-- Booking after the protocols have run. -/
private theorem books_of_bookedWorld (hprotocol : Lawful Suite protocol)
    {adapterState : Loaded adapter.State} (total value : UInt64) (event : Event) {w₁ : Chain}
    (hprogram : ctx.programId = adapter.programId)
    (hstored : w.state? adapter.State adapterState.key = some adapterState.data)
    (hcalls : Foreign protocol ctx ctx.Signer w.fresh w₁)
    (howned : w₁.ownedBy ctx.programId adapterState.key = true) :
    Books adapter adapterState.key adapterState.data total value event w
      (bookedWorld ctx adapterState total value event w₁) := by
  obtain ⟨hkeeps, hlogged⟩ := framed_of_foreign hprotocol hcalls
  rw [World.state?_eq_some_iff_typed?, Adapter.crateId_state] at hstored
  refine ⟨hstored, .of_keeps hkeeps ?_, by rw [← hprogram]; rfl,
    @Logged.trans _ _ _ _ [_] hlogged ?_⟩
  · unfold bookedWorld
    rw [hprogram] at howned ⊢
    exact stores_put howned
  · rw [← hprogram]
    exact logged_of_events rfl

/-- An adapter that completes a withdrawal has measured the pool, which did not shrink. -/
theorem Adapter.measured_of_callee {shares : UInt64} {data adapterData : Bytes} {pool : Pubkey}
    (hprogram : call.instruction.programId = adapter.programId)
    (hdata : call.instruction.data = .bytes data)
    (hdecode : AdapterInstruction.decode data = .ok (.withdraw shares adapterData))
    (hpool : call.instruction.accounts[2]?.map (·.pubkey) = some pool)
    (h : Adapter.callee curve layout protocol call w = some w') :
    ∃ before after, w.token? pool = some before ∧ w'.token? pool = some after ∧
      before.amount.toNat ≤ after.amount.toNat := by
  obtain ⟨data', ix, hdata', hdecode', hcompleted⟩ := Adapter.completed_of_callee hprogram h
  obtain rfl := InstructionData.bytes.inj (hdata'.symm.trans hdata)
  obtain rfl := Except.ok.inj (hdecode'.symm.trans hdecode)
  cases hcompleted with
  | @withdrawn _ amountOut total _ accounts _ after w₁ slots guarded accepted positive calls stored
      measured booked owned =>
    have hkey : accounts.positionUsdcPool.key = pool := by
      rw [← call.instruction.infos_key] at hpool
      have hslot := congrArg (fun l => l[2]?.map AccountInfo.key) slots
      exact Option.some.inj (hslot.symm.trans hpool)
    subst hkey
    exact ⟨_, after, accepted.pool,
      token?_bookedWorld owned adapter.programId_ne_tokenProgramId stored, by omega⟩

/-- Every completed call to an adapter has one of these effects. -/
theorem effect_of_callee (hprotocol : Lawful Suite protocol)
    (hprogram : call.instruction.programId = adapter.programId)
    (h : Adapter.callee curve layout protocol call w = some w') :
    ∃ data ix, call.instruction.data = .bytes data ∧ AdapterInstruction.decode data = .ok ix ∧
      Effect curve adapter call w w' ix := by
  obtain ⟨data, ix, hdata, hdecode, hcompleted⟩ := Adapter.completed_of_callee hprogram h
  refine ⟨data, ix, hdata, hdecode, ?_⟩
  -- the slots of the context are those of the call
  have hslot := fun i => (call.instruction.infos_key i).symm
  cases hcompleted with
  | @initialized _ accounts _ state w₁ slots guarded seeds vacant header bump calls owned =>
    obtain ⟨hkeeps, hlogged⟩ := framed_of_foreign hprotocol calls
    simp only [Adapter.crateId_state] at seeds
    have hposition := congrArg (fun l => l[1]?.map AccountInfo.key) slots
    refine .initialized ((hslot 1).trans hposition) ?_ vacant (by rw [header])
      (by rw [header]) (.of_keeps hkeeps (stores_put owned)) hlogged
    rw [bump]
    exact seeds
  | @deposited amount sharesMinted total _ accounts _ w₁ slots guarded accepted positive calls
      booked owned =>
    refine .deposited ?_ ?_ rfl booked
      (books_of_bookedWorld hprotocol total sharesMinted _ rfl accepted.state calls owned)
    · rw [hslot, accepted.position]
      exact congrArg (fun l => l[1]?.map AccountInfo.key) slots
    · rw [hslot]
      exact congrArg (fun l => l[3]?.map AccountInfo.key) slots
  | @withdrawn shares amountOut total _ accounts _ pool w₁ slots guarded accepted positive calls
      stored measured booked owned =>
    refine .withdrawn ?_ ?_ rfl booked ?_ accepted.pool
      (token?_bookedWorld owned adapter.programId_ne_tokenProgramId stored) measured
      (books_of_bookedWorld hprotocol total amountOut _ rfl accepted.state calls owned)
    · rw [hslot, accepted.position]
      exact congrArg (fun l => l[1]?.map AccountInfo.key) slots
    · rw [hslot]
      exact congrArg (fun l => l[3]?.map AccountInfo.key) slots
    · rw [hslot]
      exact congrArg (fun l => l[2]?.map AccountInfo.key) slots
  | @valued value asOfSlot _ accounts _ w₁ slots guarded accepted calls =>
    obtain ⟨hkeeps, hlogged⟩ := framed_of_foreign hprotocol calls
    exact .valued hkeeps rfl (@Logged.trans _ _ _ _ [_] hlogged (logged_of_events rfl))

end Rules

end YieldAdapter

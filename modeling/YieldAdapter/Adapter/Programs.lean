import YieldAdapter.Adapter.KaminoUsdc
import YieldAdapter.Adapter.MarginfiUsdc
import YieldAdapter.Adapter.JupiterLp
import YieldAdapter.Adapter.MapleSyrup
import YieldAdapter.Adapter.DriftIf

/-!
# The five adapters as callees

The adapters by name, and the callee that runs their code when one of them is
called and hands every other call to a `protocol` of which only the frame is
known. Calling the adapters stays in the frame of the dispatcher.
-/

set_option autoImplicit false

namespace YieldAdapter

open Solana

/-- The adapters of this repository. -/
inductive Adapter where
  | kaminoUsdc
  | marginfiUsdc
  | jupiterLp
  | mapleSyrup
  | driftIf
  deriving DecidableEq

namespace Adapter

def programId : Adapter → Pubkey
  | .kaminoUsdc => KaminoUsdc.programId
  | .marginfiUsdc => MarginfiUsdc.programId
  | .jupiterLp => JupiterLp.programId
  | .mapleSyrup => MapleSyrup.programId
  | .driftIf => DriftIf.programId

/-- The type of the adapter's state account. -/
def State : Adapter → Type
  | .kaminoUsdc => KaminoUsdc.AdapterState
  | .marginfiUsdc => MarginfiUsdc.AdapterState
  | .jupiterLp => JupiterLp.AdapterState
  | .mapleSyrup => MapleSyrup.AdapterState
  | .driftIf => DriftIf.AdapterState

instance : (adapter : Adapter) → AdapterAccount adapter.State
  | .kaminoUsdc => inferInstanceAs (AdapterAccount KaminoUsdc.AdapterState)
  | .marginfiUsdc => inferInstanceAs (AdapterAccount MarginfiUsdc.AdapterState)
  | .jupiterLp => inferInstanceAs (AdapterAccount JupiterLp.AdapterState)
  | .mapleSyrup => inferInstanceAs (AdapterAccount MapleSyrup.AdapterState)
  | .driftIf => inferInstanceAs (AdapterAccount DriftIf.AdapterState)

@[simp] theorem crateId_state (adapter : Adapter) :
    AnchorState.programId ProgramState adapter.State = adapter.programId := by
  cases adapter <;> rfl

/-- What a withdrawal of `shares` leaves of a ledger of `booked`. -/
def remaining : Adapter → UInt64 → UInt64 → Option UInt64
  | .marginfiUsdc => MarginfiUsdc.remainingShares
  | _ => checkedSub

/-- The adapter's entry point. -/
def entry (curve : Curve) (exec : Callee ProgramState Event) (layout : Layout ProgramState)
    (ctx : Context) (data : Bytes) : Adapter → Exec Chain Unit
  | .kaminoUsdc => KaminoUsdc.entry curve exec ctx layout data
  | .marginfiUsdc => MarginfiUsdc.entry curve exec ctx layout data
  | .jupiterLp => JupiterLp.entry curve exec ctx layout data
  | .mapleSyrup => MapleSyrup.entry curve exec ctx layout data
  | .driftIf => DriftIf.entry curve exec ctx layout data

def all : List Adapter := [.kaminoUsdc, .marginfiUsdc, .jupiterLp, .mapleSyrup, .driftIf]

/-- The adapter with a given program id. -/
def ofProgramId (programId : Pubkey) : Option Adapter :=
  all.find? fun adapter => decide (adapter.programId = programId)

theorem programId_inj {adapter adapter' : Adapter} (h : adapter.programId = adapter'.programId) :
    adapter = adapter' := by
  revert h
  cases adapter <;> cases adapter' <;> decide

theorem programId_ne_dispatcherId (adapter : Adapter) : adapter.programId ≠ dispatcherId := by
  cases adapter <;> decide

theorem programId_ne_tokenProgramId (adapter : Adapter) :
    adapter.programId ≠ tokenProgramId := by
  cases adapter <;> decide

@[simp] theorem ofProgramId_programId (adapter : Adapter) :
    ofProgramId adapter.programId = some adapter := by
  cases adapter <;> decide

theorem ofProgramId_eq_some {programId : Pubkey} {adapter : Adapter}
    (h : ofProgramId programId = some adapter) : programId = adapter.programId := by
  have hfound := List.find?_some h
  simpa [eq_comm] using hfound

/-- Where an adapter runs when called. -/
def calledContext (adapter : Adapter) (call : Call) : Context :=
  ⟨adapter.programId, call.stack, call.sysvar, call.instruction.infos⟩

/-- Calls to an adapter run its code over `protocol`; all others go to `protocol`. -/
def callee (curve : Curve) (layout : Layout ProgramState) (protocol : Callee ProgramState Event) :
    Callee ProgramState Event := fun call w =>
  match ofProgramId call.instruction.programId with
  | some adapter => Callee.ofProgram adapter.programId
      (fun ctx data => adapter.entry curve protocol layout ctx data) call w
  | none => protocol call w

/-- The world in which an adapter stops that is called with `data`, completed or not. Nothing
is rolled back yet. -/
def stopped (curve : Curve) (layout : Layout ProgramState) (protocol : Callee ProgramState Event)
    (adapter : Adapter) (call : Call) (data : Bytes) (w : Chain) : Chain :=
  (adapter.entry curve protocol layout (adapter.calledContext call) data w.fresh).2

section Rules

variable {curve : Curve} {layout : Layout ProgramState} {protocol : Callee ProgramState Event}
variable {adapter : Adapter} {call : Call} {ctx : Context} {w w' : Chain}

theorem entry_completed {data : Bytes}
    (h : adapter.entry curve protocol layout ctx data w = (.ok (), w')) :
    ∃ ix, AdapterInstruction.decode data = .ok ix ∧
      Completed adapter.State adapter.remaining curve protocol ctx w ix w' := by
  cases adapter with
  | kaminoUsdc => exact KaminoUsdc.entry_completed h
  | marginfiUsdc => exact MarginfiUsdc.entry_completed h
  | jupiterLp => exact JupiterLp.entry_completed h
  | mapleSyrup => exact MapleSyrup.entry_completed h
  | driftIf => exact DriftIf.entry_completed h

/-- Whatever an adapter does, completed or not, moves along what its calls respect. -/
theorem entry_leaves {R : Chain → Chain → Prop} [Writes ctx.programId R] {data : Bytes}
    (hexec : Respects R ctx ctx.Signer protocol)
    (hcreates : ∀ adapterData, AdapterInstruction.decode data = .ok (.init adapterData) →
      Creates R curve ctx adapter.programId) :
    Exec.Leaves R (adapter.entry curve protocol layout ctx data) w := by
  cases adapter with
  | kaminoUsdc => exact KaminoUsdc.entry_leaves hexec hcreates
  | marginfiUsdc => exact MarginfiUsdc.entry_leaves hexec hcreates
  | jupiterLp => exact JupiterLp.entry_leaves hexec hcreates
  | mapleSyrup => exact MapleSyrup.entry_leaves hexec hcreates
  | driftIf => exact DriftIf.entry_leaves hexec hcreates

/-- The signatures an adapter is handed are those its call carried. -/
theorem signer_calledContext (key : Pubkey) :
    (adapter.calledContext call).Signer key ↔ key ∈ call.signers := by
  simp only [Context.Signer, calledContext, Instruction.infos, Call.signers, List.mem_map,
    List.mem_filter]
  constructor
  · rintro ⟨info, ⟨account, hmem, rfl⟩, rfl, hsigner⟩
    obtain ⟨other, hother, hsame⟩ := List.any_eq_true.mp hsigner
    simp only [Bool.and_eq_true, decide_eq_true_eq] at hsame
    exact ⟨other, ⟨hother, hsame.2⟩, hsame.1⟩
  · rintro ⟨account, ⟨hmem, hsigner⟩, rfl⟩
    refine ⟨_, ⟨account, hmem, rfl⟩, rfl, List.any_eq_true.mpr ⟨account, hmem, ?_⟩⟩
    simp [hsigner]

/-- Calls to no adapter are the protocol's. -/
theorem callee_of_other (h : ∀ adapter : Adapter, call.instruction.programId ≠ adapter.programId) :
    callee curve layout protocol call = protocol call := by
  have hnone : ofProgramId call.instruction.programId = none := by
    cases hfound : ofProgramId call.instruction.programId with
    | none => rfl
    | some adapter => exact absurd (ofProgramId_eq_some hfound) (h adapter)
  funext w
  unfold callee
  rw [hnone]

/-- A completed call to an adapter is a completed run of its code. -/
theorem entry_of_callee (hprogram : call.instruction.programId = adapter.programId)
    (h : callee curve layout protocol call w = some w') :
    ∃ data, call.instruction.data = .bytes data ∧
      adapter.entry curve protocol layout (adapter.calledContext call) data w.fresh =
        (.ok (), w') := by
  unfold callee at h
  rw [hprogram, ofProgramId_programId] at h
  unfold Callee.ofProgram at h
  dsimp only at h
  split at h
  · rename_i data hdata
    split at h
    · rename_i hrun
      obtain rfl := Option.some.inj h
      exact ⟨data, hdata, hrun⟩
    · simp at h
  · simp at h

/-- It is one of the outcomes of the adapter's instructions. -/
theorem completed_of_callee (hprogram : call.instruction.programId = adapter.programId)
    (h : callee curve layout protocol call w = some w') :
    ∃ data ix, call.instruction.data = .bytes data ∧ AdapterInstruction.decode data = .ok ix ∧
      Completed adapter.State adapter.remaining curve protocol (adapter.calledContext call)
        w.fresh ix w' := by
  obtain ⟨data, hdata, hrun⟩ := entry_of_callee hprogram h
  obtain ⟨ix, hdecode, hcompleted⟩ := entry_completed hrun
  exact ⟨data, ix, hdata, hdecode, hcompleted⟩

/-- The world a completed call leaves is the one the adapter stopped in. -/
theorem stopped_of_callee {data : Bytes} (hprogram : call.instruction.programId = adapter.programId)
    (hdata : call.instruction.data = .bytes data)
    (h : callee curve layout protocol call w = some w') :
    adapter.stopped curve layout protocol call data w = w' := by
  obtain ⟨data', hdata', hrun⟩ := entry_of_callee hprogram h
  obtain rfl := InstructionData.bytes.inj (hdata'.symm.trans hdata)
  rw [stopped, hrun]

/-- A call an adapter completes names the state account that adapter derives for the
position named, so no other adapter's state can stand in for it. -/
theorem state_derived_of_callee (hprogram : call.instruction.programId = adapter.programId)
    (h : callee curve layout protocol call w = some w') :
    ∃ ix position bump,
      (∃ data, call.instruction.data = .bytes data ∧ AdapterInstruction.decode data = .ok ix) ∧
      call.instruction.accounts[1]?.map (·.pubkey) = some position ∧
      call.instruction.accounts[ix.stateSlot]?.map (·.pubkey) =
        some (.pda adapter.programId (adapterStateSeeds adapter.programId position) bump) := by
  obtain ⟨data, ix, hdata, hdecode, hcompleted⟩ := completed_of_callee hprogram h
  obtain ⟨position, bump, hposition, hstate⟩ := hcompleted.state_derived
  simp only [calledContext, Instruction.infos_key, crateId_state] at hposition hstate
  exact ⟨ix, position, bump, ⟨data, hdata, hdecode⟩, hposition, hstate⟩

end Rules

end Adapter

/-- The programs of this repository. -/
def Suite (programId : Pubkey) : Prop :=
  programId = dispatcherId ∨ ∃ adapter : Adapter, programId = adapter.programId

/-- Over protocols that cannot touch the accounts of this repository's programs,
the adapters cannot touch those of the dispatcher. -/
theorem Adapter.callee_lawful {curve : Curve} {layout : Layout ProgramState}
    {protocol : Callee ProgramState Event} (hprotocol : Lawful Suite protocol) :
    Lawful (· = dispatcherId) (Adapter.callee curve layout protocol) := by
  intro call w w' h
  cases hfound : Adapter.ofProgramId call.instruction.programId with
  | none =>
    rw [Adapter.callee, hfound] at h
    exact (hprotocol call w w' h).mono (fun _ => .inl) fun _ => id
  | some adapter =>
    have hprogram := Adapter.ofProgramId_eq_some hfound
    obtain ⟨data, ix, -, -, hcompleted⟩ := Adapter.completed_of_callee hprogram h
    have : Permits (adapter.calledContext call).programId
        (Framed (σ := ProgramState) (η := Event) (· = dispatcherId) call.Authorizes) :=
      Framed.permits adapter.programId_ne_dispatcherId adapter.programId_ne_tokenProgramId
    have hcleared : Framed (· = dispatcherId) call.Authorizes w w.fresh :=
      Framed.settled rfl rfl
    refine hcleared.trans (hcompleted.within (hprotocol.respects (fun _ => .inl) ?_ ?_))
    · exact fun key hkey => .inl ((Adapter.signer_calledContext key).mp hkey)
    -- what can be called below the adapter can be called below the dispatcher
    · rintro key ⟨program, seeds, bump, rfl, hidle⟩
      refine .inr ⟨program, seeds, bump, rfl, fun hrunning => hidle ?_⟩
      exact List.mem_append_left _ hrunning

end YieldAdapter

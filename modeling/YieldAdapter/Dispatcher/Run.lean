import YieldAdapter.Solana.Run
import YieldAdapter.Solana.Token
import YieldAdapter.Dispatcher.Effects

/-!
# Runs of the dispatcher

A request is an instruction sent to the dispatcher by anyone, in any context the
runtime can bring about, together with the behaviour of the programs it will call.
A failed request has no effect on the chain; what it attempted is still on its
trace. A run interleaves requests with whatever else happens on the chain.
-/

set_option autoImplicit false

namespace YieldAdapter.Dispatcher

open Solana

/-- An instruction sent to the dispatcher, directly or by a program that called it.
The runtime never re-enters the dispatcher, and a derived address has signed only if
the program it is derived from is among the callers. -/
structure Request where
  ctx : Context
  ix : Ix
  exec : Callee ProgramState Event
  program : ctx.programId = dispatcherId
  entered : dispatcherId ∉ ctx.callers
  derived : ∀ program seeds bump, ctx.Signer (.pda program seeds bump) → program ∈ ctx.callers

namespace Request

variable (curve : Curve) (request : Request) (w : Chain)

/-- The instruction run on `w`, with the calls it issues on record from the start. -/
def run : Except Error Unit × Chain :=
  entry curve request.exec request.ctx request.ix w.fresh

/-- The calls issued, whether the instruction completed or not. -/
def trace : List Call := (request.run curve w).2.calls

/-- The instruction completed. -/
def Done : Prop := (request.run curve w).1 = .ok ()

instance : Decidable (request.Done curve w) := inferInstanceAs (Decidable (_ = _))

/-- The chain after the request: unchanged if the instruction failed. -/
def apply : Chain :=
  match request.run curve w with
  | (.ok _, w') => w'
  | (.error _, _) => w

variable {curve request w}

/-- No request comes with the signature of an address of the dispatcher's. -/
theorem unsigned {key : Pubkey} (h : request.ctx.Signer key) : ¬ Derived key := by
  rintro ⟨seeds, bump, rfl⟩
  exact request.entered (request.derived _ _ _ h)

variable (request) in
/-- The dispatcher is not among its own callers. -/
theorem own_entered : request.ctx.programId ∉ request.ctx.callers :=
  request.program ▸ request.entered

/-- What a request's signers sign for cannot be signed for further down. -/
theorem not_signedBelow {key : Pubkey} (h : request.ctx.Signer key ∨ Derived key) :
    ¬ SignedBelow request.ctx.stack key := by
  rintro ⟨program, seeds, bump, rfl, hidle⟩
  refine hidle (List.mem_append.mpr ?_)
  rcases h with hsigner | ⟨_, _, hderived⟩
  · exact .inl (request.derived _ _ _ hsigner)
  · injection hderived with hprogram
    simp [hprogram, request.program]

theorem apply_of_ok {w' : Chain} (h : request.run curve w = (.ok (), w')) :
    request.apply curve w = w' := by
  simp [apply, h]

theorem apply_of_error {e : Error} {w' : Chain} (h : request.run curve w = (.error e, w')) :
    request.apply curve w = w := by
  simp [apply, h]

/-- An instruction that did not complete changed nothing. -/
theorem apply_of_not_done (h : ¬ request.Done curve w) : request.apply curve w = w := by
  rcases hrun : request.run curve w with ⟨e | _, w'⟩
  · exact apply_of_error hrun
  · exact absurd (congrArg Prod.fst hrun) h

theorem run_of_done (h : request.Done curve w) :
    request.run curve w = (.ok (), request.apply curve w) := by
  rcases hrun : request.run curve w with ⟨e | _, w'⟩
  · simp [Done, hrun] at h
  · rw [apply_of_ok hrun]

theorem done_iff :
    request.Done curve w ↔
      ∃ w', entry curve request.exec request.ctx request.ix w.fresh = (.ok (), w') :=
  ⟨fun h => ⟨_, run_of_done h⟩, fun ⟨_, h⟩ => congrArg Prod.fst h⟩

/-- An instruction that completed did what the instructions do. -/
theorem completed_of_done (h : request.Done curve w) :
    Completed curve request.exec request.ctx w.fresh request.ix (request.apply curve w) :=
  entry_completed (run_of_done h)

variable (curve request w) in
/-- Either the instruction failed and nothing changed, or it completed. -/
theorem apply_cases :
    (∃ e w', request.run curve w = (.error e, w')) ∧ request.apply curve w = w ∨
      request.run curve w = (.ok (), request.apply curve w) ∧
        Completed curve request.exec request.ctx w.fresh request.ix (request.apply curve w) := by
  rcases hrun : request.run curve w with ⟨e | _, w'⟩
  · exact .inl ⟨⟨e, w', rfl⟩, apply_of_error hrun⟩
  · rw [apply_of_ok hrun]
    exact .inr ⟨rfl, entry_completed hrun⟩

theorem traced : Traced request.exec request.ctx (Signs request.ctx request.ix)
    (Issued curve request.ctx w.fresh request.ix) w.fresh (request.run curve w).2 :=
  entry_traced request.program request.ix

/-- Every call on the trace is one the instruction can issue. -/
theorem issued_of_mem_trace {call : Call} (h : call ∈ request.trace curve w) :
    Issued curve request.ctx w.fresh request.ix call := by
  simpa using (traced (w := w)).recorded call h

/-- A relation that the dispatcher's own steps and its calls respect holds from
before a request to after it. -/
theorem apply_within {R : Chain → Chain → Prop} [hR : Permits dispatcherId R]
    (hexec : Respects R request.ctx (Signs request.ctx request.ix) request.exec) :
    R w (request.apply curve w) := by
  have hprogram : Permits request.ctx.programId R := by rw [request.program]; exact hR
  have hrun := (@traced curve request w).within R hprogram hexec
  rcases hcase : request.run curve w with ⟨e | _, w'⟩
  · rw [apply_of_error hcase]
    exact refl_of R w
  · -- clearing the trace is a step of the runtime's own
    have hfresh : R w w.fresh := hR.settled rfl rfl
    have hran : R w.fresh w' := by simpa [hcase] using hrun
    rw [apply_of_ok hcase]
    exact trans_of R hfresh hran

/-- A request stays in the frame of the signatures it can pass on and of those used
further down, whatever the programs it calls do. -/
theorem apply_framed {locked : Pubkey → Prop} (hexec : Lawful locked request.exec) :
    Framed (fun _ => False)
      (fun key => Signs request.ctx request.ix key ∨ SignedBelow request.ctx.stack key) w
      (request.apply curve w) := by
  have hpermits : Permits dispatcherId (Framed (σ := ProgramState) (η := Event) (fun _ => False)
      fun key => Signs request.ctx request.ix key ∨ SignedBelow request.ctx.stack key) :=
    Framed.permits (by simp) (by decide)
  exact apply_within (hexec.respects (fun _ => False.elim) (fun _ => .inl) fun _ => .inr)

end Request

/-- One step of a run: a request, or anything else that keeps the frame of the
`locked` programs without a signature of an address derived from the dispatcher. -/
inductive Step (curve : Curve) (lawful : Callee ProgramState Event → Prop)
    (locked : Pubkey → Prop) : Chain → Option Request → Chain → Prop
  | request {w : Chain} (request : Request) (hexec : lawful request.exec) :
      Step curve lawful locked w (some request) (request.apply curve w)
  | outside {w w' : Chain} (h : Framed locked (fun key => ¬ Derived key) w w') :
      Step curve lawful locked w none w'

theorem Step.mono {curve : Curve} {lawful lawful' : Callee ProgramState Event → Prop}
    {locked : Pubkey → Prop} {w w' : Chain} {label : Option Request}
    (h : Step curve lawful locked w label w') (hlawful : ∀ exec, lawful exec → lawful' exec) :
    Step curve lawful' locked w label w' := by
  cases h with
  | request request hexec => exact .request request (hlawful _ hexec)
  | outside hframed => exact .outside hframed

/-- Runs in which the programs called may do anything the runtime lets them do. -/
abbrev HostileRun (curve : Curve) (start : Chain → Prop) : List (Chain × Option Request) → Chain →
    Prop :=
  Run start (Step curve (Lawful (· = dispatcherId)) (· = dispatcherId))

/-! ### A small chain

One owner, one adapter `X` on the whitelist, and the account lists of the owner's
requests. Results with hypotheses are exercised on it. -/

namespace Sample

/-- The first bump tried is always usable. -/
def curve : Curve := fun _ _ bump => decide (bump = 255)

def alice : Pubkey := .key 1

def usdcMint : Pubkey := .key 2

def aliceAta : Pubkey := .key 3

def entryKey (X : Pubkey) : Pubkey := .pda dispatcherId (entrySeeds X) 255

def positionKey (X : Pubkey) : Pubkey := positionAddress alice X 255

def poolKey (X : Pubkey) : Pubkey :=
  .pda associatedTokenProgramId (associatedTokenSeeds (positionKey X) usdcMint) 255

/-- A deployed program. -/
def program : Account ProgramState := ⟨default, true, .raw []⟩

/-- A token account of the USDC mint. -/
def usdc (authority : Pubkey) (amount : UInt64) : Account ProgramState :=
  ⟨tokenProgramId, false, .token ⟨usdcMint, authority, amount⟩⟩

/-- The programs, the mint and the active entry of `X`. -/
def listed (X : Pubkey) : List (Pubkey × Account ProgramState) :=
  [(systemProgramId, program), (tokenProgramId, program), (associatedTokenProgramId, program),
    (X, program), (usdcMint, ⟨tokenProgramId, false, .mint ⟨none, 0, 6, none⟩⟩),
    (entryKey X, ⟨dispatcherId, false, .anchor (.adapterEntry
      { adapterProgram := X, interfaceVersion := adapterInterfaceVersion, name := "x"
        isActive := true, addedAt := 0, bump := 255 })⟩)]

/-- The owner's open position in `X`, holding `amount` in its pool. -/
def opened (X : Pubkey) (amount : UInt64) : List (Pubkey × Account ProgramState) :=
  [(positionKey X, ⟨dispatcherId, false, .anchor (.position
      { owner := alice, adapterProgram := X, usdcPool := poolKey X, usdcMint, createdAt := 0
        bump := 255 })⟩),
    (poolKey X, usdc (positionKey X) amount)]

/-- An account that is only read. -/
def readonly (key : Pubkey) : AccountInfo := ⟨key, false, false⟩

/-- An account that may be written. -/
def writable (key : Pubkey) : AccountInfo := ⟨key, false, true⟩

/-- An account that signed and may be written. -/
def signer (key : Pubkey) : AccountInfo := ⟨key, true, true⟩

def openAccounts (X adapterState : Pubkey) (remaining : List AccountInfo) : List AccountInfo :=
  [signer alice, readonly (entryKey X), readonly X, writable (positionKey X), readonly usdcMint,
    writable (poolKey X), writable adapterState, readonly sysvarInstructionsId,
    readonly systemProgramId, readonly tokenProgramId, readonly associatedTokenProgramId] ++
      remaining

def fundAccounts (X adapterState : Pubkey) (remaining : List AccountInfo) : List AccountInfo :=
  [signer alice, readonly (entryKey X), readonly X, writable (positionKey X),
    writable (poolKey X), writable aliceAta, writable adapterState, readonly sysvarInstructionsId,
    readonly tokenProgramId] ++ remaining

def valueAccounts (X adapterState : Pubkey) (remaining : List AccountInfo) : List AccountInfo :=
  [readonly (entryKey X), readonly X, readonly (positionKey X), readonly adapterState,
    readonly sysvarInstructionsId] ++ remaining

/-- No derived address is among the signers. -/
def walletsOnly (accounts : List AccountInfo) : Bool :=
  accounts.all fun info =>
    match info.key with
    | .key _ => true
    | .pda .. => !info.isSigner

/-- A top-level instruction of the dispatcher, signed by wallets. -/
def request (accounts : List AccountInfo) (ix : Ix) (exec : Callee ProgramState Event)
    (h : walletsOnly accounts = true) : Request where
  ctx := ⟨dispatcherId, [], ⟨[dispatcherId], 0⟩, accounts⟩
  ix := ix
  exec := exec
  program := rfl
  entered := by simp
  derived := by
    rintro program seeds bump ⟨info, hinfo, hkey, hsigner⟩
    have hwallet := List.all_eq_true.mp h info hinfo
    simp [hkey, hsigner] at hwallet

end Sample

end YieldAdapter.Dispatcher

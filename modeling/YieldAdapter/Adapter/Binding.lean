import YieldAdapter.Adapter.Programs
import YieldAdapter.Solana.Token

/-!
# Which program stands in for the protocol

Each adapter calls its protocol with the position's signature, at a program that is one
slot of the caller's list. Kamino asks that this program own the reserve pinned in the
state account. The other four take any executable, so one that does nothing can be
booked as a deposit.
-/

set_option autoImplicit false

namespace YieldAdapter

open Solana

/-- The protocol account pinned in a state account: Kamino's reserve, MarginFi's bank,
Jupiter's pool, Orca's whirlpool, Drift's spot market. -/
def Adapter.pinned : (adapter : Adapter) → adapter.State → Pubkey
  | .kaminoUsdc, s => KaminoUsdc.AdapterState.kaminoReserve s
  | .marginfiUsdc, s => MarginfiUsdc.AdapterState.bank s
  | .jupiterLp, s => JupiterLp.AdapterState.pool s
  | .mapleSyrup, s => MapleSyrup.AdapterState.whirlpool s
  | .driftIf, s => DriftIf.AdapterState.spotMarket s

/-- The instructions that move funds. -/
def AdapterInstruction.movesFunds : AdapterInstruction → Prop
  | .deposit _ _ | .withdraw _ _ => True
  | _ => False

/-- Whatever account list moves funds on a state account, the calls that carry its
position's signature go to the program that owns the pinned protocol account. -/
def Bound (adapter : Adapter) : Prop :=
  ∀ (curve : Curve) (layout : Layout ProgramState) (exec : Callee ProgramState Event)
    (ctx : Context) (data : Bytes) (ix : AdapterInstruction) (w : Chain) (key : Pubkey)
    (s : adapter.State) (call : Call),
    ctx.programId = adapter.programId → AdapterInstruction.decode data = .ok ix → ix.movesFunds →
      ctx.accounts[3]?.map (·.key) = some key → w.state? adapter.State key = some s →
        call ∈ (adapter.entry curve exec layout ctx data w.fresh).2.calls →
          (AdapterAccount.header s).position ∈ call.signers →
            w.ownedBy call.instruction.programId (adapter.pinned s) = true

section Bound

variable {curve : Curve} {layout : Layout ProgramState} {exec : Callee ProgramState Event}
variable {ctx : Context} {w : Chain}

/-- Two accepted lists on one state account call one program. -/
theorem Bound.same_program {adapter : Adapter} (h : Bound adapter) {ctx' : Context}
    {exec' : Callee ProgramState Event} {data data' : Bytes} {ix ix' : AdapterInstruction}
    {key : Pubkey} {s : adapter.State} {call call' : Call}
    (hprogram : ctx.programId = adapter.programId) (hprogram' : ctx'.programId = adapter.programId)
    (hdecode : AdapterInstruction.decode data = .ok ix) (hmoves : ix.movesFunds)
    (hdecode' : AdapterInstruction.decode data' = .ok ix') (hmoves' : ix'.movesFunds)
    (hslot : ctx.accounts[3]?.map (·.key) = some key)
    (hslot' : ctx'.accounts[3]?.map (·.key) = some key)
    (hstored : w.state? adapter.State key = some s)
    (hcall : call ∈ (adapter.entry curve exec layout ctx data w.fresh).2.calls)
    (hcall' : call' ∈ (adapter.entry curve exec' layout ctx' data' w.fresh).2.calls)
    (hsigned : (AdapterAccount.header s).position ∈ call.signers)
    (hsigned' : (AdapterAccount.header s).position ∈ call'.signers) :
    call.instruction.programId = call'.instruction.programId := by
  have howner := h _ _ _ _ _ _ _ _ _ _ hprogram hdecode hmoves hslot hstored hcall hsigned
  have howner' := h _ _ _ _ _ _ _ _ _ _ hprogram' hdecode' hmoves' hslot' hstored hcall' hsigned'
  obtain ⟨account, haccount⟩ : ∃ account, w.accounts (adapter.pinned s) = some account := by
    cases haccount : w.accounts (adapter.pinned s) with
    | none => simp [World.ownedBy, haccount] at howner
    | some account => exact ⟨account, rfl⟩
  rw [← World.owner_of_ownedBy howner haccount, ← World.owner_of_ownedBy howner' haccount]

/-! ### Kamino -/

variable {signed : Pubkey → Prop} {P : Call → Prop}

/-- Outside the minting of shares a deposit issues no call. -/
theorem depositWith_traced {τ : Type} [AdapterAccount τ] {accounts : FundPrefix τ}
    {amount : UInt64} {adapterData : Bytes} {mint : Exec Chain UInt64}
    (hmint : Exec.Leaves (Traced exec ctx signed P) mint w) :
    Exec.Leaves (Traced exec ctx signed P)
      (depositWith ctx accounts amount adapterData mint) w := by
  refine Exec.Leaves.bind_require fun _ => ?_
  refine Exec.Leaves.bind_ofExcept fun _ _ => ?_
  refine Exec.Leaves.bind hmint fun _ w₃ _ => ?_
  refine Exec.Leaves.bind_ofOption fun _ _ => ?_
  refine Exec.Leaves.bind setReturnData_traced fun _ _ _ => ?_
  exact Exec.Leaves.bind emit_traced fun _ _ _ => store_traced

/-- Outside the redeeming of shares a withdrawal issues no call. -/
theorem withdrawWith_traced {τ : Type} [AdapterAccount τ] {accounts : FundPrefix τ}
    {shares : UInt64} {remaining : Option UInt64} {redeem : Exec Chain UInt64}
    (hredeem : Exec.Leaves (Traced exec ctx signed P) redeem w) :
    Exec.Leaves (Traced exec ctx signed P)
      (withdrawWith ctx accounts shares remaining redeem) w := by
  refine Exec.Leaves.bind hredeem fun _ w₁ _ => ?_
  refine Exec.Leaves.bind_ofOption fun _ _ => ?_
  refine Exec.Leaves.bind setReturnData_traced fun _ _ _ => ?_
  exact Exec.Leaves.bind emit_traced fun _ _ _ => store_traced

theorem measureToken_traced {account : AccountInfo} {before : UInt64} :
    Exec.Leaves (Traced exec ctx signed P) (measureToken account before) w := by
  refine Exec.Leaves.bind ?_ fun _ _ _ => Exec.leaves_ofOption _ _
  refine Exec.Leaves.bind_read ?_
  exact Exec.Leaves.bind_ofExcept fun _ _ => Exec.leaves_pure _

namespace KaminoUsdc

variable {accounts : AdapterDeposit}

theorem mintShares_traced (hP : ∀ call : Call,
      call.instruction.programId = accounts.klendProgram.key → P call)
    (amount : UInt64) :
    Exec.Leaves (Traced exec ctx ctx.Signer P) (mintShares curve exec ctx accounts amount) w := by
  refine Exec.Leaves.bind (invoke_traced (fun _ => id) (hP _ rfl)) fun _ _ _ => ?_
  refine Exec.Leaves.bind (invoke_traced (fun _ => id) (hP _ rfl)) fun _ _ _ => ?_
  exact measureToken_traced

theorem redeemShares_traced (hP : ∀ call : Call,
      call.instruction.programId = accounts.klendProgram.key → P call)
    (shares : UInt64) :
    Exec.Leaves (Traced exec ctx ctx.Signer P) (redeemShares curve exec ctx accounts shares) w := by
  refine Exec.Leaves.bind (invoke_traced (fun _ => id) (hP _ rfl)) fun _ _ _ => ?_
  refine Exec.Leaves.bind (invoke_traced (fun _ => id) (hP _ rfl)) fun _ _ _ => ?_
  exact measureToken_traced

/-- The program of an accepted list owns the reserve of the state account in it. -/
theorem owner_of_accepted {key : Pubkey} {s : AdapterState}
    (hslot : ctx.accounts[3]?.map (·.key) = some key)
    (hstored : w.state? AdapterState key = some s)
    (h : AdapterDeposit.tryAccounts curve ctx w = .ok accounts) :
    w.ownedBy accounts.klendProgram.key s.kaminoReserve = true := by
  obtain ⟨⟨_, slots⟩, accepted, hreserve, howner⟩ := AdapterDeposit.tryAccounts_ok h
  rw [slots] at hslot
  obtain rfl := Option.some.inj hslot
  obtain rfl := Option.some.inj (hstored.symm.trans accepted.state)
  rwa [hreserve] at howner

/-- Every call of an instruction that moves funds goes to the reserve's owner. -/
theorem entry_traced {data : Bytes} {ix : AdapterInstruction} {key : Pubkey} {s : AdapterState}
    (hdecode : AdapterInstruction.decode data = .ok ix) (hmoves : ix.movesFunds)
    (hslot : ctx.accounts[3]?.map (·.key) = some key)
    (hstored : w.state? AdapterState key = some s) :
    Exec.Leaves (Traced exec ctx ctx.Signer fun call =>
      w.ownedBy call.instruction.programId s.kaminoReserve = true)
      (entry curve exec ctx layout data) w := by
  refine Exec.Leaves.of_ofExcept hdecode ?_
  cases ix with
  | init => exact hmoves.elim
  | currentValue => exact hmoves.elim
  | deposit amount adapterData =>
    refine Exec.Leaves.bind_read ?_
    refine Exec.Leaves.bind_ofExcept fun accounts haccounts => ?_
    have howner := owner_of_accepted hslot hstored haccounts
    exact depositWith_traced (mintShares_traced (fun call hcall => by rw [hcall]; exact howner) _)
  | withdraw shares adapterData =>
    refine Exec.Leaves.bind_read ?_
    refine Exec.Leaves.bind_ofExcept fun accounts haccounts => ?_
    have howner := owner_of_accepted hslot hstored haccounts
    refine Exec.Leaves.bind_ofExcept fun _ _ => ?_
    exact withdrawWith_traced
      (redeemShares_traced (fun call hcall => by rw [hcall]; exact howner) _)

end KaminoUsdc

theorem bound_kaminoUsdc : Bound .kaminoUsdc := by
  intro curve layout exec ctx data ix w key s call _ hdecode hmoves hslot hstored hcall _
  have htraced : Exec.Leaves (Traced exec ctx ctx.Signer fun call =>
      w.fresh.ownedBy call.instruction.programId s.kaminoReserve = true)
      (KaminoUsdc.entry curve exec ctx layout data) w.fresh :=
    KaminoUsdc.entry_traced hdecode hmoves hslot hstored
  rcases htraced.recorded call hcall with hearlier | howner
  · simp at hearlier
  · exact howner

end Bound

/-! ### An impostor

A program that does nothing, in the protocol's slot of each adapter that accepts it. -/

namespace Impostor

def curve : Curve := fun _ _ bump => decide (bump = 255)

def layout : Layout ProgramState := ⟨fun _ => Vector.replicate 32 0, fun _ => []⟩

/-- The owner of the pinned accounts. -/
def protocol : Pubkey := .key 40

def impostor : Pubkey := .key 50

/-- The impostor's code. -/
def idle : Callee ProgramState Event := fun _ w => some w

def position : Pubkey := .key 60

def pool : Pubkey := .key 61

def shareAccount : Pubkey := .key 62

/-- The protocol account pinned in the state account. -/
def pinned : Pubkey := .key 41

def stake : Pubkey := .key 42

def stateKey (adapter : Adapter) : Pubkey :=
  .pda adapter.programId (adapterStateSeeds adapter.programId position) 255

def header (adapter : Adapter) : AdapterStateHeader := ⟨position, adapter.programId, 0, 0⟩

def token (amount : UInt64) : Account ProgramState :=
  ⟨tokenProgramId, false, .token ⟨.key 2, position, amount⟩⟩

/-- A position with 10 USDC in its pool, and the accounts of the protocol. -/
def chain (adapter : Adapter) (s : ProgramState) : Chain :=
  World.ofAccounts [(impostor, ⟨default, true, .raw []⟩),
    (stateKey adapter, ⟨adapter.programId, false, .anchor s⟩), (pool, token 10),
    (shareAccount, token 0), (pinned, ⟨protocol, false, .raw []⟩),
    (stake, ⟨protocol, false, .raw (List.replicate 56 0)⟩)]

def readonly (key : Pubkey) : AccountInfo := ⟨key, false, false⟩

def writable (key : Pubkey) : AccountInfo := ⟨key, false, true⟩

/-- A call from the dispatcher, with the position's signature. -/
def context (adapter : Adapter) (tail : List AccountInfo) : Context :=
  ⟨adapter.programId, [dispatcherId], ⟨[dispatcherId], 0⟩,
    [readonly sysvarInstructionsId, ⟨position, true, true⟩, writable pool,
      writable (stateKey adapter), readonly impostor] ++ tail⟩

/-- A deposit of 10 over the impostor. -/
def depositing (adapter : Adapter) (s : ProgramState) (tail : List AccountInfo) :
    Except Error Unit × Chain :=
  adapter.entry curve idle layout (context adapter tail) (encodeDeposit 10 [])
    (chain adapter s).fresh

theorem state?_chain {adapter : Adapter} (s : adapter.State) :
    (chain adapter (AnchorState.encode s)).state? adapter.State (stateKey adapter) = some s := by
  rw [World.state?_eq_some, Adapter.crateId_state]
  have hne : (stateKey adapter == impostor) = false := by simp [stateKey, impostor]
  exact ⟨false, by simp [chain, World.ofAccounts, List.lookup_cons, hne]⟩

/-- A deposit that calls the impostor with the position's signature refutes `Bound`. -/
theorem not_bound {adapter : Adapter} (s : adapter.State) (tail : List AccountInfo) {call : Call}
    (hcall : call ∈ (depositing adapter (AnchorState.encode s) tail).2.calls)
    (hsigned : (AdapterAccount.header s).position ∈ call.signers)
    (hother : (chain adapter (AnchorState.encode s)).ownedBy call.instruction.programId
      (adapter.pinned s) = false) : ¬ Bound adapter := by
  intro hbound
  have howner := hbound curve layout idle (context adapter tail) (encodeDeposit 10 []) _
    (chain adapter (AnchorState.encode s)) (stateKey adapter) s call rfl
    (decode_encodeDeposit 10 (by simp)) trivial rfl (state?_chain s) hcall hsigned
  simp [hother] at howner

def bankState (total : UInt64) : MarginfiUsdc.AdapterState where
  header := { header .marginfiUsdc with totalShares := total }
  marginfiGroup := .key 43
  marginfiAccount := .key 44
  bank := pinned
  bump := 255

/-- Group, account, bank, liquidity vault and Token program. -/
def bankTail : List AccountInfo :=
  [readonly (.key 43), writable (.key 44), writable pinned, writable (.key 45),
    readonly tokenProgramId]

def poolState : JupiterLp.AdapterState where
  header := header .jupiterLp
  pool := pinned
  custody := .key 43
  lpTokenAccount := shareAccount
  lpMint := .key 44
  bump := 255

def poolTail : List AccountInfo :=
  [readonly (.key 45), readonly (.key 46), writable pinned, writable (.key 43), readonly (.key 47),
    readonly (.key 48), writable (.key 49), writable (.key 44), writable shareAccount,
    readonly tokenProgramId, readonly (.key 51)]

def whirlpoolState : MapleSyrup.AdapterState where
  header := header .mapleSyrup
  whirlpool := pinned
  syrupTokenAccount := shareAccount
  bump := 255

def whirlpoolTail : List AccountInfo :=
  [writable pinned, writable shareAccount, writable (.key 43), writable (.key 44),
    writable (.key 45), writable (.key 46), writable (.key 47), writable (.key 48),
    readonly tokenProgramId]

def stakeState : DriftIf.AdapterState where
  header := header .driftIf
  spotMarket := pinned
  insuranceFundStake := stake
  userStats := .key 43
  bump := 255

def stakeTail : List AccountInfo :=
  [writable (.key 44), writable pinned, writable stake, writable (.key 43), writable (.key 45),
    writable (.key 46), readonly (.key 47), readonly tokenProgramId]

/-- The call that a deposit makes last, if it makes any. -/
def lastCall (outcome : Except Error Unit × Chain) : Call :=
  outcome.2.calls.headD ⟨⟨[], 0⟩, [], ⟨default, [], .bytes []⟩⟩

theorem not_bound_marginfiUsdc : ¬ Bound .marginfiUsdc :=
  @not_bound .marginfiUsdc (bankState 0) bankTail
    (lastCall (depositing .marginfiUsdc (.marginfiUsdc (bankState 0)) bankTail))
    (by decide +kernel) (by decide +kernel) (by decide +kernel)

theorem not_bound_jupiterLp : ¬ Bound .jupiterLp :=
  @not_bound .jupiterLp poolState poolTail
    (lastCall (depositing .jupiterLp (.jupiterLp poolState) poolTail))
    (by decide +kernel) (by decide +kernel) (by decide +kernel)

theorem not_bound_mapleSyrup : ¬ Bound .mapleSyrup :=
  @not_bound .mapleSyrup whirlpoolState whirlpoolTail
    (lastCall (depositing .mapleSyrup (.mapleSyrup whirlpoolState) whirlpoolTail))
    (by decide +kernel) (by decide +kernel) (by decide +kernel)

theorem not_bound_driftIf : ¬ Bound .driftIf :=
  @not_bound .driftIf stakeState stakeTail
    (lastCall (depositing .driftIf (.driftIf stakeState) stakeTail))
    (by decide +kernel) (by decide +kernel) (by decide +kernel)

end Impostor

section Binding

open Impostor

/-- MarginFi's deposit through the impostor completes and books 10 shares, while the pool
keeps its 10 USDC. The program it called with the position's signature does not own the
pinned bank. -/
theorem marginfi_deposit_through_impostor :
    (depositing .marginfiUsdc (.marginfiUsdc (bankState 0)) bankTail).1 = .ok () ∧
    (depositing .marginfiUsdc (.marginfiUsdc (bankState 0)) bankTail).2.state?
      MarginfiUsdc.AdapterState (stateKey .marginfiUsdc) = some (bankState 10) ∧
    ((depositing .marginfiUsdc (.marginfiUsdc (bankState 0)) bankTail).2.token? pool).map
      (·.amount) = some 10 ∧
    (depositing .marginfiUsdc (.marginfiUsdc (bankState 0)) bankTail).2.calls.map
      (fun call => (call.instruction.programId, decide (position ∈ call.signers))) =
        [(impostor, true)] ∧
    (chain .marginfiUsdc (.marginfiUsdc (bankState 0))).ownedBy impostor pinned = false := by
  decide +kernel

/-- Only Kamino binds the program it calls to the protocol account it pinned. -/
theorem bound_iff (adapter : Adapter) : Bound adapter ↔ adapter = .kaminoUsdc := by
  constructor
  · intro h
    cases adapter with
    | kaminoUsdc => rfl
    | marginfiUsdc => exact absurd h not_bound_marginfiUsdc
    | jupiterLp => exact absurd h not_bound_jupiterLp
    | mapleSyrup => exact absurd h not_bound_mapleSyrup
    | driftIf => exact absurd h not_bound_driftIf
  · rintro rfl
    exact bound_kaminoUsdc

end Binding

end YieldAdapter

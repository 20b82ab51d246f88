import YieldAdapter.Adapter.Valuation
import YieldAdapter.Dispatcher.Shares

/-!
# Who decides what a position is worth

A read of a position's value is unsigned and its account list is the caller's. In every
chain a run reaches there is one state account for a position, and four adapters read
the value from accounts pinned in it. Drift reads the balance of its fund's vault from
whatever account it is handed.
-/

set_option autoImplicit false

namespace YieldAdapter.Dispatcher

open Solana

/-- Handed `accounts` in `w`, the adapter completes a read of the value of `position`: it
returns `v` and leaves `w'`. -/
def Answers (curve : Curve) (layout : Layout ProgramState) (adapter : Adapter) (w : Chain)
    (position : Pubkey) (accounts : List AccountInfo) (v : UInt64) (w' : Chain) : Prop :=
  ∃ (exec : Callee ProgramState Event) (ctx : Context) (data adapterData : Bytes),
    ctx.programId = adapter.programId ∧ ctx.accounts = accounts ∧
    accounts[1]?.map (·.key) = some position ∧
    AdapterInstruction.decode data = .ok (.currentValue adapterData) ∧
    adapter.entry curve exec layout ctx data w = (.ok (), w') ∧
    w'.returnData = (adapter.programId, leBytes64 v)

/-- The reserve of a Kamino position holds the same in both worlds. -/
def SameReserve (layout : Layout ProgramState) (w : Chain) (position : Pubkey) (w₁ w₂ : Chain) :
    Prop :=
  ∀ key (s : KaminoUsdc.AdapterState), w.state? KaminoUsdc.AdapterState key = some s →
    s.header.position = position →
      w₁.bytes layout s.kaminoReserve = w₂.bytes layout s.kaminoReserve

/-- In every chain a run reaches, all account lists for a position give one value. For
Kamino the reserve is to hold the same after either list's refresh. -/
def Unforgeable (adapter : Adapter) : Prop :=
  ∀ (curve : Curve) (layout : Layout ProgramState) (past : List (Chain × Option Request))
    (w : Chain), SuiteRun curve layout Untouched past w →
      ∀ position accounts₁ accounts₂ v₁ v₂ w₁ w₂,
        Answers curve layout adapter w position accounts₁ v₁ w₁ →
          Answers curve layout adapter w position accounts₂ v₂ w₂ →
            (adapter = .kaminoUsdc → SameReserve layout w position w₁ w₂) → v₁ = v₂

/-- In every chain a run reaches, all account lists for a position that name the same account
sixth give one value. -/
def VaultDetermines (adapter : Adapter) : Prop :=
  ∀ (curve : Curve) (layout : Layout ProgramState) (past : List (Chain × Option Request))
    (w : Chain), SuiteRun curve layout Untouched past w →
      ∀ position accounts₁ accounts₂ v₁ v₂ w₁ w₂,
        Answers curve layout adapter w position accounts₁ v₁ w₁ →
          Answers curve layout adapter w position accounts₂ v₂ w₂ →
            (adapter = .kaminoUsdc → SameReserve layout w position w₁ w₂) →
              accounts₁[5]?.map (·.key) = accounts₂[5]?.map (·.key) → v₁ = v₂

section Values

variable {curve : Curve} {layout : Layout ProgramState} {adapter : Adapter}
variable {past : List (Chain × Option Request)} {w w₁ w₂ : Chain} {position : Pubkey}
variable {accounts₁ accounts₂ : List AccountInfo} {v₁ v₂ : UInt64}

/-- The price formulas look at the reserve, or at nothing that a read changes, or at the
vault they are handed. -/
theorem Adapter.value_congr {vault₁ vault₂ : Pubkey} {key : Pubkey} {s : adapter.State}
    (hstored : w.state? adapter.State key = some s)
    (hposition : (AdapterAccount.header s).position = position)
    (hreserve : adapter = .kaminoUsdc → SameReserve layout w position w₁ w₂)
    (haccounts : adapter ≠ .kaminoUsdc → w₁.accounts = w₂.accounts)
    (hvault : adapter = .driftIf → vault₁ = vault₂) :
    adapter.value layout w₁ vault₁ s = adapter.value layout w₂ vault₂ s := by
  cases adapter with
  | kaminoUsdc =>
    have hsame := hreserve rfl key s hstored hposition
    simp only [Adapter.value, KaminoUsdc.AdapterState.value, hsame]
  | marginfiUsdc =>
    simp only [Adapter.value, MarginfiUsdc.AdapterState.value,
      World.bytes_congr (haccounts (by simp))]
  | jupiterLp =>
    simp only [Adapter.value, JupiterLp.AdapterState.value, World.bytes_congr (haccounts (by simp))]
  | mapleSyrup =>
    simp only [Adapter.value, MapleSyrup.AdapterState.value,
      World.bytes_congr (haccounts (by simp))]
  | driftIf =>
    simp only [Adapter.value, DriftIf.AdapterState.value, World.bytes_congr (haccounts (by simp)),
      hvault rfl]

/-- A read that completes was handed the one state account of the position. -/
theorem canonical_of_reads (hcanonical : Canonical curve w) {ctx : Context} {w' : Chain}
    {key : Pubkey} {s : adapter.State} {v : UInt64}
    (h : Reads adapter.State curve ctx w w' key s v) :
    findProgramAddress curve adapter.programId
      (adapterStateSeeds adapter.programId (AdapterAccount.header s).position) =
        some (key, AdapterAccount.bump s) :=
  hcanonical.found adapter key s (state?_iff_typed?.mp h.stored)

/-- Two lists for a position give the same value, provided that for Drift they name the
same vault. -/
theorem value_determined (run : SuiteRun curve layout Untouched past w)
    (h₁ : Answers curve layout adapter w position accounts₁ v₁ w₁)
    (h₂ : Answers curve layout adapter w position accounts₂ v₂ w₂)
    (hreserve : adapter = .kaminoUsdc → SameReserve layout w position w₁ w₂)
    (hvault : adapter = .driftIf → accounts₁[5]?.map (·.key) = accounts₂[5]?.map (·.key)) :
    v₁ = v₂ := by
  obtain ⟨_, ctx₁, _, _, hprogram₁, rfl, hposition₁, hdecode₁, hrun₁, hreturned₁⟩ := h₁
  obtain ⟨_, ctx₂, _, _, hprogram₂, rfl, hposition₂, hdecode₂, hrun₂, hreturned₂⟩ := h₂
  obtain ⟨key₁, s₁, r₁, vault₁, hreads₁, hkept₁, hnamed₁, hvalue₁⟩ :=
    Adapter.reads_of_entry hdecode₁ hrun₁
  obtain ⟨key₂, s₂, r₂, vault₂, hreads₂, hkept₂, hnamed₂, hvalue₂⟩ :=
    Adapter.reads_of_entry hdecode₂ hrun₂
  have hbacks₁ := Option.some.inj (hreads₁.named.symm.trans hposition₁)
  have hbacks₂ := Option.some.inj (hreads₂.named.symm.trans hposition₂)
  -- both lists hold the position's canonical state account
  have hcanonical := (reported_of_run run).1
  have hfound₁ := canonical_of_reads hcanonical hreads₁
  have hfound₂ := canonical_of_reads hcanonical hreads₂
  rw [hbacks₁] at hfound₁
  rw [hbacks₂] at hfound₂
  obtain rfl := (Prod.mk.inj (Option.some.inj (hfound₁.symm.trans hfound₂))).1
  obtain rfl := Option.some.inj (hreads₁.stored.symm.trans hreads₂.stored)
  have hsame : adapter.value layout w₁ vault₁ s₁ = adapter.value layout w₂ vault₂ s₁ := by
    refine Adapter.value_congr hreads₁.stored hbacks₁ hreserve
      (fun hother => (hkept₁ hother).trans (hkept₂ hother).symm) fun hdrift => ?_
    exact Option.some.inj ((hnamed₁ hdrift).symm.trans ((hvault hdrift).trans (hnamed₂ hdrift)))
  have hpriced := Except.ok.inj (hvalue₁.symm.trans (hsame.trans hvalue₂))
  -- what is returned is what was priced
  have hr₁ := leBytes64_inj (Prod.mk.inj (hreads₁.returned.symm.trans hreturned₁)).2
  have hr₂ := leBytes64_inj (Prod.mk.inj (hreads₂.returned.symm.trans hreturned₂)).2
  rw [← hr₁, ← hr₂, hpriced]

end Values

/-! ### A forged value -/

namespace Sample

/-- The stake of 6 shares that `unstaked` leaves, read with `vault` as the fund's vault. -/
def readAccounts (vault : Pubkey) : List AccountInfo :=
  [readonly sysvarInstructionsId, readonly (positionKey DriftIf.programId),
    readonly (stateKey DriftIf.programId), readonly stake, readonly spotMarket, readonly vault]

def reading (vault : Pubkey) : Except Error Unit × Chain :=
  Adapter.driftIf.entry curve insure layout
    ⟨DriftIf.programId, [dispatcherId], ⟨[dispatcherId], 0⟩, readAccounts vault⟩
    (encodeCurrentValue []) (unstaked 100 100 10 4)

private theorem eq_of_done {outcome : Except Error Unit × Chain} (h : outcome.1 = .ok ()) :
    outcome = (.ok (), outcome.2) := Prod.ext h rfl

theorem answers_of_reading {vault : Pubkey} {v : UInt64} (hdone : (reading vault).1 = .ok ())
    (hreturned : (reading vault).2.returnData = (DriftIf.programId, leBytes64 v)) :
    Answers curve layout .driftIf (unstaked 100 100 10 4) (positionKey DriftIf.programId)
      (readAccounts vault) v (reading vault).2 := by
  refine ⟨insure, ⟨DriftIf.programId, [dispatcherId], ⟨[dispatcherId], 0⟩, readAccounts vault⟩,
    encodeCurrentValue [], [], rfl, rfl, rfl, decode_encodeCurrentValue (by simp), ?_, hreturned⟩
  exact eq_of_done hdone

end Sample

section Forgery

open Sample

/-- The staker's shares are worth 6 with the fund's vault, and 5 with the staker's own
token account in its place. The dispatcher hands on either. -/
theorem drift_value_forged :
    SuiteRun curve layout Untouched (stakerPast 100 100 10 4) (unstaked 100 100 10 4) ∧
    Answers curve layout .driftIf (unstaked 100 100 10 4) (positionKey DriftIf.programId)
      (readAccounts ifVault) 6 (reading ifVault).2 ∧
    Answers curve layout .driftIf (unstaked 100 100 10 4) (positionKey DriftIf.programId)
      (readAccounts aliceAta) 5 (reading aliceAta).2 ∧
    ((valuing 34).apply curve (unstaked 100 100 10 4)).returnData =
      (dispatcherId, leBytes64 6) ∧
    ((valuing 3).apply curve (unstaked 100 100 10 4)).returnData =
      (dispatcherId, leBytes64 5) :=
  ⟨staker_run 100 100 10 4, answers_of_reading (by decide +kernel) (by decide +kernel),
    answers_of_reading (by decide +kernel) (by decide +kernel), by decide +kernel,
    by decide +kernel⟩

/-- The caller of a read cannot influence the value, except in the Drift adapter, and there
by nothing but the account handed as the fund's vault. -/
theorem unforgeable_iff (adapter : Adapter) :
    (Unforgeable adapter ↔ adapter ≠ .driftIf) ∧ VaultDetermines adapter := by
  refine ⟨⟨?_, ?_⟩, ?_⟩
  · rintro h rfl
    have hforged : (6 : UInt64) = 5 := by
      refine h curve layout _ _ (staker_run 100 100 10 4) (positionKey DriftIf.programId)
        (readAccounts ifVault) (readAccounts aliceAta) 6 5 _ _
        (answers_of_reading (by decide +kernel) (by decide +kernel))
        (answers_of_reading (by decide +kernel) (by decide +kernel)) (by simp)
    exact absurd hforged (by decide)
  · intro hother curve layout past w run position accounts₁ accounts₂ v₁ v₂ w₁ w₂ h₁ h₂ hreserve
    exact value_determined run h₁ h₂ hreserve fun hdrift => absurd hdrift hother
  · intro curve layout past w run position accounts₁ accounts₂ v₁ v₂ w₁ w₂ h₁ h₂ hreserve hvault
    exact value_determined run h₁ h₂ hreserve fun _ => hvault

end Forgery

end YieldAdapter.Dispatcher

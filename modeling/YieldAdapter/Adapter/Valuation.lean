import YieldAdapter.Adapter.Effects

/-!
# What the value of a position is read from

A completed `adapter_current_value` returns what the adapter's price formula gives on
the accounts pinned in the state account, read from the world it leaves. Kamino's call
refreshes the reserve before it is read; the other adapters change no account. Drift
pins no fund vault, so its formula also takes the vault that the caller supplied.
-/

set_option autoImplicit false

namespace YieldAdapter

open Solana

section Values

variable (layout : Layout ProgramState) (w : Chain)

/-- The tracked shares, priced on the reserve. -/
def KaminoUsdc.AdapterState.value (s : KaminoUsdc.AdapterState) : Except Error UInt64 :=
  KaminoUsdc.collateralValueUsdc (w.bytes layout s.kaminoReserve) s.header.totalShares

/-- The MarginFi account's balance in the bank, at the bank's share value. -/
def MarginfiUsdc.AdapterState.value (s : MarginfiUsdc.AdapterState) : Except Error UInt64 := do
  let shares ← MarginfiUsdc.accountAssetShares (w.bytes layout s.marginfiAccount)
    (layout.key s.bank).toList
  let shareValue ← MarginfiUsdc.bankAssetShareValue (w.bytes layout s.bank)
  MarginfiUsdc.sharesToUsdc shares shareValue

/-- The JLP that the account holds, at the pool's price. -/
def JupiterLp.AdapterState.value (s : JupiterLp.AdapterState) : Except Error UInt64 := do
  let lpBalance ← JupiterLp.tokenAmount (w.bytes layout s.lpTokenAccount)
  JupiterLp.lpValueUsdc (w.bytes layout s.pool) (w.bytes layout s.lpMint) lpBalance

/-- The syrupUSDC that the account holds, at the whirlpool's price. -/
def MapleSyrup.AdapterState.value (s : MapleSyrup.AdapterState) : Except Error UInt64 := do
  let balance ← MapleSyrup.tokenAmount (w.bytes layout s.syrupTokenAccount)
  MapleSyrup.whirlpoolValueUsdc (w.bytes layout s.whirlpool) balance

/-- The stake's part of the balance in `vault`. -/
def DriftIf.AdapterState.value (vault : Pubkey) (s : DriftIf.AdapterState) : Except Error UInt64 :=
  DriftIf.stakeValueUsdc (w.bytes layout s.insuranceFundStake) (w.bytes layout s.spotMarket)
    (w.bytes layout vault)

/-- What an adapter reports for the position that a state account backs, when `vault`
stands in the sixth slot. Only Drift looks at it. -/
def Adapter.value (vault : Pubkey) : (adapter : Adapter) → adapter.State → Except Error UInt64
  | .kaminoUsdc, s => KaminoUsdc.AdapterState.value layout w s
  | .marginfiUsdc, s => MarginfiUsdc.AdapterState.value layout w s
  | .jupiterLp, s => JupiterLp.AdapterState.value layout w s
  | .mapleSyrup, s => MapleSyrup.AdapterState.value layout w s
  | .driftIf, s => DriftIf.AdapterState.value layout w vault s

/-- The number of shares that a value is computed from, in the adapters with a share vault:
Kamino prices the ledger, the other two what their token account holds. -/
def Adapter.Prices : (adapter : Adapter) → adapter.State → UInt64 → Prop
  | .kaminoUsdc, s, n => n = (KaminoUsdc.AdapterState.header s).totalShares
  | .jupiterLp, s, n =>
      JupiterLp.tokenAmount (w.bytes layout (JupiterLp.AdapterState.lpTokenAccount s)) = .ok n
  | .mapleSyrup, s, n =>
      MapleSyrup.tokenAmount (w.bytes layout (MapleSyrup.AdapterState.syrupTokenAccount s)) = .ok n
  | .marginfiUsdc, _, _ => False
  | .driftIf, _, _ => False

end Values

section Tokens

variable {layout : Layout ProgramState} {w : Chain} {vault : Pubkey} {t : TokenAccount}

/-- The amount is the third field of a token account. -/
theorem readField_amount (h : w.token? vault = some t) :
    readField 8 (w.bytes layout vault) 64 = .ok t.amount.toNat := by
  obtain ⟨executable, hstored⟩ := World.token?_eq_some.mp h
  have hbytes : w.bytes layout vault = (AccountData.token t).bytes layout := by
    simp [World.bytes, hstored]
  rw [hbytes, readField_ok]
  constructor
  · simp [AccountData.bytes]
  · have hskip : ((layout.key t.mint).toList ++ (layout.key t.authority).toList).length = 64 := by
      simp
    simp only [leAt, AccountData.bytes, List.append_assoc] at hskip ⊢
    rw [← List.append_assoc, List.drop_left' hskip, List.take_left' (leBytes64_length _),
      leNat_leBytes64]

theorem tokenAmount_of_token? (h : w.token? vault = some t) :
    JupiterLp.tokenAmount (w.bytes layout vault) = .ok t.amount ∧
      MapleSyrup.tokenAmount (w.bytes layout vault) = .ok t.amount := by
  have hread := @readField_amount layout w vault t h
  constructor
  · unfold JupiterLp.tokenAmount JupiterLp.readU64 JupiterLp.tokenAmountOff
    rw [hread, except_ok_bind, UInt64.ofNat_toNat]
    rfl
  · unfold MapleSyrup.tokenAmount MapleSyrup.tokenAmountOff
    rw [hread, except_ok_bind, UInt64.ofNat_toNat]
    rfl

/-- No shares are worth nothing. -/
theorem Adapter.value_of_prices_zero {adapter : Adapter} {s : adapter.State} {other : Pubkey}
    (hbalance : adapter = .jupiterLp ∨ adapter = .mapleSyrup) (h : adapter.Prices layout w s 0) :
    adapter.value layout w other s = .ok 0 := by
  rcases hbalance with rfl | rfl
  · simp only [Adapter.value, JupiterLp.AdapterState.value]
    rw [show JupiterLp.tokenAmount _ = _ from h, except_ok_bind]
    rfl
  · simp only [Adapter.value, MapleSyrup.AdapterState.value]
    rw [show MapleSyrup.tokenAmount _ = _ from h, except_ok_bind]
    rfl

end Tokens

/-! ### Completed reads -/

/-- A completed read of the position that `s` at `key` backs returned `value`. -/
structure Reads (τ : Type) [AdapterAccount τ] (curve : Curve) (ctx : Context) (w w' : Chain)
    (key : Pubkey) (s : τ) (v : UInt64) : Prop where
  stored : w.state? τ key = some s
  named : ctx.accounts[1]?.map (·.key) = some (AdapterAccount.header s).position
  seeds : createProgramAddress curve ctx.programId
    (adapterStateSeeds (crateId τ) (AdapterAccount.header s).position) (AdapterAccount.bump s) =
      some key
  returned : w'.returnData = (ctx.programId, leBytes64 v)

section Reads

variable {τ : Type} [AdapterAccount τ] {curve : Curve} {layout : Layout ProgramState}
variable {exec : Callee ProgramState Event} {ctx : Context} {w w' : Chain} {data : Bytes}

/-- What `reportValueWith` returns is what was priced, in the world the pricing left. -/
theorem reads_of_report {accounts : ValuePrefix τ} {tail : List AccountInfo}
    {price : Exec Chain (UInt64 × UInt64)}
    (slots : ctx.accounts = accounts.instructionsSysvar :: accounts.position ::
      accounts.adapterState.info :: tail)
    (accepted : accounts.Accepted curve ctx w)
    (h : reportValueWith ctx accounts data price w = (.ok (), w')) :
    ∃ v asOfSlot w₁, price w = (.ok (v, asOfSlot), w₁) ∧ w'.accounts = w₁.accounts ∧
      Reads τ curve ctx w w' accounts.adapterState.key accounts.adapterState.data v := by
  obtain ⟨-, v, asOfSlot, w₁, hprice, rfl⟩ := reportValueWith_ok h
  refine ⟨v, asOfSlot, w₁, hprice, rfl, accepted.state, ?_, ?_, rfl⟩
  · rw [slots, accepted.position]
    rfl
  · rw [accepted.position]
    exact accepted.seeds

/-- The bytes of an account depend on the accounts only. -/
theorem KaminoUsdc.reads_of_currentValue
    (h : KaminoUsdc.adapterCurrentValue curve exec ctx layout data w = (.ok (), w')) :
    ∃ key s v, Reads KaminoUsdc.AdapterState curve ctx w w' key s v ∧
      s.value layout w' = .ok v := by
  simp only [KaminoUsdc.adapterCurrentValue, Exec.bind_ok, Exec.read_ok, Exec.ofExcept_ok] at h
  obtain ⟨_, _, ⟨rfl, rfl⟩, accounts, _, ⟨haccounts, rfl⟩, hrun⟩ := h
  obtain ⟨⟨_, slots⟩, accepted, hreserve, -⟩ :=
    KaminoUsdc.AdapterCurrentValue.tryAccounts_ok haccounts
  obtain ⟨v, slot, w₁, hprice, hsame, hreads⟩ := reads_of_report slots accepted hrun
  refine ⟨_, _, v, hreads, ?_⟩
  simp only [KaminoUsdc.priceShares, Exec.bind_ok, Exec.read_ok, Exec.ofExcept_ok,
    Exec.pure_ok, Prod.mk.injEq] at hprice
  obtain ⟨_, w₂, -, _, _, ⟨rfl, rfl⟩, value, _, ⟨hvalue, rfl⟩, _, _, ⟨-, rfl⟩, ⟨rfl, -⟩, rfl⟩ :=
    hprice
  unfold KaminoUsdc.AdapterState.value
  rw [World.bytes_congr hsame, ← hreserve]
  exact hvalue

theorem MarginfiUsdc.reads_of_currentValue
    (h : MarginfiUsdc.adapterCurrentValue curve ctx layout data w = (.ok (), w')) :
    ∃ key s v, Reads MarginfiUsdc.AdapterState curve ctx w w' key s v ∧
      w'.accounts = w.accounts ∧ s.value layout w' = .ok v := by
  simp only [MarginfiUsdc.adapterCurrentValue, Exec.bind_ok, Exec.read_ok, Exec.ofExcept_ok] at h
  obtain ⟨_, _, ⟨rfl, rfl⟩, accounts, _, ⟨haccounts, rfl⟩, hrun⟩ := h
  obtain ⟨⟨_, slots⟩, accepted, haccount, hbank⟩ :=
    MarginfiUsdc.AdapterCurrentValue.tryAccounts_ok haccounts
  obtain ⟨v, slot, w₁, hprice, hsame, hreads⟩ := reads_of_report slots accepted hrun
  simp only [MarginfiUsdc.priceShares, Exec.bind_ok, Exec.read_ok, Exec.ofExcept_ok,
    Exec.pure_ok, Prod.mk.injEq] at hprice
  obtain ⟨_, _, ⟨rfl, rfl⟩, shares, _, ⟨hshares, rfl⟩, shareValue, _, ⟨hshareValue, rfl⟩, value, _,
    ⟨hvalue, rfl⟩, ⟨rfl, -⟩, rfl⟩ := hprice
  refine ⟨_, _, v, hreads, hsame, ?_⟩
  simp only [MarginfiUsdc.AdapterState.value, except_bind_ok, World.bytes_congr hsame]
  exact ⟨shares, haccount ▸ hshares, shareValue, hbank ▸ hshareValue, hvalue⟩

theorem JupiterLp.reads_of_currentValue
    (h : JupiterLp.adapterCurrentValue curve ctx layout data w = (.ok (), w')) :
    ∃ key s v, Reads JupiterLp.AdapterState curve ctx w w' key s v ∧
      w'.accounts = w.accounts ∧ s.value layout w' = .ok v := by
  simp only [JupiterLp.adapterCurrentValue, Exec.bind_ok, Exec.read_ok, Exec.ofExcept_ok] at h
  obtain ⟨_, _, ⟨rfl, rfl⟩, accounts, _, ⟨haccounts, rfl⟩, hrun⟩ := h
  obtain ⟨⟨_, slots⟩, accepted, hlp, hpool, hmint⟩ :=
    JupiterLp.AdapterCurrentValue.tryAccounts_ok haccounts
  obtain ⟨v, slot, w₁, hprice, hsame, hreads⟩ := reads_of_report slots accepted hrun
  simp only [JupiterLp.priceShares, Exec.bind_ok, Exec.read_ok, Exec.ofExcept_ok,
    Exec.pure_ok, Prod.mk.injEq] at hprice
  obtain ⟨_, _, ⟨rfl, rfl⟩, balance, _, ⟨hbalance, rfl⟩, value, _, ⟨hvalue, rfl⟩, ⟨rfl, -⟩, rfl⟩ :=
    hprice
  refine ⟨_, _, v, hreads, hsame, ?_⟩
  simp only [JupiterLp.AdapterState.value, except_bind_ok, World.bytes_congr hsame]
  exact ⟨balance, hlp ▸ hbalance, by rw [← hpool, ← hmint]; exact hvalue⟩

theorem MapleSyrup.reads_of_currentValue
    (h : MapleSyrup.adapterCurrentValue curve ctx layout data w = (.ok (), w')) :
    ∃ key s v, Reads MapleSyrup.AdapterState curve ctx w w' key s v ∧
      w'.accounts = w.accounts ∧ s.value layout w' = .ok v := by
  simp only [MapleSyrup.adapterCurrentValue, Exec.bind_ok, Exec.read_ok, Exec.ofExcept_ok] at h
  obtain ⟨_, _, ⟨rfl, rfl⟩, accounts, _, ⟨haccounts, rfl⟩, hrun⟩ := h
  obtain ⟨⟨_, slots⟩, accepted, hsyrup, hwhirlpool⟩ :=
    MapleSyrup.AdapterCurrentValue.tryAccounts_ok haccounts
  obtain ⟨v, slot, w₁, hprice, hsame, hreads⟩ := reads_of_report slots accepted hrun
  simp only [MapleSyrup.priceShares, Exec.bind_ok, Exec.read_ok, Exec.ofExcept_ok,
    Exec.pure_ok, Prod.mk.injEq] at hprice
  obtain ⟨_, _, ⟨rfl, rfl⟩, balance, _, ⟨hbalance, rfl⟩, value, _, ⟨hvalue, rfl⟩, ⟨rfl, -⟩, rfl⟩ :=
    hprice
  refine ⟨_, _, v, hreads, hsame, ?_⟩
  simp only [MapleSyrup.AdapterState.value, except_bind_ok, World.bytes_congr hsame]
  exact ⟨balance, hsyrup ▸ hbalance, hwhirlpool ▸ hvalue⟩

/-- The vault is the sixth account of the list, and nothing else is known of it. -/
theorem DriftIf.reads_of_currentValue
    (h : DriftIf.adapterCurrentValue curve ctx layout data w = (.ok (), w')) :
    ∃ key s v vault, Reads DriftIf.AdapterState curve ctx w w' key s v ∧
      w'.accounts = w.accounts ∧ ctx.accounts[5]?.map (·.key) = some vault ∧
        s.value layout w' vault = .ok v := by
  simp only [DriftIf.adapterCurrentValue, Exec.bind_ok, Exec.read_ok, Exec.ofExcept_ok] at h
  obtain ⟨_, _, ⟨rfl, rfl⟩, accounts, _, ⟨haccounts, rfl⟩, hrun⟩ := h
  have hvault := DriftIf.AdapterCurrentValue.vault_of_tryAccounts haccounts
  obtain ⟨⟨_, slots⟩, accepted, hstake, hmarket⟩ :=
    DriftIf.AdapterCurrentValue.tryAccounts_ok haccounts
  obtain ⟨v, slot, w₁, hprice, hsame, hreads⟩ := reads_of_report slots accepted hrun
  simp only [DriftIf.priceShares, Exec.bind_ok, Exec.read_ok, Exec.ofExcept_ok,
    Exec.pure_ok, Prod.mk.injEq] at hprice
  obtain ⟨_, _, ⟨rfl, rfl⟩, value, _, ⟨hvalue, rfl⟩, ⟨rfl, -⟩, rfl⟩ := hprice
  refine ⟨_, _, v, _, hreads, hsame, hvault, ?_⟩
  simp only [DriftIf.AdapterState.value, World.bytes_congr hsame, ← hstake, ← hmarket]
  exact hvalue

end Reads

/-- Every completed read returned what the adapter's formula gives in the world it left.
Outside Kamino that world has the accounts it started with. -/
theorem Adapter.reads_of_entry {adapter : Adapter} {curve : Curve} {layout : Layout ProgramState}
    {exec : Callee ProgramState Event} {ctx : Context} {w w' : Chain} {data adapterData : Bytes}
    (hdecode : AdapterInstruction.decode data = .ok (.currentValue adapterData))
    (h : adapter.entry curve exec layout ctx data w = (.ok (), w')) :
    ∃ key s v vault, Reads adapter.State curve ctx w w' key s v ∧
      (adapter ≠ .kaminoUsdc → w'.accounts = w.accounts) ∧
      (adapter = .driftIf → ctx.accounts[5]?.map (·.key) = some vault) ∧
      adapter.value layout w' vault s = .ok v := by
  cases adapter with
  | kaminoUsdc =>
    have hrun := Exec.run_of_ofExcept hdecode h
    obtain ⟨key, s, v, hreads, hvalue⟩ := KaminoUsdc.reads_of_currentValue hrun
    exact ⟨key, s, v, default, hreads, by simp, by simp, hvalue⟩
  | marginfiUsdc =>
    have hrun := Exec.run_of_ofExcept hdecode h
    obtain ⟨key, s, v, hreads, haccounts, hvalue⟩ := MarginfiUsdc.reads_of_currentValue hrun
    exact ⟨key, s, v, default, hreads, fun _ => haccounts, by simp, hvalue⟩
  | jupiterLp =>
    have hrun := Exec.run_of_ofExcept hdecode h
    obtain ⟨key, s, v, hreads, haccounts, hvalue⟩ := JupiterLp.reads_of_currentValue hrun
    exact ⟨key, s, v, default, hreads, fun _ => haccounts, by simp, hvalue⟩
  | mapleSyrup =>
    have hrun := Exec.run_of_ofExcept hdecode h
    obtain ⟨key, s, v, hreads, haccounts, hvalue⟩ := MapleSyrup.reads_of_currentValue hrun
    exact ⟨key, s, v, default, hreads, fun _ => haccounts, by simp, hvalue⟩
  | driftIf =>
    have hrun := Exec.run_of_ofExcept hdecode h
    obtain ⟨key, s, v, vault, hreads, haccounts, hvault, hvalue⟩ :=
      DriftIf.reads_of_currentValue hrun
    exact ⟨key, s, v, vault, hreads, fun _ => haccounts, fun _ => hvault, hvalue⟩

end YieldAdapter

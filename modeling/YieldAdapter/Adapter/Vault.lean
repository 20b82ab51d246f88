import YieldAdapter.Adapter.Binding
import YieldAdapter.Adapter.Creation

/-!
# Where the adapters keep a position's shares

Kamino, Jupiter and Maple hold the shares of a position in a token account of the
position's own, its share vault. The vault is created with the state account that pins
it, a deposit books what the vault gained, and only the call that redeems shares may
take any out. MarginFi and Drift keep their shares inside the protocol.
-/

set_option autoImplicit false

namespace YieldAdapter

open Solana

/-- The position's share vault, where the adapter uses one. -/
def Adapter.shareVault : (adapter : Adapter) → adapter.State → Option Pubkey
  | .kaminoUsdc, s => some (KaminoUsdc.AdapterState.collateralVault s)
  | .jupiterLp, s => some (JupiterLp.AdapterState.lpTokenAccount s)
  | .mapleSyrup, s => some (MapleSyrup.AdapterState.syrupTokenAccount s)
  | .marginfiUsdc, _ => none
  | .driftIf, _ => none

/-- The instruction by which the adapter has its protocol redeem `shares` out of `vault`:
`redeem_reserve_collateral`, `remove_liquidity2`, and a swap of token A for token B. -/
def Adapter.Redeems : Adapter → Instruction → Pubkey → UInt64 → Prop
  | .kaminoUsdc, instruction, vault, shares =>
      instruction.data = .bytes (KaminoUsdc.klendRedeemReserveCollateral ++ leBytes64 shares) ∧
        instruction.accounts[7]?.map (·.pubkey) = some vault
  | .jupiterLp, instruction, vault, shares =>
      instruction.data =
        .bytes (JupiterLp.jupRemoveLiquidity2 ++ leBytes64 shares ++ leBytes64 0) ∧
        instruction.accounts[2]?.map (·.pubkey) = some vault
  | .mapleSyrup, instruction, vault, shares =>
      instruction.data = .bytes (MapleSyrup.orcaSwap ++ leBytes64 shares ++ leBytes64 0 ++
        leBytes 16 MapleSyrup.minSqrtPrice ++ [1, 1]) ∧
        instruction.accounts[3]?.map (·.pubkey) = some vault
  | .marginfiUsdc, _, _, _ => False
  | .driftIf, _, _, _ => False

/-- What the call redeems, if it redeems anything, is at most `limit` out of `vault`. -/
def Adapter.AsksWithin (adapter : Adapter) (vault : Pubkey) (limit : UInt64) (call : Call) : Prop :=
  ∀ other shares, adapter.Redeems call.instruction other shares → other = vault ∧ shares ≤ limit

/-! ### What is relied on of the protocols -/

/-- A redemption takes no more than the shares asked for out of the vault. -/
def AtMost (shares before after : Nat) : Prop := before ≤ after + shares

/-- A redemption takes the shares asked for out of the vault, and no others. -/
def Exactly (shares before after : Nat) : Prop := before = after + shares

/-- No token account that is there after a call has been given another authority. -/
def Vested (exec : Callee ProgramState Event) : Prop :=
  ∀ call w w' key t t', exec call w = some w' → w.token? key = some t →
    w'.token? key = some t' → t'.authority = t.authority

/-- The redemptions that `adapter` asks for change the vault's balance as `taking` allows. -/
def Redeeming (adapter : Adapter) (taking : Nat → Nat → Nat → Prop)
    (exec : Callee ProgramState Event) : Prop :=
  ∀ call vault shares w w' t, call.stack.getLast? = some adapter.programId →
    adapter.Redeems call.instruction vault shares → exec call w = some w' →
      w.token? vault = some t → ∃ t', w'.token? vault = some t' ∧
        taking shares.toNat t.amount.toNat t'.amount.toNat

/-- Protocols that leave this repository's accounts alone, whose transfers are the Token
program's, that reassign no token account, and that redeem as `taking` allows. -/
structure Trustee (adapter : Adapter) (taking : Nat → Nat → Nat → Prop)
    (protocol : Callee ProgramState Event) : Prop where
  lawful : Lawful Suite protocol
  transfers : Transfers protocol
  vested : Vested protocol
  redeeming : Redeeming adapter taking protocol

theorem Trustee.mono {adapter : Adapter} {taking taking' : Nat → Nat → Nat → Prop}
    {protocol : Callee ProgramState Event} (h : Trustee adapter taking protocol)
    (himplies : ∀ shares before after, taking shares before after → taking' shares before after) :
    Trustee adapter taking' protocol where
  lawful := h.lawful
  transfers := h.transfers
  vested := h.vested
  redeeming call vault shares w w' t hissuer hredeems hrun ht := by
    obtain ⟨t', ht', htaken⟩ := h.redeeming call vault shares w w' t hissuer hredeems hrun ht
    exact ⟨t', ht', himplies _ _ _ htaken⟩

/-! ### What an instruction does to the vault -/

/-- A completed `adapter_initialize` stored `s` at `key` and created `vault` for it. -/
structure Opens (τ : Type) [AdapterAccount τ] (curve : Curve) (ctx : Context) (w w' : Chain)
    (key vault : Pubkey) (s : τ) : Prop where
  named : ctx.accounts[1]?.map (·.key) = some (AdapterAccount.header s).position
  found : ∃ bump, findProgramAddress curve ctx.programId
    (adapterStateSeeds (crateId τ) (AdapterAccount.header s).position) = some (key, bump)
  stored : w'.state? τ key = some s
  empty : (AdapterAccount.header s).totalShares = 0
  address : ∃ mint bump, findProgramAddress curve associatedTokenProgramId
    (associatedTokenSeeds (AdapterAccount.header s).position mint) = some (vault, bump)
  apart : ∀ k t, w.token? k = some t → k ≠ vault
  created : ∃ mint, w'.token? vault = some ⟨mint, (AdapterAccount.header s).position, 0⟩

/-- The ledger of `s` was rewritten to `total`, and `t` in the vault became `t'`. -/
structure Rebooked (τ : Type) [AdapterAccount τ] (w' : Chain) (key vault : Pubkey) (s : τ)
    (t : TokenAccount) (total : UInt64) (t' : TokenAccount) : Prop where
  stored : w'.state? τ key = some (AdapterAccount.setTotalShares s total)
  holds : w'.token? vault = some t'
  authority : t'.authority = t.authority

section Shared

variable {τ : Type} [AdapterAccount τ] {curve : Curve} {exec : Callee ProgramState Event}
variable {ctx : Context} {w w' : Chain} {vault : Pubkey} {t : TokenAccount} {data : Bytes}

/-- A deposit books what the vault gained. -/
theorem rebooked_of_depositWith {accounts : FundPrefix τ} {amount : UInt64}
    {mint : Exec Chain UInt64} (hprogram : ctx.programId = crateId τ)
    (htoken : ctx.programId ≠ tokenProgramId)
    (hmint : ∀ minted w₁, mint w = (.ok minted, w₁) → ∃ t', w₁.token? vault = some t' ∧
      t'.authority = t.authority ∧ t'.amount.toNat = minted.toNat + t.amount.toNat)
    (h : depositWith ctx accounts amount data mint w = (.ok (), w')) :
    ∃ total t',
      Rebooked τ w' accounts.adapterState.key vault accounts.adapterState.data t total t' ∧
      total.toNat + t.amount.toNat =
        (AdapterAccount.header accounts.adapterState.data).totalShares.toNat +
          t'.amount.toNat := by
  obtain ⟨-, -, minted, total, w₁, hrun, hbooked, howned, rfl⟩ := depositWith_ok h
  obtain ⟨t', ht', hauthority, hgained⟩ := hmint minted w₁ hrun
  refine ⟨total, t', ⟨state?_bookedWorld hprogram, token?_bookedWorld howned htoken ht',
    hauthority⟩, ?_⟩
  omega

/-- A withdrawal books the shares asked for, whatever the protocol took. -/
theorem rebooked_of_withdrawWith {taken : TokenAccount → Prop} {accounts : FundPrefix τ}
    {shares : UInt64} {redeem : Exec Chain UInt64} (hprogram : ctx.programId = crateId τ)
    (htoken : ctx.programId ≠ tokenProgramId)
    (hredeem : ∀ amountOut w₁, redeem w = (.ok amountOut, w₁) → ∃ t', w₁.token? vault = some t' ∧
      t'.authority = t.authority ∧ taken t')
    (h : withdrawWith ctx accounts shares
      (checkedSub (AdapterAccount.header accounts.adapterState.data).totalShares shares) redeem w =
        (.ok (), w')) :
    ∃ total t',
      Rebooked τ w' accounts.adapterState.key vault accounts.adapterState.data t total t' ∧
      (AdapterAccount.header accounts.adapterState.data).totalShares.toNat =
        total.toNat + shares.toNat ∧ taken t' := by
  obtain ⟨amountOut, total, w₁, hrun, hremaining, howned, rfl⟩ := withdrawWith_ok h
  obtain ⟨t', ht', hauthority, htaken⟩ := hredeem amountOut w₁ hrun
  exact ⟨total, t', ⟨state?_bookedWorld hprogram, token?_bookedWorld howned htoken ht',
    hauthority⟩, checkedSub_eq_some.mp hremaining, htaken⟩

/-- An account that survives a call keeps its authority. -/
theorem authority_of_invoke (hvested : Vested exec) {instruction : Instruction}
    {onFailure : Error} {t' : TokenAccount}
    (h : invoke curve exec ctx instruction onFailure w = (.ok (), w'))
    (ht : w.token? vault = some t) (ht' : w'.token? vault = some t') :
    t'.authority = t.authority := by
  obtain ⟨_, w₁, -, -, hrun, rfl⟩ := invokeSigned_ok h
  exact hvested _ _ _ _ _ _ hrun ht ht'

/-- A redemption takes out of the vault what it may. -/
theorem taken_of_invoke {adapter : Adapter} {taking : Nat → Nat → Nat → Prop}
    (hredeeming : Redeeming adapter taking exec) {instruction : Instruction} {shares : UInt64}
    {onFailure : Error} (hprogram : ctx.programId = adapter.programId)
    (hredeems : adapter.Redeems instruction vault shares)
    (h : invoke curve exec ctx instruction onFailure w = (.ok (), w'))
    (ht : w.token? vault = some t) :
    ∃ t', w'.token? vault = some t' ∧ taking shares.toNat t.amount.toNat t'.amount.toNat := by
  obtain ⟨_, w₁, -, -, hrun, rfl⟩ := invokeSigned_ok h
  have hissuer : ctx.stack.getLast? = some adapter.programId := by simp [Context.stack, hprogram]
  obtain ⟨t', ht', htaken⟩ := hredeeming _ vault shares _ w₁ t hissuer hredeems hrun ht
  exact ⟨t', ht', htaken⟩

/-- The account created is empty, the position's, and none that was there before. -/
theorem opens_of_initializeWith {accounts : InitPrefix} {payer mint vaultInfo : AccountInfo}
    {tail : List AccountInfo} {state : AdapterStateHeader → τ} {w₀ w₁ : Chain}
    (hprogram : ctx.programId = crateId τ) (htoken : ctx.programId ≠ tokenProgramId)
    (slots : ctx.accounts = accounts.instructionsSysvar :: accounts.position ::
      accounts.adapterState :: tail)
    (hfound : findProgramAddress curve ctx.programId
      (adapterStateSeeds (crateId τ) accounts.position.key) =
        some (accounts.adapterState.key, accounts.bump))
    (hheader : ∀ header, AdapterAccount.header (state header) = header)
    (hbefore : Tenure w w₀)
    (hcreated : initAssociatedToken curve ctx payer accounts.position mint vaultInfo w₀ =
      (.ok (), w₁))
    (h : initializeWith ctx accounts data (pure ()) state w₁ = (.ok (), w')) :
    ∃ s : τ, Opens τ curve ctx w w' accounts.adapterState.key vaultInfo.key s ∧
      ∃ header, s = state header := by
  obtain ⟨⟨bump, haddress⟩, hvacant, rfl⟩ := initAssociatedToken_ok hcreated
  obtain ⟨-, w₂, hcall, howned, rfl⟩ := initializeWith_ok h
  obtain ⟨-, rfl⟩ := Exec.pure_ok.mp hcall
  refine ⟨_, ⟨by rw [slots, hheader]; rfl, ⟨_, by rw [hheader]; exact hfound⟩,
    World.state?_put_self hprogram, by rw [hheader],
    ⟨mint.key, bump, by rw [hheader]; exact haddress⟩, ?_, ⟨mint.key, ?_⟩⟩, _, rfl⟩
  · rintro k t ht rfl
    obtain ⟨t₀, ht₀, -, -⟩ := hbefore _ t ht
    rw [World.token?_of_vacant hvacant] at ht₀
    cases ht₀
  · have hne : vaultInfo.key ≠ accounts.adapterState.key := by
      intro hsame
      have hnone := World.token?_of_ownedBy howned htoken
      rw [← hsame] at hnone
      simp [World.token?] at hnone
    rw [World.token?_put_ne hne, hheader]
    simp [World.token?]

/-- The position named and its canonical address tell which account was opened. -/
theorem Opens.eq_of_found {position key k : Pubkey} {bump : UInt8} {s s' : τ}
    (h : Opens τ curve ctx w w' key vault s) (hprogram : ctx.programId = crateId τ)
    (hnamed : ctx.accounts[1]?.map (·.key) = some position)
    (hfound : findProgramAddress curve (crateId τ) (adapterStateSeeds (crateId τ) position) =
      some (k, bump))
    (hstored : w'.state? τ k = some s') : key = k ∧ s = s' := by
  obtain ⟨bump', hfound'⟩ := h.found
  have hposition := Option.some.inj (h.named.symm.trans hnamed)
  rw [hposition, hprogram, hfound] at hfound'
  obtain rfl := (Prod.mk.inj (Option.some.inj hfound')).1
  exact ⟨rfl, Option.some.inj (h.stored.symm.trans hstored)⟩

/-- The state account in the fourth slot is the one an accepted list was checked with. -/
theorem FundPrefix.Accepted.eq_of_slot {accounts : FundPrefix τ} {tail : List AccountInfo}
    {key : Pubkey} {s : τ} (accepted : accounts.Accepted curve ctx w)
    (slots : ctx.accounts = accounts.instructionsSysvar :: accounts.position ::
      accounts.positionUsdcPool.info :: accounts.adapterState.info :: tail)
    (hslot : ctx.accounts[3]?.map (·.key) = some key) (hstored : w.state? τ key = some s) :
    accounts.adapterState.key = key ∧ accounts.adapterState.data = s := by
  rw [slots] at hslot
  have hkey : accounts.adapterState.key = key := Option.some.inj hslot
  have hstate := accepted.state
  rw [hkey] at hstate
  exact ⟨hkey, Option.some.inj (hstate.symm.trans hstored)⟩

end Shared

section Adapters

variable {curve : Curve} {layout : Layout ProgramState} {protocol : Callee ProgramState Event}
variable {ctx : Context} {w w' : Chain} {taking : Nat → Nat → Nat → Prop}

namespace KaminoUsdc

variable {accounts : AdapterDeposit}

/-- The vault passed is the pinned one. -/
theorem vault_of_tryAccounts (h : AdapterDeposit.tryAccounts curve ctx w = .ok accounts) :
    accounts.collateralVault.key = accounts.adapterState.data.collateralVault ∧
      w.token? accounts.collateralVault.key = some accounts.collateralVault.data := by
  unfold AdapterDeposit.tryAccounts at h
  split at h
  · simp only [except_bind_ok, loadToken_ok, checkAddress_ok] at h
    obtain ⟨_, -, vault, ⟨rfl, hvault⟩, _, -, _, -, _, -, _, -, _, -, _, -, _, hkey, _, -, hpure⟩ :=
      h
    obtain rfl := Except.ok.inj hpure
    exact ⟨hkey, hvault⟩
  · simp [throw, throwThe, MonadExceptOf.throw] at h

/-- Refreshing the reserve carries no signature, so it can only add to a vault. -/
theorem refreshReserve_vault (hlawful : Lawful Suite protocol)
    {klendProgram reserve lendingMarket scopePrices : AccountInfo} {vault : Pubkey}
    {t : TokenAccount} (hlocked : ¬ SignedBelow ctx.stack t.authority)
    (h : refreshReserve curve protocol ctx klendProgram reserve lendingMarket scopePrices w =
      (.ok (), w'))
    (ht : w.token? vault = some t) :
    ∃ t', w'.token? vault = some t' ∧ t'.authority = t.authority ∧ t.amount ≤ t'.amount := by
  refine (invokeSigned_framed hlawful h).amount_le ht ?_
  rintro (hcarried | hbelow)
  · simp [Call.signers, AccountMeta.new, AccountMeta.newReadonly] at hcarried
  · exact hlocked hbelow

theorem mintShares_vault (hprotocol : Trustee .kaminoUsdc taking protocol) {amount minted : UInt64}
    (hlocked : ¬ SignedBelow ctx.stack accounts.collateralVault.data.authority)
    (ht : w.token? accounts.collateralVault.key = some accounts.collateralVault.data)
    (h : mintShares curve protocol ctx accounts amount w = (.ok minted, w')) :
    ∃ t', w'.token? accounts.collateralVault.key = some t' ∧
      t'.authority = accounts.collateralVault.data.authority ∧
      t'.amount.toNat = minted.toNat + accounts.collateralVault.data.amount.toNat := by
  simp only [mintShares, Exec.bind_ok, measureToken_ok] at h
  obtain ⟨_, w₁, hrefreshed, _, w₂, hdeposited, ⟨t', ht', hgained⟩, rfl⟩ := h
  obtain ⟨t₁, ht₁, hauthority₁, -⟩ :=
    refreshReserve_vault hprotocol.lawful hlocked hrefreshed ht
  have hauthority := authority_of_invoke hprotocol.vested hdeposited ht₁ ht'
  exact ⟨t', ht', hauthority.trans hauthority₁, hgained⟩

theorem redeemShares_vault (hprotocol : Trustee .kaminoUsdc taking protocol)
    (hprogram : ctx.programId = programId) {shares amountOut : UInt64}
    (hlocked : ¬ SignedBelow ctx.stack accounts.collateralVault.data.authority)
    (ht : w.token? accounts.collateralVault.key = some accounts.collateralVault.data)
    (h : redeemShares curve protocol ctx accounts shares w = (.ok amountOut, w')) :
    ∃ t', w'.token? accounts.collateralVault.key = some t' ∧
      t'.authority = accounts.collateralVault.data.authority ∧
      ∃ held : UInt64, accounts.collateralVault.data.amount ≤ held ∧
        taking shares.toNat held.toNat t'.amount.toNat := by
  simp only [redeemShares, Exec.bind_ok, measureToken_ok] at h
  obtain ⟨_, w₁, hrefreshed, _, w₂, hredeemed, -, rfl⟩ := h
  obtain ⟨t₁, ht₁, hauthority₁, hle⟩ :=
    refreshReserve_vault hprotocol.lawful hlocked hrefreshed ht
  obtain ⟨t', ht', htaken⟩ := taken_of_invoke hprotocol.redeeming hprogram
    (by exact ⟨rfl, rfl⟩ : Adapter.Redeems .kaminoUsdc _ _ shares) hredeemed ht₁
  have hauthority := authority_of_invoke hprotocol.vested hredeemed ht₁ ht'
  exact ⟨t', ht', hauthority.trans hauthority₁, t₁.amount, hle, htaken⟩

theorem rebooked_of_adapterDeposit (hprotocol : Trustee .kaminoUsdc taking protocol)
    (hprogram : ctx.programId = programId) {key : Pubkey} {s : AdapterState} {t : TokenAccount}
    {amount : UInt64} {data : Bytes} (hslot : ctx.accounts[3]?.map (·.key) = some key)
    (hstored : w.state? AdapterState key = some s) (ht : w.token? s.collateralVault = some t)
    (hlocked : ¬ SignedBelow ctx.stack t.authority)
    (h : adapterDeposit curve protocol ctx amount data w = (.ok (), w')) :
    ∃ total t', Rebooked AdapterState w' key s.collateralVault s t total t' ∧
      total.toNat + t.amount.toNat = s.header.totalShares.toNat + t'.amount.toNat := by
  simp only [adapterDeposit, Exec.bind_ok, Exec.read_ok, Exec.ofExcept_ok] at h
  obtain ⟨_, _, ⟨rfl, rfl⟩, accounts, _, ⟨haccounts, rfl⟩, hrun⟩ := h
  obtain ⟨⟨_, slots⟩, accepted, -⟩ := AdapterDeposit.tryAccounts_ok haccounts
  obtain ⟨hvault, htoken⟩ := vault_of_tryAccounts haccounts
  obtain ⟨rfl, rfl⟩ := accepted.eq_of_slot slots hslot hstored
  rw [← hvault] at ht ⊢
  obtain rfl := Option.some.inj (htoken.symm.trans ht)
  exact rebooked_of_depositWith hprogram
    (hprogram ▸ Adapter.programId_ne_tokenProgramId .kaminoUsdc)
    (fun _ _ hmint => mintShares_vault hprotocol hlocked htoken hmint) hrun

theorem rebooked_of_adapterWithdraw (hprotocol : Trustee .kaminoUsdc taking protocol)
    (hprogram : ctx.programId = programId) {key : Pubkey} {s : AdapterState} {t : TokenAccount}
    {shares : UInt64} {data : Bytes} (hslot : ctx.accounts[3]?.map (·.key) = some key)
    (hstored : w.state? AdapterState key = some s) (ht : w.token? s.collateralVault = some t)
    (hlocked : ¬ SignedBelow ctx.stack t.authority)
    (h : adapterWithdraw curve protocol ctx shares data w = (.ok (), w')) :
    ∃ total t', Rebooked AdapterState w' key s.collateralVault s t total t' ∧
      s.header.totalShares.toNat = total.toNat + shares.toNat ∧
      ∃ held : UInt64, t.amount ≤ held ∧ taking shares.toNat held.toNat t'.amount.toNat := by
  simp only [adapterWithdraw, Exec.bind_ok, Exec.read_ok, Exec.ofExcept_ok] at h
  obtain ⟨_, _, ⟨rfl, rfl⟩, accounts, _, ⟨haccounts, rfl⟩, _, _, ⟨-, rfl⟩, hrun⟩ := h
  obtain ⟨⟨_, slots⟩, accepted, -⟩ := AdapterDeposit.tryAccounts_ok haccounts
  obtain ⟨hvault, htoken⟩ := vault_of_tryAccounts haccounts
  obtain ⟨rfl, rfl⟩ := accepted.eq_of_slot slots hslot hstored
  rw [← hvault] at ht ⊢
  obtain rfl := Option.some.inj (htoken.symm.trans ht)
  exact rebooked_of_withdrawWith hprogram
    (hprogram ▸ Adapter.programId_ne_tokenProgramId .kaminoUsdc)
    (fun _ _ hredeem => redeemShares_vault hprotocol hprogram hlocked htoken hredeem) hrun

/-- A withdrawal asks for shares of the pinned vault, and for no more than are booked. -/
theorem asksWithin_of_adapterWithdraw {key : Pubkey} {s : AdapterState} {shares : UInt64}
    {data : Bytes} (hslot : ctx.accounts[3]?.map (·.key) = some key)
    (hstored : w.state? AdapterState key = some s) :
    Exec.Leaves (Traced protocol ctx ctx.Signer
      (Adapter.AsksWithin .kaminoUsdc s.collateralVault s.header.totalShares))
      (adapterWithdraw curve protocol ctx shares data) w := by
  refine Exec.Leaves.bind_read ?_
  refine Exec.Leaves.bind_ofExcept fun accounts haccounts => ?_
  refine Exec.Leaves.bind_ofExcept fun _ hguarded => ?_
  obtain ⟨-, hbooked, -⟩ := withdrawGuards_ok.mp hguarded
  obtain ⟨⟨_, slots⟩, accepted, -⟩ := AdapterDeposit.tryAccounts_ok haccounts
  obtain ⟨hvault, -⟩ := vault_of_tryAccounts haccounts
  obtain ⟨rfl, rfl⟩ := accepted.eq_of_slot slots hslot hstored
  refine withdrawWith_traced ?_
  refine Exec.Leaves.bind (invoke_traced (fun _ => id) ?_) fun _ _ _ => ?_
  · -- the refresh redeems nothing: its data is the discriminator alone
    rintro other asked ⟨hdata, -⟩
    have hlength := congrArg List.length (InstructionData.bytes.inj hdata)
    simp [klendRefreshReserve, klendRedeemReserveCollateral] at hlength
  · refine Exec.Leaves.bind (invoke_traced (fun _ => id) ?_) fun _ _ _ => measureToken_traced
    rintro other asked ⟨hdata, hother⟩
    have hasked := leBytes64_inj (List.append_cancel_left (InstructionData.bytes.inj hdata))
    exact ⟨(Option.some.inj hother).symm.trans hvault, hasked ▸ hbooked⟩

theorem opens_of_adapterInitialize {data : Bytes} (hprogram : ctx.programId = programId)
    (h : adapterInitialize curve ctx data w = (.ok (), w')) :
    ∃ key vault s, Opens AdapterState curve ctx w w' key vault s ∧ s.collateralVault = vault := by
  obtain ⟨accounts, w₁, haccounts, hrun⟩ := Exec.bind_ok.mp h
  obtain ⟨⟨_, slots⟩, hfound, -⟩ := AdapterInitialize.tryAccounts_ok haccounts
  obtain ⟨payer, mint, w₀, hbefore, hcreated⟩ : ∃ payer mint w₀, Tenure w w₀ ∧
      initAssociatedToken curve ctx payer accounts.position mint accounts.collateralVault w₀ =
        (.ok (), w₁) := by
    generalize hx : AdapterInitialize.tryAccounts curve ctx = x at haccounts
    unfold AdapterInitialize.tryAccounts at hx
    split at hx <;> subst hx
    · rename_i hlist
      have hposition := congrArg (·[1]?) hlist
      obtain ⟨slots, mint, w₀, hslots, hcreated, rfl⟩ := InitPrefix.createWithVault_ok haccounts
      obtain ⟨⟨-, rfl, -⟩, -⟩ := InitPrefix.create_ok hslots
      exact ⟨_, _, w₀, (InitPrefix.create_leaves .of_benign hposition).of_ok hslots, hcreated⟩
    · simp at haccounts
  obtain ⟨s, hopens, header, rfl⟩ := opens_of_initializeWith hprogram
    (hprogram ▸ Adapter.programId_ne_tokenProgramId .kaminoUsdc) slots hfound (fun _ => rfl)
    hbefore hcreated hrun
  exact ⟨_, _, _, hopens, rfl⟩

end KaminoUsdc

namespace JupiterLp

variable {accounts : AdapterDeposit}

theorem vault_of_tryAccounts (h : AdapterDeposit.tryAccounts curve ctx w = .ok accounts) :
    accounts.lpTokenAccount.key = accounts.adapterState.data.lpTokenAccount ∧
      w.token? accounts.lpTokenAccount.key = some accounts.lpTokenAccount.data := by
  unfold AdapterDeposit.tryAccounts at h
  split at h
  · simp only [except_bind_ok, loadToken_ok, checkAddress_ok] at h
    obtain ⟨_, -, vault, ⟨rfl, hvault⟩, _, -, _, -, _, -, _, -, _, -, _, -, _, -, _, -, _, -, _,
      hkey, hpure⟩ := h
    obtain rfl := Except.ok.inj hpure
    exact ⟨hkey, hvault⟩
  · simp [throw, throwThe, MonadExceptOf.throw] at h

theorem mintShares_vault (hprotocol : Trustee .jupiterLp taking protocol)
    {amount minted : UInt64}
    (ht : w.token? accounts.lpTokenAccount.key = some accounts.lpTokenAccount.data)
    (h : mintShares curve protocol ctx accounts amount w = (.ok minted, w')) :
    ∃ t', w'.token? accounts.lpTokenAccount.key = some t' ∧
      t'.authority = accounts.lpTokenAccount.data.authority ∧
      t'.amount.toNat = minted.toNat + accounts.lpTokenAccount.data.amount.toNat := by
  simp only [mintShares, Exec.bind_ok, measureToken_ok] at h
  obtain ⟨_, w₁, hadded, ⟨t', ht', hgained⟩, rfl⟩ := h
  exact ⟨t', ht', authority_of_invoke hprotocol.vested hadded ht ht', hgained⟩

theorem redeemShares_vault (hprotocol : Trustee .jupiterLp taking protocol)
    (hprogram : ctx.programId = programId) {shares amountOut : UInt64}
    (ht : w.token? accounts.lpTokenAccount.key = some accounts.lpTokenAccount.data)
    (h : redeemShares curve protocol ctx accounts shares w = (.ok amountOut, w')) :
    ∃ t', w'.token? accounts.lpTokenAccount.key = some t' ∧
      t'.authority = accounts.lpTokenAccount.data.authority ∧
      taking shares.toNat accounts.lpTokenAccount.data.amount.toNat t'.amount.toNat := by
  simp only [redeemShares, Exec.bind_ok, measureToken_ok] at h
  obtain ⟨_, w₁, hremoved, -, rfl⟩ := h
  obtain ⟨t', ht', htaken⟩ := taken_of_invoke hprotocol.redeeming hprogram
    (by exact ⟨rfl, rfl⟩ : Adapter.Redeems .jupiterLp _ _ shares) hremoved ht
  exact ⟨t', ht', authority_of_invoke hprotocol.vested hremoved ht ht', htaken⟩

theorem rebooked_of_adapterDeposit (hprotocol : Trustee .jupiterLp taking protocol)
    (hprogram : ctx.programId = programId) {key : Pubkey} {s : AdapterState} {t : TokenAccount}
    {amount : UInt64} {data : Bytes} (hslot : ctx.accounts[3]?.map (·.key) = some key)
    (hstored : w.state? AdapterState key = some s) (ht : w.token? s.lpTokenAccount = some t)
    (h : adapterDeposit curve protocol ctx amount data w = (.ok (), w')) :
    ∃ total t', Rebooked AdapterState w' key s.lpTokenAccount s t total t' ∧
      total.toNat + t.amount.toNat = s.header.totalShares.toNat + t'.amount.toNat := by
  simp only [adapterDeposit, Exec.bind_ok, Exec.read_ok, Exec.ofExcept_ok] at h
  obtain ⟨_, _, ⟨rfl, rfl⟩, accounts, _, ⟨haccounts, rfl⟩, hrun⟩ := h
  obtain ⟨⟨_, slots⟩, accepted⟩ := AdapterDeposit.tryAccounts_ok haccounts
  obtain ⟨hvault, htoken⟩ := vault_of_tryAccounts haccounts
  obtain ⟨rfl, rfl⟩ := accepted.eq_of_slot slots hslot hstored
  rw [← hvault] at ht ⊢
  obtain rfl := Option.some.inj (htoken.symm.trans ht)
  exact rebooked_of_depositWith hprogram
    (hprogram ▸ Adapter.programId_ne_tokenProgramId .jupiterLp)
    (fun _ _ hmint => mintShares_vault hprotocol htoken hmint) hrun

theorem rebooked_of_adapterWithdraw (hprotocol : Trustee .jupiterLp taking protocol)
    (hprogram : ctx.programId = programId) {key : Pubkey} {s : AdapterState} {t : TokenAccount}
    {shares : UInt64} {data : Bytes} (hslot : ctx.accounts[3]?.map (·.key) = some key)
    (hstored : w.state? AdapterState key = some s) (ht : w.token? s.lpTokenAccount = some t)
    (h : adapterWithdraw curve protocol ctx shares data w = (.ok (), w')) :
    ∃ total t', Rebooked AdapterState w' key s.lpTokenAccount s t total t' ∧
      s.header.totalShares.toNat = total.toNat + shares.toNat ∧
      taking shares.toNat t.amount.toNat t'.amount.toNat := by
  simp only [adapterWithdraw, Exec.bind_ok, Exec.read_ok, Exec.ofExcept_ok] at h
  obtain ⟨_, _, ⟨rfl, rfl⟩, accounts, _, ⟨haccounts, rfl⟩, _, _, ⟨-, rfl⟩, hrun⟩ := h
  obtain ⟨⟨_, slots⟩, accepted⟩ := AdapterDeposit.tryAccounts_ok haccounts
  obtain ⟨hvault, htoken⟩ := vault_of_tryAccounts haccounts
  obtain ⟨rfl, rfl⟩ := accepted.eq_of_slot slots hslot hstored
  rw [← hvault] at ht ⊢
  obtain rfl := Option.some.inj (htoken.symm.trans ht)
  exact rebooked_of_withdrawWith hprogram
    (hprogram ▸ Adapter.programId_ne_tokenProgramId .jupiterLp)
    (fun _ _ hredeem => redeemShares_vault hprotocol hprogram htoken hredeem) hrun

/-- A withdrawal asks for shares of the pinned vault, and for no more than are booked. -/
theorem asksWithin_of_adapterWithdraw {key : Pubkey} {s : AdapterState} {shares : UInt64}
    {data : Bytes} (hslot : ctx.accounts[3]?.map (·.key) = some key)
    (hstored : w.state? AdapterState key = some s) :
    Exec.Leaves (Traced protocol ctx ctx.Signer
      (Adapter.AsksWithin .jupiterLp s.lpTokenAccount s.header.totalShares))
      (adapterWithdraw curve protocol ctx shares data) w := by
  refine Exec.Leaves.bind_read ?_
  refine Exec.Leaves.bind_ofExcept fun accounts haccounts => ?_
  refine Exec.Leaves.bind_ofExcept fun _ hguarded => ?_
  obtain ⟨-, hbooked, -⟩ := withdrawGuards_ok.mp hguarded
  obtain ⟨⟨_, slots⟩, accepted⟩ := AdapterDeposit.tryAccounts_ok haccounts
  obtain ⟨hvault, -⟩ := vault_of_tryAccounts haccounts
  obtain ⟨rfl, rfl⟩ := accepted.eq_of_slot slots hslot hstored
  refine withdrawWith_traced ?_
  refine Exec.Leaves.bind (invoke_traced (fun _ => id) ?_) fun _ _ _ => measureToken_traced
  rintro other asked ⟨hdata, hother⟩
  have hasked := leBytes64_inj (by simpa using InstructionData.bytes.inj hdata)
  exact ⟨(Option.some.inj hother).symm.trans hvault, hasked ▸ hbooked⟩

theorem opens_of_adapterInitialize {data : Bytes} (hprogram : ctx.programId = programId)
    (h : adapterInitialize curve ctx data w = (.ok (), w')) :
    ∃ key vault s, Opens AdapterState curve ctx w w' key vault s ∧ s.lpTokenAccount = vault := by
  obtain ⟨accounts, w₁, haccounts, hrun⟩ := Exec.bind_ok.mp h
  obtain ⟨⟨_, slots⟩, hfound, -⟩ := AdapterInitialize.tryAccounts_ok haccounts
  obtain ⟨payer, mint, w₀, hbefore, hcreated⟩ : ∃ payer mint w₀, Tenure w w₀ ∧
      initAssociatedToken curve ctx payer accounts.position mint accounts.lpTokenAccount w₀ =
        (.ok (), w₁) := by
    generalize hx : AdapterInitialize.tryAccounts curve ctx = x at haccounts
    unfold AdapterInitialize.tryAccounts at hx
    split at hx <;> subst hx
    · rename_i hlist
      have hposition := congrArg (·[1]?) hlist
      obtain ⟨slots, mint, w₀, hslots, hcreated, rfl⟩ := InitPrefix.createWithVault_ok haccounts
      obtain ⟨⟨-, rfl, -⟩, -⟩ := InitPrefix.create_ok hslots
      exact ⟨_, _, w₀, (InitPrefix.create_leaves .of_benign hposition).of_ok hslots, hcreated⟩
    · simp at haccounts
  obtain ⟨s, hopens, header, rfl⟩ := opens_of_initializeWith hprogram
    (hprogram ▸ Adapter.programId_ne_tokenProgramId .jupiterLp) slots hfound (fun _ => rfl)
    hbefore hcreated hrun
  exact ⟨_, _, _, hopens, rfl⟩

end JupiterLp

namespace MapleSyrup

variable {accounts : AdapterDeposit}

theorem vault_of_tryAccounts (h : AdapterDeposit.tryAccounts curve ctx w = .ok accounts) :
    accounts.syrupTokenAccount.key = accounts.adapterState.data.syrupTokenAccount ∧
      w.token? accounts.syrupTokenAccount.key = some accounts.syrupTokenAccount.data := by
  unfold AdapterDeposit.tryAccounts at h
  split at h
  · simp only [except_bind_ok, loadToken_ok, checkAddress_ok] at h
    obtain ⟨_, -, vault, ⟨rfl, hvault⟩, _, -, _, -, _, -, _, -, _, -, _, hkey, _, -, _, -, _, -, _,
      -, _, -, _, -, hpure⟩ := h
    obtain rfl := Except.ok.inj hpure
    exact ⟨hkey, hvault⟩
  · simp [throw, throwThe, MonadExceptOf.throw] at h

theorem mintShares_vault (hprotocol : Trustee .mapleSyrup taking protocol)
    {amount minted : UInt64}
    (ht : w.token? accounts.syrupTokenAccount.key = some accounts.syrupTokenAccount.data)
    (h : mintShares curve protocol ctx accounts amount w = (.ok minted, w')) :
    ∃ t', w'.token? accounts.syrupTokenAccount.key = some t' ∧
      t'.authority = accounts.syrupTokenAccount.data.authority ∧
      t'.amount.toNat = minted.toNat + accounts.syrupTokenAccount.data.amount.toNat := by
  simp only [mintShares, Exec.bind_ok, measureToken_ok] at h
  obtain ⟨_, w₁, hbought, ⟨t', ht', hgained⟩, rfl⟩ := h
  exact ⟨t', ht', authority_of_invoke hprotocol.vested hbought ht ht', hgained⟩

theorem redeemShares_vault (hprotocol : Trustee .mapleSyrup taking protocol)
    (hprogram : ctx.programId = programId) {shares amountOut : UInt64}
    (ht : w.token? accounts.syrupTokenAccount.key = some accounts.syrupTokenAccount.data)
    (h : redeemShares curve protocol ctx accounts shares w = (.ok amountOut, w')) :
    ∃ t', w'.token? accounts.syrupTokenAccount.key = some t' ∧
      t'.authority = accounts.syrupTokenAccount.data.authority ∧
      taking shares.toNat accounts.syrupTokenAccount.data.amount.toNat t'.amount.toNat := by
  simp only [redeemShares, Exec.bind_ok, measureToken_ok] at h
  obtain ⟨_, w₁, hsold, -, rfl⟩ := h
  obtain ⟨t', ht', htaken⟩ := taken_of_invoke hprotocol.redeeming hprogram
    (by exact ⟨rfl, rfl⟩ : Adapter.Redeems .mapleSyrup _ _ shares) hsold ht
  exact ⟨t', ht', authority_of_invoke hprotocol.vested hsold ht ht', htaken⟩

theorem rebooked_of_adapterDeposit (hprotocol : Trustee .mapleSyrup taking protocol)
    (hprogram : ctx.programId = programId) {key : Pubkey} {s : AdapterState} {t : TokenAccount}
    {amount : UInt64} {data : Bytes} (hslot : ctx.accounts[3]?.map (·.key) = some key)
    (hstored : w.state? AdapterState key = some s) (ht : w.token? s.syrupTokenAccount = some t)
    (h : adapterDeposit curve protocol ctx amount data w = (.ok (), w')) :
    ∃ total t', Rebooked AdapterState w' key s.syrupTokenAccount s t total t' ∧
      total.toNat + t.amount.toNat = s.header.totalShares.toNat + t'.amount.toNat := by
  simp only [adapterDeposit, Exec.bind_ok, Exec.read_ok, Exec.ofExcept_ok] at h
  obtain ⟨_, _, ⟨rfl, rfl⟩, accounts, _, ⟨haccounts, rfl⟩, hrun⟩ := h
  obtain ⟨⟨_, slots⟩, accepted⟩ := AdapterDeposit.tryAccounts_ok haccounts
  obtain ⟨hvault, htoken⟩ := vault_of_tryAccounts haccounts
  obtain ⟨rfl, rfl⟩ := accepted.eq_of_slot slots hslot hstored
  rw [← hvault] at ht ⊢
  obtain rfl := Option.some.inj (htoken.symm.trans ht)
  exact rebooked_of_depositWith hprogram
    (hprogram ▸ Adapter.programId_ne_tokenProgramId .mapleSyrup)
    (fun _ _ hmint => mintShares_vault hprotocol htoken hmint) hrun

theorem rebooked_of_adapterWithdraw (hprotocol : Trustee .mapleSyrup taking protocol)
    (hprogram : ctx.programId = programId) {key : Pubkey} {s : AdapterState} {t : TokenAccount}
    {shares : UInt64} {data : Bytes} (hslot : ctx.accounts[3]?.map (·.key) = some key)
    (hstored : w.state? AdapterState key = some s) (ht : w.token? s.syrupTokenAccount = some t)
    (h : adapterWithdraw curve protocol ctx shares data w = (.ok (), w')) :
    ∃ total t', Rebooked AdapterState w' key s.syrupTokenAccount s t total t' ∧
      s.header.totalShares.toNat = total.toNat + shares.toNat ∧
      taking shares.toNat t.amount.toNat t'.amount.toNat := by
  simp only [adapterWithdraw, Exec.bind_ok, Exec.read_ok, Exec.ofExcept_ok] at h
  obtain ⟨_, _, ⟨rfl, rfl⟩, accounts, _, ⟨haccounts, rfl⟩, _, _, ⟨-, rfl⟩, hrun⟩ := h
  obtain ⟨⟨_, slots⟩, accepted⟩ := AdapterDeposit.tryAccounts_ok haccounts
  obtain ⟨hvault, htoken⟩ := vault_of_tryAccounts haccounts
  obtain ⟨rfl, rfl⟩ := accepted.eq_of_slot slots hslot hstored
  rw [← hvault] at ht ⊢
  obtain rfl := Option.some.inj (htoken.symm.trans ht)
  exact rebooked_of_withdrawWith hprogram
    (hprogram ▸ Adapter.programId_ne_tokenProgramId .mapleSyrup)
    (fun _ _ hredeem => redeemShares_vault hprotocol hprogram htoken hredeem) hrun

/-- A withdrawal asks for shares of the pinned vault, and for no more than are booked. -/
theorem asksWithin_of_adapterWithdraw {key : Pubkey} {s : AdapterState} {shares : UInt64}
    {data : Bytes} (hslot : ctx.accounts[3]?.map (·.key) = some key)
    (hstored : w.state? AdapterState key = some s) :
    Exec.Leaves (Traced protocol ctx ctx.Signer
      (Adapter.AsksWithin .mapleSyrup s.syrupTokenAccount s.header.totalShares))
      (adapterWithdraw curve protocol ctx shares data) w := by
  refine Exec.Leaves.bind_read ?_
  refine Exec.Leaves.bind_ofExcept fun accounts haccounts => ?_
  refine Exec.Leaves.bind_ofExcept fun _ hguarded => ?_
  obtain ⟨-, hbooked, -⟩ := withdrawGuards_ok.mp hguarded
  obtain ⟨⟨_, slots⟩, accepted⟩ := AdapterDeposit.tryAccounts_ok haccounts
  obtain ⟨hvault, -⟩ := vault_of_tryAccounts haccounts
  obtain ⟨rfl, rfl⟩ := accepted.eq_of_slot slots hslot hstored
  refine withdrawWith_traced ?_
  refine Exec.Leaves.bind (invoke_traced (fun _ => id) ?_) fun _ _ _ => measureToken_traced
  rintro other asked ⟨hdata, hother⟩
  have hasked := leBytes64_inj (by simpa using InstructionData.bytes.inj hdata)
  exact ⟨(Option.some.inj hother).symm.trans hvault, hasked ▸ hbooked⟩

theorem opens_of_adapterInitialize {data : Bytes} (hprogram : ctx.programId = programId)
    (h : adapterInitialize curve ctx data w = (.ok (), w')) :
    ∃ key vault s, Opens AdapterState curve ctx w w' key vault s ∧ s.syrupTokenAccount = vault := by
  obtain ⟨accounts, w₁, haccounts, hrun⟩ := Exec.bind_ok.mp h
  obtain ⟨⟨_, slots⟩, hfound, -⟩ := AdapterInitialize.tryAccounts_ok haccounts
  obtain ⟨payer, mint, w₀, hbefore, hcreated⟩ : ∃ payer mint w₀, Tenure w w₀ ∧
      initAssociatedToken curve ctx payer accounts.position mint accounts.syrupTokenAccount w₀ =
        (.ok (), w₁) := by
    generalize hx : AdapterInitialize.tryAccounts curve ctx = x at haccounts
    unfold AdapterInitialize.tryAccounts at hx
    split at hx <;> subst hx
    · rename_i hlist
      have hposition := congrArg (·[1]?) hlist
      obtain ⟨slots, mint, w₀, hslots, hcreated, rfl⟩ := InitPrefix.createWithVault_ok haccounts
      obtain ⟨⟨-, rfl, -⟩, -⟩ := InitPrefix.create_ok hslots
      exact ⟨_, _, w₀, (InitPrefix.create_leaves .of_benign hposition).of_ok hslots, hcreated⟩
    · simp at haccounts
  obtain ⟨s, hopens, header, rfl⟩ := opens_of_initializeWith hprogram
    (hprogram ▸ Adapter.programId_ne_tokenProgramId .mapleSyrup) slots hfound (fun _ => rfl)
    hbefore hcreated hrun
  exact ⟨_, _, _, hopens, rfl⟩

end MapleSyrup

/-! ### The adapters with a vault, together -/

section Entry

variable {adapter : Adapter} {key vault : Pubkey} {s : adapter.State} {t : TokenAccount}
variable {data adapterData : Bytes}

/-- A completed deposit books exactly what the vault gained, however much that was. -/
theorem Adapter.rebooked_of_deposit (hprotocol : Trustee adapter taking protocol)
    (hprogram : ctx.programId = adapter.programId) {amount : UInt64}
    (hdecode : AdapterInstruction.decode data = .ok (.deposit amount adapterData))
    (hslot : ctx.accounts[3]?.map (·.key) = some key)
    (hstored : w.state? adapter.State key = some s) (hvault : adapter.shareVault s = some vault)
    (ht : w.token? vault = some t) (hlocked : ¬ SignedBelow ctx.stack t.authority)
    (h : adapter.entry curve protocol layout ctx data w = (.ok (), w')) :
    ∃ total t', Rebooked adapter.State w' key vault s t total t' ∧
      total.toNat + t.amount.toNat =
        (AdapterAccount.header s).totalShares.toNat + t'.amount.toNat := by
  cases adapter with
  | kaminoUsdc =>
    have hrun := Exec.run_of_ofExcept hdecode h
    obtain rfl := Option.some.inj hvault
    exact KaminoUsdc.rebooked_of_adapterDeposit hprotocol hprogram hslot hstored ht hlocked hrun
  | jupiterLp =>
    have hrun := Exec.run_of_ofExcept hdecode h
    obtain rfl := Option.some.inj hvault
    exact JupiterLp.rebooked_of_adapterDeposit hprotocol hprogram hslot hstored ht hrun
  | mapleSyrup =>
    have hrun := Exec.run_of_ofExcept hdecode h
    obtain rfl := Option.some.inj hvault
    exact MapleSyrup.rebooked_of_adapterDeposit hprotocol hprogram hslot hstored ht hrun
  | marginfiUsdc => cases hvault
  | driftIf => cases hvault

/-- A completed withdrawal books the shares asked for, and the protocol takes what it may out
of what the vault holds then: only Kamino calls its protocol once more before that. -/
theorem Adapter.rebooked_of_withdraw (hprotocol : Trustee adapter taking protocol)
    (hprogram : ctx.programId = adapter.programId) {shares : UInt64}
    (hdecode : AdapterInstruction.decode data = .ok (.withdraw shares adapterData))
    (hslot : ctx.accounts[3]?.map (·.key) = some key)
    (hstored : w.state? adapter.State key = some s) (hvault : adapter.shareVault s = some vault)
    (ht : w.token? vault = some t) (hlocked : ¬ SignedBelow ctx.stack t.authority)
    (h : adapter.entry curve protocol layout ctx data w = (.ok (), w')) :
    ∃ total t', Rebooked adapter.State w' key vault s t total t' ∧
      (AdapterAccount.header s).totalShares.toNat = total.toNat + shares.toNat ∧
      ∃ held : UInt64, t.amount ≤ held ∧ (adapter ≠ .kaminoUsdc → held = t.amount) ∧
        taking shares.toNat held.toNat t'.amount.toNat := by
  cases adapter with
  | kaminoUsdc =>
    have hrun := Exec.run_of_ofExcept hdecode h
    obtain rfl := Option.some.inj hvault
    obtain ⟨total, t', hrebooked, hburned, held, hle, htaken⟩ :=
      KaminoUsdc.rebooked_of_adapterWithdraw hprotocol hprogram hslot hstored ht hlocked hrun
    exact ⟨total, t', hrebooked, hburned, held, hle, fun hother => absurd rfl hother, htaken⟩
  | jupiterLp =>
    have hrun := Exec.run_of_ofExcept hdecode h
    obtain rfl := Option.some.inj hvault
    obtain ⟨total, t', hrebooked, hburned, htaken⟩ :=
      JupiterLp.rebooked_of_adapterWithdraw hprotocol hprogram hslot hstored ht hrun
    exact ⟨total, t', hrebooked, hburned, t.amount, UInt64.le_refl _, fun _ => rfl, htaken⟩
  | mapleSyrup =>
    have hrun := Exec.run_of_ofExcept hdecode h
    obtain rfl := Option.some.inj hvault
    obtain ⟨total, t', hrebooked, hburned, htaken⟩ :=
      MapleSyrup.rebooked_of_adapterWithdraw hprotocol hprogram hslot hstored ht hrun
    exact ⟨total, t', hrebooked, hburned, t.amount, UInt64.le_refl _, fun _ => rfl, htaken⟩
  | marginfiUsdc => cases hvault
  | driftIf => cases hvault

/-- The state a completed initialisation stored came with its vault. -/
theorem Adapter.opens_of_init (hprogram : ctx.programId = adapter.programId)
    (hdecode : AdapterInstruction.decode data = .ok (.init adapterData)) {position : Pubkey}
    {bump : UInt8} (hnamed : ctx.accounts[1]?.map (·.key) = some position)
    (hfound : findProgramAddress curve adapter.programId
      (adapterStateSeeds adapter.programId position) = some (key, bump))
    (hstored : w'.state? adapter.State key = some s) (hvault : adapter.shareVault s = some vault)
    (h : adapter.entry curve protocol layout ctx data w = (.ok (), w')) :
    Opens adapter.State curve ctx w w' key vault s := by
  cases adapter with
  | kaminoUsdc =>
    have hrun := Exec.run_of_ofExcept hdecode h
    obtain ⟨_, _, _, hopens, rfl⟩ := KaminoUsdc.opens_of_adapterInitialize hprogram hrun
    obtain ⟨rfl, rfl⟩ := hopens.eq_of_found hprogram hnamed hfound hstored
    exact Option.some.inj hvault ▸ hopens
  | jupiterLp =>
    have hrun := Exec.run_of_ofExcept hdecode h
    obtain ⟨_, _, _, hopens, rfl⟩ := JupiterLp.opens_of_adapterInitialize hprogram hrun
    obtain ⟨rfl, rfl⟩ := hopens.eq_of_found hprogram hnamed hfound hstored
    exact Option.some.inj hvault ▸ hopens
  | mapleSyrup =>
    have hrun := Exec.run_of_ofExcept hdecode h
    obtain ⟨_, _, _, hopens, rfl⟩ := MapleSyrup.opens_of_adapterInitialize hprogram hrun
    obtain ⟨rfl, rfl⟩ := hopens.eq_of_found hprogram hnamed hfound hstored
    exact Option.some.inj hvault ▸ hopens
  | marginfiUsdc => cases hvault
  | driftIf => cases hvault

/-- No call that a withdrawal issues asks for anything but the pinned vault's shares, or for
more of them than are booked. -/
theorem Adapter.asksWithin_of_withdraw {shares : UInt64}
    (hdecode : AdapterInstruction.decode data = .ok (.withdraw shares adapterData))
    (hslot : ctx.accounts[3]?.map (·.key) = some key)
    (hstored : w.state? adapter.State key = some s) (hvault : adapter.shareVault s = some vault)
    {call : Call} (hcall : call ∈ (adapter.entry curve protocol layout ctx data w.fresh).2.calls) :
    adapter.AsksWithin vault (AdapterAccount.header s).totalShares call := by
  have htraced : Exec.Leaves (Traced protocol ctx ctx.Signer
      (adapter.AsksWithin vault (AdapterAccount.header s).totalShares))
      (adapter.entry curve protocol layout ctx data) w.fresh := by
    cases adapter with
    | kaminoUsdc =>
      obtain rfl := Option.some.inj hvault
      exact Exec.Leaves.of_ofExcept hdecode (KaminoUsdc.asksWithin_of_adapterWithdraw hslot hstored)
    | jupiterLp =>
      obtain rfl := Option.some.inj hvault
      exact Exec.Leaves.of_ofExcept hdecode (JupiterLp.asksWithin_of_adapterWithdraw hslot hstored)
    | mapleSyrup =>
      obtain rfl := Option.some.inj hvault
      exact Exec.Leaves.of_ofExcept hdecode (MapleSyrup.asksWithin_of_adapterWithdraw hslot hstored)
    | marginfiUsdc => cases hvault
    | driftIf => cases hvault
  rcases htraced.recorded call hcall with hearlier | hasks
  · simp at hearlier
  · exact hasks

end Entry

end Adapters

end YieldAdapter

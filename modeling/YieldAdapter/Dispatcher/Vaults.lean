import YieldAdapter.Adapter.Vault
import YieldAdapter.Dispatcher.Pool

/-!
# The position's share vault

In Kamino, Jupiter and Maple the ledger of a position and the token account that backs it
are written by different programs. Over every run the vault stays the position's own, apart
from its USDC pool and from every other position's vault, and holds at least what is booked;
what it holds beyond that came from outside.
-/

set_option autoImplicit false

namespace YieldAdapter.Dispatcher

open Solana

/-- The programs called are the adapters, over protocols trusted with the vaults of `adapter`. -/
def OverTrustee (curve : Curve) (layout : Layout ProgramState) (adapter : Adapter)
    (taking : Nat → Nat → Nat → Prop) (exec : Callee ProgramState Event) : Prop :=
  ∃ protocol, Trustee adapter taking protocol ∧ exec = Adapter.callee curve layout protocol

/-- The programs called are the adapters, over protocols trusted with the vaults of all of them. -/
def OverTrustees (curve : Curve) (layout : Layout ProgramState) (taking : Nat → Nat → Nat → Prop)
    (exec : Callee ProgramState Event) : Prop :=
  ∃ protocol, (∀ adapter, Trustee adapter taking protocol) ∧
    exec = Adapter.callee curve layout protocol

/-- A position's pool and vault: two associated token accounts of the position's own, of which
the pool is the one recorded with the position. -/
structure Lodged (position pool vault : Pubkey) (w : Chain) : Prop where
  recorded : ∃ p, w.state? Position position = some p ∧ p.usdcPool = pool
  poolAddress : ∃ mint bump,
    pool = .pda associatedTokenProgramId (associatedTokenSeeds position mint) bump
  vaultAddress : ∃ mint bump,
    vault = .pda associatedTokenProgramId (associatedTokenSeeds position mint) bump
  apart : vault ≠ pool
  held : ∃ t, w.token? vault = some t ∧ t.authority = position

/-- How a step came to leave the state `s` of `adapter` at `key` with the vault it has. -/
inductive Moved (curve : Curve) (adapter : Adapter) (taking : Nat → Nat → Nat → Prop)
    (w w' : Chain) (label : Option Request) (key vault : Pubkey) (s : adapter.State) : Prop
  | opened (vacant : w.typed? adapter.programId key = none)
      (empty : (AdapterAccount.header s).totalShares = 0) (bare : balance vault w' = 0)
  | carried (stored : w.state? adapter.State key = some s)
      (other : ∀ request, label = some request → request.Done curve w →
        ¬ request.Names (AdapterAccount.header s).position)
      (grown : balance vault w ≤ balance vault w')
  | deposited {request : Request} {amount total : UInt64} {before : adapter.State}
      (label_eq : label = some request) (ix : request.ix = .deposit amount)
      (done : request.Done curve w) (named : request.Names (AdapterAccount.header s).position)
      (stored : w.state? adapter.State key = some before)
      (after : s = AdapterAccount.setTotalShares before total)
      (booked : total.toNat + balance vault w =
        (AdapterAccount.header before).totalShares.toNat + balance vault w')
  | withdrawn {request : Request} {shares total held : UInt64} {before : adapter.State}
      (label_eq : label = some request) (ix : request.ix = .withdraw shares)
      (done : request.Done curve w) (named : request.Names (AdapterAccount.header s).position)
      (stored : w.state? adapter.State key = some before)
      (after : s = AdapterAccount.setTotalShares before total)
      (booked : (AdapterAccount.header before).totalShares.toNat = total.toNat + shares.toNat)
      (kept : balance vault w ≤ held.toNat)
      (steady : adapter ≠ .kaminoUsdc → held.toNat = balance vault w)
      (taken : taking shares.toNat held.toNat (balance vault w'))

section Steps

variable {curve : Curve} {layout : Layout ProgramState} {adapter : Adapter}
variable {taking : Nat → Nat → Nat → Prop} {request : Request} {w w' : Chain}
variable {position pool vault key : Pubkey} {s : adapter.State}

theorem OverTrustee.overAdapters {exec : Callee ProgramState Event}
    (h : OverTrustee curve layout adapter taking exec) : OverAdapters curve layout exec := by
  obtain ⟨protocol, hprotocol, hexec⟩ := h
  exact ⟨protocol, hprotocol.lawful, hexec⟩

/-- The vaults of different positions are different accounts. -/
theorem associated_ne {position' mint mint' : Pubkey} {bump bump' : UInt8}
    (hne : position ≠ position') :
    Pubkey.pda associatedTokenProgramId (associatedTokenSeeds position mint) bump ≠
      .pda associatedTokenProgramId (associatedTokenSeeds position' mint') bump' := by
  intro hsame
  injection hsame with _ hseeds _
  simp only [associatedTokenSeeds] at hseeds
  injection hseeds with hposition _
  exact hne hposition

/-- A position and the vault it has, in a world where nothing it depends on is gone. -/
theorem Lodged.of_kept {p : Position} {t : TokenAccount} (h : Lodged position pool vault w)
    (hp : w.state? Position position = some p) (hp' : w'.state? Position position = some p)
    (ht : w'.token? vault = some t) (hauthority : t.authority = position) :
    Lodged position pool vault w' := by
  obtain ⟨_, hstored, hpool⟩ := h.recorded
  obtain rfl := Option.some.inj (hp.symm.trans hstored)
  exact ⟨⟨_, hp', hpool⟩, h.poolAddress, h.vaultAddress, h.apart, t, ht, hauthority⟩

/-- A position that the dispatcher stores signs for nobody below it. -/
theorem not_signedBelow_called {instruction : Instruction} (hderived : Derived position) :
    ¬ SignedBelow (adapter.calledContext
      ⟨request.ctx.sysvar, request.ctx.stack, instruction⟩).stack position := by
  rintro ⟨program, seeds, bump, rfl, hidle⟩
  refine hidle (List.mem_append_left _ (List.mem_append_right _ ?_))
  obtain ⟨_, _, hsame⟩ := hderived
  injection hsame with hprogram
  simp [hprogram, request.program]

/-- The adapter that a stored position names is the one its address was derived for. -/
theorem Deposit.Accepted.program_eq {accounts : Deposit} {owner : Pubkey} {bump : UInt8}
    (h : accounts.Accepted curve request.ctx w) (hnames : request.Names position)
    (hposition : position = positionAddress owner adapter.programId bump) :
    accounts.adapterProgram.key = adapter.programId := by
  have hseeds := h.seeds
  rw [h.named hnames, hposition, request.program] at hseeds
  exact (positionAddress_inj (createProgramAddress_eq_some.mp hseeds).2).2.1.symm

/-- What the dispatcher announces and writes touches no token account. -/
theorem token?_closing {τ : Type} [AnchorState ProgramState τ] {ctx : Context} (state : τ)
    (event : Event) (hprogram : ctx.programId = dispatcherId)
    (howned : w.ownedBy ctx.programId key = true) (k : Pubkey) :
    (written ctx key state (announced ctx event w)).token? k = w.token? k := by
  unfold written
  have hnone : w.token? key = none :=
    World.token?_of_ownedBy howned (by rw [hprogram]; decide)
  -- the account written is the dispatcher's own, so it is no token account
  by_cases hk : k = key
  · rw [hk, hnone]
    simp [World.token?]
  · rw [World.token?_put_ne hk]
    rfl

/-- A transfer that neither takes from a token account nor gives to it leaves it alone. -/
theorem token?_of_transfer {protocol : Callee ProgramState Event} (htransfers : Transfers protocol)
    {ctx : Context} {source destination authority : AccountInfo} {amount : UInt64}
    {signerSeeds : List (Seeds × UInt8)}
    (h : transfer curve (Adapter.callee curve layout protocol) ctx source destination authority
      amount signerSeeds w = (.ok (), w'))
    (hsource : vault ≠ source.key) (hdestination : vault ≠ destination.key) :
    w'.token? vault = w.token? vault := by
  obtain ⟨_, _, -, -, -, ⟨-, hsame⟩ | ⟨_, _, -, -, hmoved⟩⟩ := transfer_ok htransfers h
  · exact hsame vault
  · rw [hmoved, if_neg hdestination, if_neg hsource]

/-- A call to an adapter runs its code between two worlds with the accounts of before and after. -/
theorem entry_of_routed {protocol : Callee ProgramState Event} {ctx : Context}
    {instruction : Instruction} {signerSeeds : List (Seeds × UInt8)} {onFailure : Error}
    {data : Bytes} (hadapter : instruction.programId = adapter.programId)
    (hdata : instruction.data = .bytes data)
    (h : invokeSigned curve (Adapter.callee curve layout protocol) ctx instruction signerSeeds
      onFailure w = (.ok (), w')) :
    ∃ v v', v.accounts = w.accounts ∧ v'.accounts = w'.accounts ∧
      adapter.entry curve protocol layout
        (adapter.calledContext ⟨ctx.sysvar, ctx.stack, instruction⟩) data v = (.ok (), v') := by
  obtain ⟨_, w₁, -, -, hrun, rfl⟩ := invokeSigned_ok h
  obtain ⟨data', hdata', hentry⟩ := Adapter.entry_of_callee hadapter hrun
  obtain rfl := InstructionData.bytes.inj (hdata'.symm.trans hdata)
  refine ⟨_, _, ?_, ?_, hentry⟩
  · rfl
  · rfl

/-- A step without the position's signature leaves its vault, which can only grow. -/
theorem Lodged.carried {label : Option Request} (h : Lodged position pool vault w)
    (hderived : Derived position)
    (hstep : Step curve (OverAdapters curve layout) Suite w label w')
    (hother : ∀ request, label = some request → request.Done curve w →
      ¬ request.Names position) :
    Lodged position pool vault w' ∧ balance vault w ≤ balance vault w' := by
  obtain ⟨p, hstored, -⟩ := h.recorded
  obtain ⟨t, ht, hauthority⟩ := h.held
  have htyped := World.state?_eq_some_iff_typed?.mp hstored
  -- both kinds of step leave the vault's authority and at least its amount
  have hgrown : ∀ {t' : TokenAccount}, w'.token? vault = some t' → t.amount ≤ t'.amount →
      balance vault w ≤ balance vault w' := by
    intro t' ht' hle
    rw [balance_of_token? ht, balance_of_token? ht']
    exact UInt64.le_iff_toNat_le.mp hle
  cases hstep with
  | request request hexec =>
    have hkept : (request.apply curve w).typed? dispatcherId position = some (.position p) :=
      (enrolled_of_request hexec.lawful).position_kept htyped
    have hframed : Framed (fun _ => False) (· ≠ position) w (request.apply curve w) :=
      framed_of_not_names hexec.lawful hderived (hother request rfl)
    obtain ⟨t', ht', hauthority', hle⟩ := hframed.amount_le ht (not_not.mpr hauthority)
    exact ⟨h.of_kept hstored (World.state?_eq_some_iff_typed?.mpr hkept) ht'
      (hauthority'.trans hauthority), hgrown ht' hle⟩
  | outside hframed =>
    have hlocked := not_not.mpr (hauthority ▸ hderived)
    obtain ⟨t', ht', hauthority', hle⟩ := hframed.amount_le ht hlocked
    exact ⟨h.of_kept hstored ((hframed.state?_eq suite_dispatcherId position).trans hstored) ht'
      (hauthority'.trans hauthority), hgrown ht' hle⟩

/-- Opening a position leaves it with a pool and an empty vault. -/
theorem lodged_of_openPosition (hexec : OverTrustee curve layout adapter taking request.exec)
    (hix : request.ix = .openPosition) (hdone : request.Done curve w)
    (hnames : request.Names position) {owner : Pubkey} {bump bump' : UInt8}
    (hposition : position = positionAddress owner adapter.programId bump)
    (hfound : findProgramAddress curve adapter.programId
      (adapterStateSeeds adapter.programId position) = some (key, bump'))
    (hstored : (request.apply curve w).state? adapter.State key = some s)
    (hbacks : (AdapterAccount.header s).position = position)
    (hvault : adapter.shareVault s = some vault) :
    (∃ pool, Lodged position pool vault (request.apply curve w)) ∧
      balance vault (request.apply curve w) = 0 := by
  obtain ⟨protocol, hprotocol, hcallee⟩ := hexec
  have hprogram := request.program
  have hcompleted := Request.completed_of_done hdone
  rw [hix, hcallee] at hcompleted
  generalize request.apply curve w = w' at hcompleted hstored ⊢
  cases hcompleted with
  | @openPosition accounts bump₀ createdAt w₁ w₂ w₃ loaded gate version created pooled routed
      owned =>
    obtain rfl := loaded.named hnames
    have hadapter : accounts.adapterProgram.key = adapter.programId := by
      have hseeds := findProgramAddress_create (initState_ok created).1
      rw [hposition, hprogram] at hseeds
      exact (positionAddress_inj (createProgramAddress_eq_some.mp hseeds).2).2.1.symm
    obtain ⟨⟨poolBump, haddress⟩, -, hpooled⟩ := initAssociatedToken_ok pooled
    have hpool : w₂.token? accounts.positionUsdcPool.key =
        some ⟨accounts.usdcMint.key, accounts.position.key, 0⟩ := by
      rw [hpooled]
      simp [World.token?]
    obtain ⟨v, v', hv, hv', hentry⟩ := entry_of_routed hadapter rfl routed
    -- what the adapter stored is what is stored in the end
    have hstored' : v'.state? adapter.State key = some s := by
      rw [World.state?_congr hv']
      rw [state?_iff_typed?] at hstored ⊢
      exact ((closing hprogram owned).1 adapter key).symm.trans hstored
    have hopens := Adapter.opens_of_init rfl (decode_encodeInitialize (by simp))
      (Instruction.infos_key _ 1) hfound hstored' hvault hentry
    obtain ⟨mint, hcreated⟩ := hopens.created
    obtain ⟨vaultMint, vaultBump, hvaultAddress⟩ := hopens.address
    rw [hbacks] at hcreated hvaultAddress
    rw [World.token?_congr hv'] at hcreated
    rw [← World.token?_congr hv] at hpool
    refine ⟨⟨accounts.positionUsdcPool.key, ⟨_, World.state?_put_self hprogram, rfl⟩,
      ⟨_, _, findProgramAddress_eq_pda haddress⟩, ⟨_, _, findProgramAddress_eq_pda hvaultAddress⟩,
      (hopens.apart _ _ hpool).symm, _, (token?_closing _ _ hprogram owned vault).trans hcreated,
      rfl⟩, ?_⟩
    exact balance_of_token? ((token?_closing _ _ hprogram owned vault).trans hcreated)

/-- A position has one state account. -/
theorem Canonical.eq_of_position {k : Pubkey} {s' : adapter.State} (h : Canonical curve w)
    (hstored : w.typed? adapter.programId key = some (AnchorState.encode s))
    (hstored' : w.typed? adapter.programId k = some (AnchorState.encode s'))
    (hsame : (AdapterAccount.header s').position = (AdapterAccount.header s).position) :
    k = key ∧ s' = s := by
  have hfound := h.found adapter key s hstored
  have hfound' := h.found adapter k s' hstored'
  rw [hsame, hfound] at hfound'
  obtain rfl := (Prod.mk.inj (Option.some.inj hfound')).1
  exact ⟨rfl, AnchorState.encode_inj (Option.some.inj (hstored'.symm.trans hstored))⟩

/-- Neither the pool nor an account of the owner's is the position's vault. -/
theorem Lodged.ne_of_accepted {accounts : Deposit} {owner : Pubkey} {bump : UInt8}
    (h : Lodged position pool vault w) (accepted : accounts.Accepted curve request.ctx w.fresh)
    (hnames : request.Names position)
    (hposition : position = positionAddress owner adapter.programId bump) :
    vault ≠ accounts.positionUsdcPool.key ∧ vault ≠ accounts.ownerUsdcAta.key := by
  obtain ⟨p, hstored, hpool⟩ := h.recorded
  obtain ⟨t, ht, hauthority⟩ := h.held
  constructor
  · rw [accepted.pool_eq hnames hstored, hpool]
    exact h.apart
  · -- the vault's authority is a derived address, the owner's account is the owner's
    intro hsame
    have hata := accepted.ata
    rw [← hsame, World.fresh_token?, ht] at hata
    obtain rfl := Option.some.inj hata
    have howner := accepted.ataAuthority
    rw [hauthority, hposition] at howner
    exact request.unsigned accepted.signer ⟨_, _, howner.symm⟩

/-- A completed deposit books exactly what the vault gains. -/
theorem lodged_of_deposit (hexec : OverTrustee curve layout adapter taking request.exec)
    (hcanonical : Canonical curve w)
    (hstored : w.typed? adapter.programId key = some (AnchorState.encode s))
    (hvault : adapter.shareVault s = some vault)
    (hlodged : Lodged (AdapterAccount.header s).position pool vault w) {amount : UInt64}
    (hix : request.ix = .deposit amount) (hdone : request.Done curve w)
    (hnames : request.Names (AdapterAccount.header s).position) :
    Lodged (AdapterAccount.header s).position pool vault (request.apply curve w) ∧ ∃ total,
      (request.apply curve w).typed? adapter.programId key =
        some (AnchorState.encode (AdapterAccount.setTotalShares s total)) ∧
      total.toNat + balance vault w =
        (AdapterAccount.header s).totalShares.toNat + balance vault (request.apply curve w) := by
  obtain ⟨protocol, hprotocol, hcallee⟩ := hexec
  obtain ⟨owner, bump, hposition⟩ := hcanonical.derived adapter key s hstored
  have hprogram := request.program
  have hlawful : Lawful (· = dispatcherId) request.exec := by
    rw [hcallee]
    exact Adapter.callee_lawful hprotocol.lawful
  obtain ⟨p, hp, -⟩ := hlodged.recorded
  have hkept : (request.apply curve w).typed? dispatcherId (AdapterAccount.header s).position =
      some (.position p) :=
    (enrolled_of_request hlawful).position_kept (World.state?_eq_some_iff_typed?.mp hp)
  obtain ⟨t, ht, hauthority⟩ := hlodged.held
  have hcompleted := Request.completed_of_done hdone
  rw [hix, hcallee] at hcompleted
  generalize request.apply curve w = w' at hcompleted hkept ⊢
  cases hcompleted with
  | @deposit _ minted accounts w₁ w₂ accepted positive version funded routed returned owned =>
    have hadapter := accepted.program_eq hnames hposition
    obtain ⟨hpool, hata⟩ := hlodged.ne_of_accepted accepted hnames hposition
    -- the owner's transfer concerns neither the vault nor the state
    have ht₁ : w₁.token? vault = some t :=
      (token?_of_transfer hprotocol.transfers funded hata hpool).trans ht
    have hframed := framed_of_other hprotocol.lawful
      (fun adapter => adapter.programId_ne_tokenProgramId.symm) funded
    have hstored₁ : w₁.typed? adapter.programId key = some (AnchorState.encode s) :=
      (hframed.typed?_eq adapter.suite key).trans hstored
    -- the call names the position's own state account
    have hdecode : AdapterInstruction.decode (encodeDeposit amount []) = .ok (.deposit amount []) :=
      decode_encodeDeposit amount (by simp)
    have heffect := effect_of_routed hprotocol.lawful hadapter rfl hdecode routed
    cases heffect with
    | @deposited _ _ _ _ named k s' hnamed hslot hbacks total_eq hbooks =>
      obtain rfl := Option.some.inj hnamed
      have hread := hbooks.stored
      rw [hframed.typed?_eq adapter.suite k] at hread
      obtain ⟨rfl, rfl⟩ := hcanonical.eq_of_position hstored hread
        (hbacks.trans (accepted.named hnames))
      obtain ⟨v, v', hv, hv', hentry⟩ := entry_of_routed hadapter rfl routed
      rw [← World.token?_congr hv] at ht₁
      rw [← state?_iff_typed?, ← World.state?_congr hv] at hstored₁
      have hlocked : ¬ SignedBelow (adapter.calledContext ⟨request.ctx.sysvar, request.ctx.stack,
          fundMovementInstruction accounts.adapterProgram accounts.instructionsSysvar
            accounts.position.info accounts.positionUsdcPool.info accounts.adapterState
            accounts.remainingAccounts (encodeDeposit amount [])⟩).stack t.authority := by
        rw [hauthority]
        exact not_signedBelow_called (hposition ▸ derived_positionAddress _ _ _)
      obtain ⟨total, t', hrebooked, hbooked⟩ := Adapter.rebooked_of_deposit hprotocol rfl
        hdecode ((Instruction.infos_key _ 3).trans hslot) hstored₁ hvault ht₁ hlocked hentry
      have hstored₂ : w₂.state? adapter.State k =
          some (AdapterAccount.setTotalShares s' total) := by
        rw [← World.state?_congr hv']
        exact hrebooked.stored
      have hholds := (World.token?_congr hv' vault).symm.trans hrebooked.holds
      have hlast := (token?_closing accounts.position.data
        (.deposited accounts.position.key amount minted) hprogram owned vault).trans hholds
      refine ⟨hlodged.of_kept hp (World.state?_eq_some_iff_typed?.mpr hkept) hlast
        (hrebooked.authority.trans hauthority), total, ?_, ?_⟩
      · refine ((@closing _ w₂ _ _ accounts.position.key accounts.position.data _ hprogram
          owned).1 adapter k).trans ?_
        exact state?_iff_typed?.mp hstored₂
      · rw [balance_of_token? ht, balance_of_token? hlast]
        exact hbooked

/-- A completed withdrawal books what was asked for, and the protocol takes what it may. -/
theorem lodged_of_withdraw (hexec : OverTrustee curve layout adapter taking request.exec)
    (hcanonical : Canonical curve w)
    (hstored : w.typed? adapter.programId key = some (AnchorState.encode s))
    (hvault : adapter.shareVault s = some vault)
    (hlodged : Lodged (AdapterAccount.header s).position pool vault w) {shares : UInt64}
    (hix : request.ix = .withdraw shares) (hdone : request.Done curve w)
    (hnames : request.Names (AdapterAccount.header s).position) :
    Lodged (AdapterAccount.header s).position pool vault (request.apply curve w) ∧
      ∃ total held : UInt64,
        (request.apply curve w).typed? adapter.programId key =
          some (AnchorState.encode (AdapterAccount.setTotalShares s total)) ∧
        (AdapterAccount.header s).totalShares.toNat = total.toNat + shares.toNat ∧
        balance vault w ≤ held.toNat ∧
        (adapter ≠ .kaminoUsdc → held.toNat = balance vault w) ∧
        taking shares.toNat held.toNat (balance vault (request.apply curve w)) := by
  obtain ⟨protocol, hprotocol, hcallee⟩ := hexec
  obtain ⟨owner, bump, hposition⟩ := hcanonical.derived adapter key s hstored
  have hprogram := request.program
  have hlawful : Lawful (· = dispatcherId) request.exec := by
    rw [hcallee]
    exact Adapter.callee_lawful hprotocol.lawful
  obtain ⟨p, hp, -⟩ := hlodged.recorded
  have hkept : (request.apply curve w).typed? dispatcherId (AdapterAccount.header s).position =
      some (.position p) :=
    (enrolled_of_request hlawful).position_kept (World.state?_eq_some_iff_typed?.mp hp)
  obtain ⟨t, ht, hauthority⟩ := hlodged.held
  have hcompleted := Request.completed_of_done hdone
  rw [hix, hcallee] at hcompleted
  generalize request.apply curve w = w' at hcompleted hkept ⊢
  cases hcompleted with
  | @withdraw _ amountOut accounts w₁ w₂ accepted positive version routed returned paid owned =>
    have hadapter := accepted.program_eq hnames hposition
    obtain ⟨hpool, hata⟩ := hlodged.ne_of_accepted accepted hnames hposition
    -- paying the owner concerns neither the vault nor the state
    have hpaid : (∀ k, w₂.typed? adapter.programId k = w₁.typed? adapter.programId k) ∧
        w₂.token? vault = w₁.token? vault := by
      unfold payOut at paid
      split_ifs at paid
      · exact ⟨(framed_of_other hprotocol.lawful
          (fun adapter => adapter.programId_ne_tokenProgramId.symm) paid).typed?_eq adapter.suite,
          token?_of_transfer hprotocol.transfers paid hpool hata⟩
      · obtain ⟨-, rfl⟩ := Exec.pure_ok.mp paid
        exact ⟨fun _ => rfl, rfl⟩
    have hdecode : AdapterInstruction.decode (encodeWithdraw shares []) =
        .ok (.withdraw shares []) := decode_encodeWithdraw shares (by simp)
    have heffect := effect_of_routed hprotocol.lawful hadapter rfl hdecode routed
    cases heffect with
    | @withdrawn _ _ _ _ _ k _ s' _ _ hnamed hslot hbacks remains pooled _ _ measured hbooks =>
      obtain rfl := Option.some.inj hnamed
      obtain ⟨rfl, rfl⟩ := hcanonical.eq_of_position hstored hbooks.stored
        (hbacks.trans (accepted.named hnames))
      obtain ⟨v, v', hv, hv', hentry⟩ := entry_of_routed hadapter rfl routed
      have ht₀ : v.token? vault = some t := (World.token?_congr hv vault).trans ht
      have hstored₀ : v.state? adapter.State k = some s' :=
        (World.state?_congr hv k).trans (state?_iff_typed?.mpr hstored)
      have hlocked : ¬ SignedBelow (adapter.calledContext ⟨request.ctx.sysvar, request.ctx.stack,
          fundMovementInstruction accounts.adapterProgram accounts.instructionsSysvar
            accounts.position.info accounts.positionUsdcPool.info accounts.adapterState
            accounts.remainingAccounts (encodeWithdraw shares [])⟩).stack t.authority := by
        rw [hauthority]
        exact not_signedBelow_called (hposition ▸ derived_positionAddress _ _ _)
      obtain ⟨total, t', hrebooked, hburned, held, hle, hsteady, htaken⟩ :=
        Adapter.rebooked_of_withdraw hprotocol rfl hdecode
          ((Instruction.infos_key _ 3).trans hslot) hstored₀ hvault ht₀ hlocked hentry
      have hstored₁ : w₁.state? adapter.State k =
          some (AdapterAccount.setTotalShares s' total) :=
        (World.state?_congr hv' k).symm.trans hrebooked.stored
      have hholds := (World.token?_congr hv' vault).symm.trans hrebooked.holds
      have hlast := (token?_closing accounts.position.data
        (.withdrawn accounts.position.key shares amountOut) hprogram owned vault).trans
          (hpaid.2.trans hholds)
      refine ⟨hlodged.of_kept hp (World.state?_eq_some_iff_typed?.mpr hkept) hlast
        (hrebooked.authority.trans hauthority), total, held, ?_, hburned, ?_⟩
      · refine ((@closing _ w₂ _ _ accounts.position.key accounts.position.data _ hprogram
          owned).1 adapter k).trans ?_
        exact (hpaid.1 k).trans (state?_iff_typed?.mp hstored₁)
      · rw [balance_of_token? ht, balance_of_token? hlast]
        refine ⟨UInt64.le_iff_toNat_le.mp hle, fun hother => ?_, htaken⟩
        rw [hsteady hother]

/-- Rebooking a state changes neither its position nor its vault. -/
theorem shareVault_setTotalShares (s : adapter.State) (total : UInt64) :
    adapter.shareVault (AdapterAccount.setTotalShares s total) = adapter.shareVault s := by
  cases adapter <;> rfl

/-- The vault of every state is lodged with its position. -/
def AllLodged (adapter : Adapter) (w : Chain) : Prop :=
  ∀ key (s : adapter.State) vault, w.typed? adapter.programId key = some (AnchorState.encode s) →
    adapter.shareVault s = some vault →
      ∃ pool, Lodged (AdapterAccount.header s).position pool vault w

theorem moved_of_carried {label : Option Request} (hcanonical : Canonical curve w)
    (hlodged : AllLodged adapter w)
    (hstep : Step curve (OverAdapters curve layout) Suite w label w')
    (hstored : w.typed? adapter.programId key = some (AnchorState.encode s))
    (hvault : adapter.shareVault s = some vault)
    (hother : ∀ request, label = some request → request.Done curve w →
      ¬ request.Names (AdapterAccount.header s).position) :
    Moved curve adapter taking w w' label key vault s ∧
      ∃ pool, Lodged (AdapterAccount.header s).position pool vault w' := by
  obtain ⟨pool, hpool⟩ := hlodged key s vault hstored hvault
  obtain ⟨owner, bump, hposition⟩ := hcanonical.derived adapter key s hstored
  have hderived : Derived (AdapterAccount.header s).position :=
    hposition ▸ derived_positionAddress _ _ _
  obtain ⟨hkept, hgrown⟩ := hpool.carried hderived hstep hother
  exact ⟨.carried (state?_iff_typed?.mpr hstored) hother hgrown, pool, hkept⟩

/-- Whatever the step, every vault left was come by in one of the four ways, and is lodged. -/
theorem moved_of_step {label : Option Request} (hcanonical : Canonical curve w)
    (hlodged : AllLodged adapter w)
    (hstep : Step curve (OverTrustee curve layout adapter taking) Suite w label w')
    (hstored : w'.typed? adapter.programId key = some (AnchorState.encode s))
    (hvault : adapter.shareVault s = some vault) :
    Moved curve adapter taking w w' label key vault s ∧
      ∃ pool, Lodged (AdapterAccount.header s).position pool vault w' := by
  have hsuite := hstep.mono fun _ h => h.overAdapters
  have hcarried := fun hbefore => @moved_of_carried curve layout adapter taking w w' vault key s
    label hcanonical hlodged hsuite hbefore hvault
  -- a request for another position leaves the state and its vault alone
  have hforeign : ∀ {request : Request} {other : Adapter} {k : Pubkey} {s' : other.State}
      {after : ProgramState} {position : Pubkey}, label = some request →
      request.Names position → (AdapterAccount.header s').position = position →
      w.typed? other.programId k = some (AnchorState.encode s') → Adjusts other k after w w' →
      ¬ (adapter = other ∧ key = k) → Moved curve adapter taking w w' label key vault s ∧
        ∃ pool, Lodged (AdapterAccount.header s).position pool vault w' := by
    intro request other k s' after position hlabel hnames hbacks hstored' hadjusts hne
    have hbefore := (hadjusts adapter key).symm.trans hstored
    rw [if_neg hne] at hbefore
    refine hcarried hbefore fun request' hlabel' _ hnames' => hne ?_
    obtain rfl := Option.some.inj (hlabel.symm.trans hlabel')
    have hsame := Option.some.inj (hnames'.2.symm.trans hnames.2)
    obtain ⟨owner, bump, hposition⟩ := hcanonical.derived adapter key s hbefore
    obtain ⟨owner', bump', hposition'⟩ := hcanonical.derived other k s' hstored'
    rw [← hsame, hposition] at hbacks
    obtain rfl := Adapter.programId_inj
      (positionAddress_inj (hposition'.symm.trans hbacks)).2.1
    exact ⟨rfl, (hcanonical.eq_of_position hstored' hbefore
      (hposition.trans (hbacks.symm))).1⟩
  have hserved := served_of_step hsuite
  cases hserved with
  | quiet retains logged unrelated idle =>
    have hbefore := (retains adapter key).symm.trans hstored
    obtain ⟨owner, bump, hposition⟩ := hcanonical.derived adapter key s hbefore
    refine hcarried hbefore fun request hlabel hdone => ?_
    rw [hposition]
    exact idle request adapter owner bump hlabel hdone
  | @opened request other s' owner position k ix serves found vacant empty adjusts logged =>
    by_cases hsame : adapter = other ∧ key = k
    · obtain ⟨rfl, rfl⟩ := hsame
      have hstored' := (adjusts adapter key).trans (if_pos ⟨rfl, rfl⟩)
      obtain rfl := AnchorState.encode_inj (Option.some.inj (hstored'.symm.trans hstored))
      obtain ⟨owner', bump', hposition⟩ := serves.derived
      cases hstep with
      | request _ hexec =>
        obtain ⟨hopened, hbare⟩ := lodged_of_openPosition hexec ix serves.done serves.named
          hposition found (state?_iff_typed?.mpr hstored) serves.backs hvault
        rw [← serves.backs] at hopened
        exact ⟨.opened vacant empty hbare, hopened⟩
    · have hbefore := (adjusts adapter key).symm.trans hstored
      rw [if_neg hsame] at hbefore
      refine hcarried hbefore fun request' hlabel hdone hnames => ?_
      obtain rfl := Option.some.inj hlabel
      -- a position that is stored already is not opened again
      obtain ⟨pool, hpool⟩ := hlodged key s vault hbefore hvault
      obtain ⟨p, hp, -⟩ := hpool.recorded
      exact not_done_openPosition hp ix hnames hdone
  | @deposited request other s' position k amount shares total ix serves stored total_eq adjusts
      logged =>
    by_cases hsame : adapter = other ∧ key = k
    · obtain ⟨rfl, rfl⟩ := hsame
      have hstored' := (adjusts adapter key).trans (if_pos ⟨rfl, rfl⟩)
      obtain rfl := AnchorState.encode_inj (Option.some.inj (hstored'.symm.trans hstored))
      rw [shareVault_setTotalShares] at hvault
      rw [AdapterAccount.header_setTotalShares]
      obtain ⟨pool, hpool⟩ := hlodged key s' vault stored hvault
      cases hstep with
      | request _ hexec =>
        obtain ⟨hkept, total', hstored'', hbooked⟩ := lodged_of_deposit hexec hcanonical stored
          hvault hpool ix serves.done (serves.backs ▸ serves.named)
        have htotal := AnchorState.encode_inj (Option.some.inj (hstored''.symm.trans hstored))
        exact ⟨.deposited rfl ix serves.done (by simpa using serves.backs ▸ serves.named)
          (state?_iff_typed?.mpr stored) htotal.symm hbooked, pool, hkept⟩
    · exact hforeign rfl serves.named serves.backs stored adjusts hsame
  | @withdrawn request other s' position k shares amountOut total ix serves stored remains adjusts
      logged =>
    by_cases hsame : adapter = other ∧ key = k
    · obtain ⟨rfl, rfl⟩ := hsame
      have hstored' := (adjusts adapter key).trans (if_pos ⟨rfl, rfl⟩)
      obtain rfl := AnchorState.encode_inj (Option.some.inj (hstored'.symm.trans hstored))
      rw [shareVault_setTotalShares] at hvault
      rw [AdapterAccount.header_setTotalShares]
      obtain ⟨pool, hpool⟩ := hlodged key s' vault stored hvault
      cases hstep with
      | request _ hexec =>
        obtain ⟨hkept, total', held, hstored'', hburned, hle, hsteady, htaken⟩ :=
          lodged_of_withdraw hexec hcanonical stored hvault hpool ix serves.done
            (serves.backs ▸ serves.named)
        have htotal := AnchorState.encode_inj (Option.some.inj (hstored''.symm.trans hstored))
        exact ⟨.withdrawn rfl ix serves.done (by simpa using serves.backs ▸ serves.named)
          (state?_iff_typed?.mpr stored) htotal.symm hburned hle hsteady htaken, pool, hkept⟩
    · exact hforeign rfl serves.named serves.backs stored adjusts hsame

end Steps

/-! ### Along a run -/

section Backing

variable {curve : Curve} {layout : Layout ProgramState} {adapter : Adapter}
variable {taking : Nat → Nat → Nat → Prop} {w w' last : Chain}
variable {past : List (Chain × Option Request)} {key vault : Pubkey} {s : adapter.State}

theorem OverTrustees.overTrustee {exec : Callee ProgramState Event}
    (h : OverTrustees curve layout taking exec) (adapter : Adapter) :
    OverTrustee curve layout adapter taking exec := by
  obtain ⟨protocol, hprotocol, hexec⟩ := h
  exact ⟨protocol, hprotocol adapter, hexec⟩

/-- What is booked for the states of `adapter` is held in their vaults. -/
def AllCovered (adapter : Adapter) (w : Chain) : Prop :=
  ∀ key (s : adapter.State) vault, w.typed? adapter.programId key = some (AnchorState.encode s) →
    adapter.shareVault s = some vault →
      (AdapterAccount.header s).totalShares.toNat ≤ balance vault w

/-- A redemption of at most the shares asked for leaves the others covered. -/
theorem Moved.covered {label : Option Request}
    (h : Moved curve adapter AtMost w w' label key vault s) (hcovered : AllCovered adapter w)
    (hvault : adapter.shareVault s = some vault) :
    (AdapterAccount.header s).totalShares.toNat ≤ balance vault w' := by
  cases h with
  | opened vacant empty bare => simp [empty]
  -- what is booked stays, and the vault can only have grown
  | carried stored other grown =>
    exact (hcovered key s vault (state?_iff_typed?.mp stored) hvault).trans grown
  | @deposited _ _ total _ label_eq ix done named stored after booked =>
    rw [after, shareVault_setTotalShares] at hvault
    have hbefore := hcovered key _ vault (state?_iff_typed?.mp stored) hvault
    rw [after, AdapterAccount.header_setTotalShares]
    change total.toNat ≤ _
    omega
  | @withdrawn _ _ total _ _ label_eq ix done named stored after booked kept steady taken =>
    rw [after, shareVault_setTotalShares] at hvault
    have hbefore := hcovered key _ vault (state?_iff_typed?.mp stored) hvault
    rw [after, AdapterAccount.header_setTotalShares]
    unfold AtMost at taken
    change total.toNat ≤ _
    omega

theorem canonical_of_run
    (run : Run Untouched (Step curve (OverTrustee curve layout adapter taking) Suite) past last) :
    Canonical curve last :=
  (reported_of_run (run.mono fun _ _ _ h => h.mono fun _ h' => h'.overAdapters)).1

/-- In every state a run reaches, each vault is lodged with its position. -/
theorem allLodged_of_run
    (run : Run Untouched (Step curve (OverTrustee curve layout adapter taking) Suite) past last) :
    AllLodged adapter last := by
  refine run.invariant (fun _ w => AllLodged adapter w) ?_ ?_
  · intro w hstart key s vault hstored
    simp [hstart.vacant] at hstored
  · intro past w label w' hrun hlodged hstep key s vault hstored hvault
    exact (moved_of_step (canonical_of_run hrun) hlodged hstep hstored hvault).2

theorem allCovered_of_run
    (run : Run Untouched (Step curve (OverTrustee curve layout adapter AtMost) Suite) past last) :
    AllCovered adapter last := by
  refine run.invariant (fun _ w => AllCovered adapter w) ?_ ?_
  · intro w hstart key s vault hstored
    simp [hstart.vacant] at hstored
  · intro past w label w' hrun hcovered hstep key s vault hstored hvault
    have hmoved := (moved_of_step (canonical_of_run hrun) (allLodged_of_run hrun) hstep hstored
      hvault).1
    exact hmoved.covered hcovered hvault

/-- Two states stored at different addresses back different positions. -/
theorem Canonical.position_ne {other : Adapter} {k : Pubkey} {s' : other.State}
    (h : Canonical curve w)
    (hstored : w.typed? adapter.programId key = some (AnchorState.encode s))
    (hstored' : w.typed? other.programId k = some (AnchorState.encode s')) (hne : k ≠ key) :
    (AdapterAccount.header s').position ≠ (AdapterAccount.header s).position := by
  intro hsame
  obtain ⟨owner, bump, hposition⟩ := h.derived adapter key s hstored
  obtain ⟨owner', bump', hposition'⟩ := h.derived other k s' hstored'
  rw [hposition, hposition'] at hsame
  -- one position would make them states of one adapter, at one address
  obtain rfl := Adapter.programId_inj (positionAddress_inj hsame).2.1
  refine hne (h.eq_of_position hstored hstored' ?_).1
  rw [hposition, hposition', hsame]

/-- The vault of a state is neither the vault nor the pool of another position. -/
theorem Lodged.ne_of_ne {position position' pool pool' vault' : Pubkey}
    (h : Lodged position pool vault w) (h' : Lodged position' pool' vault' w)
    (hne : position' ≠ position) : vault' ≠ vault ∧ vault' ≠ pool := by
  obtain ⟨mint, bump, rfl⟩ := h.vaultAddress
  obtain ⟨poolMint, poolBump, rfl⟩ := h.poolAddress
  obtain ⟨mint', bump', rfl⟩ := h'.vaultAddress
  exact ⟨associated_ne hne, associated_ne hne⟩

/-- In every state a run reaches, the shares booked for a position are in its vault, which is
the position's own and apart from its pool and from all the other vaults. No withdrawal asks
a protocol for shares that the vault does not hold. -/
theorem shares_backed
    (run : Run Untouched (Step curve (OverTrustees curve layout AtMost) Suite) past last)
    (hstored : last.state? adapter.State key = some s)
    (hvault : adapter.shareVault s = some vault) :
    (AdapterAccount.header s).totalShares.toNat ≤ balance vault last ∧
    (∃ pool, Lodged (AdapterAccount.header s).position pool vault last ∧
      ∀ (other : Adapter) k (s' : other.State) vault', last.state? other.State k = some s' →
        other.shareVault s' = some vault' → k ≠ key → vault' ≠ vault ∧ vault' ≠ pool) ∧
    ∀ protocol ctx data shares adapterData call,
      AdapterInstruction.decode data = .ok (.withdraw shares adapterData) →
      ctx.accounts[3]?.map (·.key) = some key →
      call ∈ (adapter.entry curve protocol layout ctx data last.fresh).2.calls →
      ∀ asked amount, adapter.Redeems call.instruction asked amount →
        asked = vault ∧ amount.toNat ≤ balance vault last := by
  -- the run is one over each of the adapters
  have hrun := fun other : Adapter => run.mono fun _ _ _ h => h.mono fun _ h' =>
    OverTrustees.overTrustee h' other
  have htyped := state?_iff_typed?.mp hstored
  have hcanonical := canonical_of_run (hrun adapter)
  have hcovered := allCovered_of_run (hrun adapter) key s vault htyped hvault
  refine ⟨hcovered, ?_, ?_⟩
  · obtain ⟨pool, hpool⟩ := allLodged_of_run (hrun adapter) key s vault htyped hvault
    refine ⟨pool, hpool, fun other k s' vault' hstored' hvault' hne => ?_⟩
    have htyped' := state?_iff_typed?.mp hstored'
    obtain ⟨pool', hpool'⟩ := allLodged_of_run (hrun other) k s' vault' htyped' hvault'
    exact hpool.ne_of_ne hpool' (hcanonical.position_ne htyped htyped' hne)
  · intro protocol ctx data shares adapterData call hdecode hslot hcall asked amount hredeems
    obtain ⟨hasked, hle⟩ := Adapter.asksWithin_of_withdraw hdecode hslot
      (w := last) hstored hvault hcall asked amount hredeems
    exact ⟨hasked, (UInt64.le_iff_toNat_le.mp hle).trans hcovered⟩

end Backing

/-! ### A holder of syrupUSDC

An Orca that swaps one for one, and the owner's position on it. -/

namespace Sample

def orca : Pubkey := .key 40

def syrupMint : Pubkey := .key 41

def whirlpool : Pubkey := .key 42

def syrupReserve : Pubkey := .key 43

def usdcReserve : Pubkey := .key 44

/-- A token account of the syrupUSDC mint. -/
def syrup (authority : Pubkey) (amount : UInt64) : Account ProgramState :=
  ⟨tokenProgramId, false, .token ⟨syrupMint, authority, amount⟩⟩

/-- Swaps of as many tokens as are sent in, between four different accounts. -/
def trade : Callee ProgramState Event := fun call w =>
  if call.instruction.programId = orca then
    match call.instruction.data, call.instruction.accounts with
    | .bytes data, [_, _, _, ownerA, vaultA, ownerB, vaultB, _, _, _, _] =>
      if data.take 8 = MapleSyrup.orcaSwap ∧
          ownerA.pubkey ∉ [vaultA.pubkey, vaultB.pubkey, ownerB.pubkey] then do
        let amount ← amountAt 8 data
        -- the last byte is `a_to_b`
        if data.getLast? = some 1 then
          let w ← pay orca call ownerA.pubkey vaultA.pubkey amount w
          pay orca call vaultB.pubkey ownerB.pubkey amount w
        else
          let w ← pay orca call ownerB.pubkey vaultB.pubkey amount w
          pay orca call vaultA.pubkey ownerA.pubkey amount w
      else none
    | _, _ => none
  else tokenTransfer call w

/-- A completed call is a transfer, or two pays in the direction asked for. -/
theorem trade_ok {call : Call} {w w' : Chain} (h : trade call w = some w') :
    tokenTransfer call w = some w' ∨ ∃ data ownerA vaultA ownerB vaultB amount w₁,
      call.instruction.data = .bytes data ∧ data.take 8 = MapleSyrup.orcaSwap ∧
      call.instruction.accounts[3]?.map (·.pubkey) = some ownerA ∧
      ownerA ∉ [vaultA, vaultB, ownerB] ∧ amountAt 8 data = some amount ∧
      (data.getLast? = some 1 ∧ pay orca call ownerA vaultA amount w = some w₁ ∧
          pay orca call vaultB ownerB amount w₁ = some w' ∨
        data.getLast? ≠ some 1 ∧ pay orca call ownerB vaultB amount w = some w₁ ∧
          pay orca call vaultA ownerA amount w₁ = some w') := by
  unfold trade at h
  split_ifs at h with horca
  · right
    split at h
    · rename_i data _ _ _ ownerA vaultA ownerB vaultB _ _ _ _ hdata haccounts
      split_ifs at h with hshape hlast
      · simp only [Option.bind_eq_bind, Option.bind_eq_some_iff] at h
        obtain ⟨amount, hamount, w₁, hin, hout⟩ := h
        exact ⟨data, _, _, _, _, amount, w₁, hdata, hshape.1, by rw [haccounts]; rfl, hshape.2,
          hamount, .inl ⟨hlast, hin, hout⟩⟩
      · simp only [Option.bind_eq_bind, Option.bind_eq_some_iff] at h
        obtain ⟨amount, hamount, w₁, hin, hout⟩ := h
        exact ⟨data, _, _, _, _, amount, w₁, hdata, hshape.1, by rw [haccounts]; rfl, hshape.2,
          hamount, .inr ⟨hlast, hin, hout⟩⟩
    · cases h
  · exact .inl h

/-- Whatever a transfer and the pays of a swap keep is kept. -/
theorem trade_within {R : Chain → Chain → Prop} {call : Call} {w w' : Chain}
    (htrans : ∀ {w₁ w₂ w₃}, R w₁ w₂ → R w₂ w₃ → R w₁ w₃)
    (hpay : ∀ {source destination amount w₁ w₂},
      pay orca call source destination amount w₁ = some w₂ → R w₁ w₂)
    (htransfer : tokenTransfer call w = some w' → R w w') (h : trade call w = some w') :
    R w w' := by
  rcases trade_ok h with h | ⟨_, _, _, _, _, _, w₁, -, -, -, -, -, ⟨-, hin, hout⟩ | ⟨-, hin, hout⟩⟩
  · exact htransfer h
  · exact htrans (hpay hin) (hpay hout)
  · exact htrans (hpay hin) (hpay hout)

theorem trade_lawful : Lawful Suite trade := by
  intro call w w' h
  exact trade_within Framed.trans pay_framed
    (tokenTransfer_lawful not_suite_tokenProgramId _ _ _) h

theorem trade_vested : Vested trade := by
  intro call w w' key t t' h ht ht'
  have htenure : Tenure w w' :=
    trade_within (trans_of Tenure) pay_tenure (tokenTransfer_tenured _ _ _) h
  obtain ⟨t₁, ht₁, -, hauthority⟩ := htenure key t ht
  obtain rfl := Option.some.inj (ht₁.symm.trans ht')
  exact hauthority

/-- A pay between two accounts takes the amount out of the one. -/
theorem token?_of_pay {program source destination : Pubkey} {call : Call} {amount : UInt64}
    {w w' : Chain} {t : TokenAccount}
    (h : pay program call source destination amount w = some w') (hne : source ≠ destination)
    (ht : w.token? source = some t) :
    ∃ t', w'.token? source = some t' ∧ t.amount.toNat = t'.amount.toNat + amount.toNat := by
  simp only [pay, Option.bind_eq_bind, Option.bind_eq_some_iff] at h
  obtain ⟨_, -, hmoved⟩ := h
  split_ifs at hmoved
  obtain ⟨s, d, hs, -, -, ⟨hsame, -⟩ | ⟨-, left, total, hleft, -, rfl⟩⟩ := moveTokens_ok hmoved
  · exact absurd hsame hne
  · obtain rfl := Option.some.inj (ht.symm.trans hs)
    refine ⟨{ t with amount := left }, ?_, hleft⟩
    rw [World.token?_putToken, if_neg hne, World.token?_putToken, if_pos rfl]

/-- A pay between two other accounts. -/
theorem token?_of_pay_ne {program source destination key : Pubkey} {call : Call} {amount : UInt64}
    {w w' : Chain} (h : pay program call source destination amount w = some w')
    (hsource : key ≠ source) (hdestination : key ≠ destination) :
    w'.token? key = w.token? key := by
  simp only [pay, Option.bind_eq_bind, Option.bind_eq_some_iff] at h
  obtain ⟨_, -, hmoved⟩ := h
  split_ifs at hmoved
  obtain ⟨s, d, -, -, -, ⟨-, rfl⟩ | ⟨-, left, total, -, -, rfl⟩⟩ := moveTokens_ok hmoved
  · rfl
  · rw [World.token?_putToken, if_neg hdestination, World.token?_putToken, if_neg hsource]

/-- What a redemption by the Maple adapter spells. -/
theorem swap_data (shares : UInt64) :
    amountAt 8 (MapleSyrup.orcaSwap ++ leBytes64 shares ++ leBytes64 0 ++
      leBytes 16 MapleSyrup.minSqrtPrice ++ [1, 1]) = some shares ∧
    (MapleSyrup.orcaSwap ++ leBytes64 shares ++ leBytes64 0 ++
      leBytes 16 MapleSyrup.minSqrtPrice ++ [1, 1]).getLast? = some 1 := by
  constructor
  · simp [amountAt, MapleSyrup.orcaSwap]
  · simp

theorem trade_redeeming (adapter : Adapter) : Redeeming adapter Exactly trade := by
  intro call vault shares w w' t _ hredeems h ht
  rcases trade_ok h with htransfer | ⟨data, ownerA, vaultA, ownerB, vaultB, amount, w₁, hdata,
    hdisc, hslot, hapart, hamount, hpaid⟩
  · -- a transfer redeems nothing
    obtain ⟨_, _, _, _, hdata, -⟩ := tokenTransfer_ok htransfer
    cases adapter with
    | kaminoUsdc => cases hdata.symm.trans hredeems.1
    | jupiterLp => cases hdata.symm.trans hredeems.1
    | mapleSyrup => cases hdata.symm.trans hredeems.1
    | marginfiUsdc => exact hredeems.elim
    | driftIf => exact hredeems.elim
  · cases adapter with
    | mapleSyrup =>
      obtain ⟨hsent, hvault⟩ := hredeems
      obtain rfl := InstructionData.bytes.inj (hdata.symm.trans hsent)
      obtain rfl := Option.some.inj (hslot.symm.trans hvault)
      obtain ⟨hshares, hlast⟩ := swap_data shares
      obtain rfl := Option.some.inj (hamount.symm.trans hshares)
      rcases hpaid with ⟨-, hin, hout⟩ | ⟨hdirection, -⟩
      · simp only [List.mem_cons, List.not_mem_nil, or_false, not_or] at hapart
        obtain ⟨t₁, ht₁, htaken⟩ := token?_of_pay hin hapart.1 ht
        exact ⟨t₁, (token?_of_pay_ne hout hapart.2.1 hapart.2.2).trans ht₁, htaken⟩
      · exact absurd hlast hdirection
    | kaminoUsdc =>
      obtain rfl := InstructionData.bytes.inj (hdata.symm.trans hredeems.1)
      simp [KaminoUsdc.klendRedeemReserveCollateral, MapleSyrup.orcaSwap] at hdisc
    | jupiterLp =>
      obtain rfl := InstructionData.bytes.inj (hdata.symm.trans hredeems.1)
      simp [JupiterLp.jupRemoveLiquidity2, MapleSyrup.orcaSwap] at hdisc
    | marginfiUsdc => exact hredeems.elim
    | driftIf => exact hredeems.elim

theorem trade_trustee (adapter : Adapter) : Trustee adapter Exactly trade where
  lawful := trade_lawful
  transfers call amount w w' hprogram hdata h := by
    rw [trade, if_neg (by rw [hprogram]; decide)] at h
    exact h
  vested := trade_vested
  redeeming := trade_redeeming adapter

/-- The Maple adapter over that Orca. -/
def trader : Callee ProgramState Event := Adapter.callee curve layout trade

theorem trader_overTrustees : OverTrustees curve layout AtMost trader :=
  ⟨trade, fun adapter => (trade_trustee adapter).mono fun _ _ _ => Nat.le_of_eq, rfl⟩

/-- The position's syrupUSDC account. -/
def syrupKey : Pubkey :=
  .pda associatedTokenProgramId
    (associatedTokenSeeds (positionKey MapleSyrup.programId) syrupMint) 255

/-- A whirlpool at par with both its vaults, and someone else's 5 syrupUSDC. -/
def market : Chain :=
  funded MapleSyrup.programId
    [(orca, program), (syrupMint, ⟨tokenProgramId, false, .mint ⟨none, 0, 6, none⟩⟩),
      (whirlpool, ⟨orca, false, .raw (whirlpoolOf (2 ^ 64))⟩),
      (syrupReserve, syrup (vaultAuthority orca) 100),
      (usdcReserve, usdc (vaultAuthority orca) 100), (.key 45, syrup (.key 46) 5)]

def holderOpens : Request :=
  request (openAccounts MapleSyrup.programId (stateKey MapleSyrup.programId)
    [readonly syrupMint, writable syrupKey, readonly whirlpool, readonly tokenProgramId,
      readonly associatedTokenProgramId]) .openPosition trader (by decide)

/-- Program, whirlpool, the position's account, both vaults, tick arrays and oracle. -/
def swapAccounts : List AccountInfo :=
  fundAccounts MapleSyrup.programId (stateKey MapleSyrup.programId)
    [readonly orca, writable whirlpool, writable syrupKey, writable syrupReserve,
      writable usdcReserve, writable (.key 47), writable (.key 48), writable (.key 49),
      writable (.key 50), readonly tokenProgramId]

def holderDeposits : Request := request swapAccounts (.deposit 10) trader (by decide)

def holderOpened : Chain := holderOpens.apply curve market

/-- After 10 were deposited. -/
def holding : Chain := holderDeposits.apply curve holderOpened

def holderPast : List (Chain × Option Request) :=
  [(holderOpened, some holderDeposits), (market, some holderOpens)]

theorem holder_run {lawful : Callee ProgramState Event → Prop} (h : lawful trader) :
    Run Untouched (Step curve lawful Suite) holderPast holding := by
  refine .step (.step (.start (funded_untouched ?_)) ?_) ?_
  · simp [program, usdc, syrup]
  · exact .request holderOpens h
  · exact .request holderDeposits h

/-- The state account of the holder's position. -/
def syrupState (total : UInt64) : MapleSyrup.AdapterState where
  header :=
    { position := positionKey MapleSyrup.programId
      adapterProgram := MapleSyrup.programId
      createdAt := 0
      totalShares := total }
  whirlpool := whirlpool
  syrupTokenAccount := syrupKey
  bump := 255

theorem holding_stored : holding.state? MapleSyrup.AdapterState (stateKey MapleSyrup.programId) =
    some (syrupState 10) := by decide +kernel

/-- The 10 shares booked are in the account. -/
theorem shares_backed_holding :
    (syrupState 10).header.totalShares.toNat ≤ balance syrupKey holding :=
  (@shares_backed curve layout .mapleSyrup holding holderPast (stateKey MapleSyrup.programId)
    syrupKey (syrupState 10) (holder_run trader_overTrustees) holding_stored rfl).1

end Sample

end YieldAdapter.Dispatcher

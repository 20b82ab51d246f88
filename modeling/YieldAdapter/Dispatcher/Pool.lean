import YieldAdapter.Dispatcher.Roster
import YieldAdapter.Dispatcher.Shares

/-!
# The position's pool

A withdrawal pays the owner what the protocol put into the position's USDC pool during
the call, no more and no less, and leaves the rest of the pool where it was. A deposit
moves the requested amount into the pool and leaves there whatever the protocol does not
take. Along any run the pool therefore holds what the deposits left behind, whether or
not shares are booked against it.
-/

set_option autoImplicit false

namespace YieldAdapter.Dispatcher

open Solana

/-- What is relied on of the programs below the adapters: they leave this repository's
accounts alone, transfers are the Token program's, and no token account changes hands. -/
structure Custodial (protocol : Callee ProgramState Event) : Prop where
  lawful : Lawful Suite protocol
  transfers : Transfers protocol
  tenured : Tenured protocol

/-- The programs called are the adapters, over such a protocol. -/
def OverCustodial (curve : Curve) (layout : Layout ProgramState)
    (exec : Callee ProgramState Event) : Prop :=
  ∃ protocol, Custodial protocol ∧ exec = Adapter.callee curve layout protocol

section Tokens

variable {curve : Curve} {layout : Layout ProgramState} {protocol : Callee ProgramState Event}
variable {ctx : Context} {w w' : Chain}

theorem OverCustodial.overAdapters {exec : Callee ProgramState Event}
    (h : OverCustodial curve layout exec) : OverAdapters curve layout exec := by
  obtain ⟨protocol, hprotocol, hexec⟩ := h
  exact ⟨protocol, hprotocol.lawful, hexec⟩

theorem OverAdapters.lawful {exec : Callee ProgramState Event}
    (h : OverAdapters curve layout exec) : Lawful (· = dispatcherId) exec := by
  obtain ⟨protocol, hprotocol, rfl⟩ := h
  exact Adapter.callee_lawful hprotocol

/-- Over such a protocol the adapters keep token accounts in their hands, too. -/
theorem callee_tenured (hprotocol : Tenured protocol) :
    Tenured (Adapter.callee curve layout protocol) := by
  intro call w w' h
  cases hfound : Adapter.ofProgramId call.instruction.programId with
  | none =>
    rw [Adapter.callee, hfound] at h
    exact hprotocol call w w' h
  | some adapter =>
    have hprogram := Adapter.ofProgramId_eq_some hfound
    obtain ⟨data, ix, -, -, hcompleted⟩ := Adapter.completed_of_callee hprogram h
    have : Permits (adapter.calledContext call).programId
        (Tenure (σ := ProgramState) (η := Event)) :=
      Tenure.permits adapter.programId_ne_tokenProgramId
    have hcleared : Tenure w w.fresh := Quiet.settled rfl rfl
    exact trans_of Tenure hcleared (hcompleted.within fun _ _ _ _ => hprotocol _ _ _)

/-- A completed transfer, as the token accounts show it. -/
theorem transfer_ok (htransfers : Transfers protocol) {source destination authority : AccountInfo}
    {amount : UInt64} {signerSeeds : List (Seeds × UInt8)}
    (h : transfer curve (Adapter.callee curve layout protocol) ctx source destination authority
      amount signerSeeds w = (.ok (), w')) :
    ∃ s d, w.token? source.key = some s ∧ w.token? destination.key = some d ∧
      s.authority = authority.key ∧
      (source.key = destination.key ∧ (∀ k, w'.token? k = w.token? k) ∨ ∃ left total : UInt64,
        s.amount.toNat = left.toNat + amount.toNat ∧ total.toNat = d.amount.toNat + amount.toNat ∧
        ∀ k, w'.token? k = if k = destination.key then some { d with amount := total }
          else if k = source.key then some { s with amount := left } else w.token? k) := by
  obtain ⟨_, w₁, -, -, hrun, rfl⟩ := invokeSigned_ok h
  -- the Token program is not one of the adapters
  rw [Adapter.callee_of_other fun adapter => adapter.programId_ne_tokenProgramId.symm] at hrun
  have hrun' := htransfers _ amount _ _ rfl rfl hrun
  obtain ⟨amount', source', destination', authority', hdata, haccounts, hauthority, -, hmoved⟩ :=
    tokenTransfer_ok hrun'
  obtain rfl := InstructionData.transfer.inj hdata
  simp only [transferInstruction, List.cons.injEq, and_true] at haccounts
  obtain ⟨rfl, rfl, rfl⟩ := haccounts
  obtain ⟨s, d, hs, hd, -, hcases⟩ := moveTokens_ok hmoved
  refine ⟨s, d, hs, hd, ?_, ?_⟩
  · rw [hs] at hauthority
    exact Option.some.inj hauthority
  · rcases hcases with ⟨hsame, rfl⟩ | ⟨-, left, total, hleft, htotal, rfl⟩
    · exact .inl ⟨hsame, fun _ => rfl⟩
    · refine .inr ⟨left, total, hleft, htotal, fun k => ?_⟩
      change World.token? (World.putToken (World.putToken _ _ _) _ _) k = _
      rw [World.token?_putToken, World.token?_putToken]
      rfl

end Tokens

/-! ### Requests that leave a position alone -/

section Spared

variable {curve : Curve} {request : Request} {w : Chain} {position : Pubkey}

theorem tenure_of_request (hexec : Tenured request.exec) :
    Tenure w (request.apply curve w) := by
  have hpermits : Permits dispatcherId (Tenure (σ := ProgramState) (η := Event)) :=
    Tenure.permits (by decide)
  exact Request.apply_within fun _ _ _ _ => hexec _ _ _

/-- A position, once opened, is never rewritten. -/
theorem Enrolled.position_kept {signed : Pubkey → Prop} {w' : Chain}
    (h : Enrolled curve signed w w') {p : Position}
    (hstored : w.typed? dispatcherId position = some (.position p)) :
    w'.typed? dispatcherId position = some (.position p) := by
  cases h with
  | unchanged after =>
    rw [after]
    exact hstored
  | founded found vacant none_yet after =>
    rw [after, if_neg (World.ne_of_vacant vacant hstored)]
    exact hstored
  | listed stored admin found vacant version short room counted after =>
    have hregistry := World.ne_of_stored (by simp) hstored stored
    rw [after, if_neg (World.ne_of_vacant vacant hstored), if_neg hregistry]
    exact hstored
  | switched isActive stored admin listed after =>
    rw [after, if_neg (World.ne_of_stored (by simp) hstored listed)]
    exact hstored
  | opened vacant after =>
    rw [after, if_neg (World.ne_of_vacant vacant hstored)]
    exact hstored

/-- A request that completes without naming a position has not used its signature. -/
theorem framed_of_not_names (hexec : Lawful (· = dispatcherId) request.exec)
    (hderived : Derived position) (hnames : request.Done curve w → ¬ request.Names position) :
    Framed (fun _ => False) (· ≠ position) w (request.apply curve w) := by
  rcases request.apply_cases curve w with ⟨-, hunchanged⟩ | ⟨hrun, hcompleted⟩
  · rw [hunchanged]
    exact .refl w
  have hprogram := request.program
  replace hnames := hnames (congrArg Prod.fst hrun)
  have hunsigned : ∀ {key}, request.ctx.Signer key → key ≠ position := by
    rintro key hkey rfl
    exact request.unsigned hkey hderived
  -- a call has not used it unless it carries it
  have hcalled : ∀ {instruction : Instruction} {seeds onFailure} {w₁ w₂ : Chain},
      (∀ key ∈ Call.signers ⟨request.ctx.sysvar, request.ctx.stack, instruction⟩, key ≠ position) →
      invokeSigned curve request.exec request.ctx instruction seeds onFailure w₁ = (.ok (), w₂) →
        Framed (fun _ => False) (· ≠ position) w₁ w₂ := by
    intro instruction seeds onFailure w₁ w₂ hsigners h
    refine (invokeSigned_framed hexec h).mono (fun _ => False.elim) ?_
    rintro key (hkey | hbelow) rfl
    · exact hsigners _ hkey rfl
    · exact request.not_signedBelow (.inr hderived) hbelow
  have hpermits : Permits request.ctx.programId
      (Framed (σ := ProgramState) (η := Event) (fun _ => False) (· ≠ position)) := by
    rw [hprogram]
    exact Framed.permits (by simp) (by decide)
  have hannounced : ∀ event w₁, Framed (fun _ => False) (· ≠ position) w₁
      (announced request.ctx event w₁) := fun event w₁ => hpermits.emitted w₁ event
  have hcreated : ∀ {payer info seeds bump} {w₁ w₂ : Chain},
      initState curve request.ctx payer seeds info w₁ = (.ok bump, w₂) →
        Framed (fun _ => False) (· ≠ position) w₁ w₂ := fun h => initState_leaves.of_ok h
  have hwritten : ∀ {τ : Type} [AnchorState ProgramState τ] {key : Pubkey} {state : τ} {w₁ : Chain},
      w₁.ownedBy request.ctx.programId key = true →
        Framed (fun _ => False) (· ≠ position) w₁ (written request.ctx key state w₁) :=
    fun howned => hpermits.written howned
  have hfresh : Framed (fun _ => False) (· ≠ position) w w.fresh := .settled rfl rfl
  refine hfresh.trans ?_
  generalize request.apply curve w = w' at hcompleted
  generalize hix : request.ix = ix at hcompleted
  -- the position named, for the instructions that name one
  have hother : ∀ {key}, ix.movesFunds = true → request.ctx.accounts[3]?.map (·.key) = some key →
      key ≠ position := by
    rintro key hmoves hslot rfl
    exact hnames ⟨hix ▸ hmoves, hslot⟩
  cases hcompleted with
  | initializeRegistry loaded created owned => exact (hcreated created).trans (hwritten owned)
  | @whitelistAdapter name interfaceVersion bump adapterCount addedAt accounts w₁ loaded passed
      created short version room counted ownedRegistry ownedEntry =>
    have hcounted := @hwritten Registry _ accounts.registry.key
      { accounts.registry.data with adapterCount }
      (announced request.ctx
        (.adapterWhitelisted accounts.adapterProgram.key name interfaceVersion) w₁) ownedRegistry
    exact (hcreated created).trans ((hannounced _ _).trans (hcounted.trans (hwritten ownedEntry)))
  | pauseAdapter loaded passed owned => exact (hannounced _ _).trans (hwritten owned)
  | @openPosition accounts bump createdAt w₁ w₂ w₃ loaded gate version created pooled routed
      owned =>
    have hpooled : Framed (fun _ => False) (· ≠ position) w₁ w₂ :=
      initAssociatedToken_leaves.of_ok pooled
    obtain ⟨_, _, hslots⟩ := loaded.slots
    have hrouted : Framed (fun _ => False) (· ≠ position) w₂ w₃ := by
      refine hcalled (fun key hkey => ?_) routed
      rcases mem_signers_initialize.mp hkey with (hkey | hkey) | ⟨info, hinfo, hsigner, hkey⟩
      · exact hkey ▸ hother rfl (by rw [hslots]; rfl)
      · exact hkey ▸ hunsigned loaded.signer
      · rw [← loaded.forwarded] at hinfo
        exact hkey ▸ hunsigned (signer_of_forwarded hinfo hsigner)
    exact (hcreated created).trans
      (hpooled.trans (hrouted.trans ((hannounced _ _).trans (hwritten owned))))
  | @deposit amount shares accounts w₁ w₂ accepted positive version funded routed returned owned =>
    obtain ⟨_, hslots⟩ := accepted.slots
    have hfunded : Framed (fun _ => False) (· ≠ position) w.fresh w₁ := by
      refine hcalled (fun key hkey => ?_) funded
      exact mem_signers_transfer.mp hkey ▸ hunsigned accepted.signer
    have hrouted : Framed (fun _ => False) (· ≠ position) w₁ w₂ := by
      refine hcalled (fun key hkey => ?_) routed
      rcases mem_signers_fundMovement.mp hkey with hkey | ⟨info, hinfo, hsigner, hkey⟩
      · exact hkey ▸ hother rfl (by rw [hslots]; rfl)
      · rw [← accepted.forwarded_deposit amount] at hinfo
        exact hkey ▸ hunsigned (signer_of_forwarded hinfo hsigner)
    exact hfunded.trans (hrouted.trans ((hannounced _ _).trans (hwritten owned)))
  | @withdraw shares amountOut accounts w₁ w₂ accepted positive version routed returned paid
      owned =>
    obtain ⟨_, hslots⟩ := accepted.slots
    have hsigner : accounts.position.key ≠ position := hother rfl (by rw [hslots]; rfl)
    have hrouted : Framed (fun _ => False) (· ≠ position) w.fresh w₁ := by
      refine hcalled (fun key hkey => ?_) routed
      rcases mem_signers_fundMovement.mp hkey with hkey | ⟨info, hinfo, hsigned, hkey⟩
      · exact hkey ▸ hsigner
      · rw [← accepted.forwarded_withdraw shares] at hinfo
        exact hkey ▸ hunsigned (signer_of_forwarded hinfo hsigned)
    have hpaid : Framed (fun _ => False) (· ≠ position) w₁ w₂ := by
      refine (payOut_framed hexec paid).mono (fun _ => False.elim) ?_
      rintro key (hkey | hbelow) rfl
      · exact hsigner hkey.symm
      · exact request.not_signedBelow (.inr hderived) hbelow
    exact hrouted.trans (hpaid.trans ((hannounced _ _).trans (hwritten owned)))
  | @currentValue value accounts w₁ accepted version routed returned =>
    have hrouted : Framed (fun _ => False) (· ≠ position) w.fresh w₁ := by
      refine hcalled (fun key hkey => ?_) routed
      obtain ⟨info, hinfo, hsigner, hkey⟩ := mem_signers_currentValue.mp hkey
      rw [← accepted.forwarded] at hinfo
      exact hkey ▸ hunsigned (signer_of_forwarded hinfo hsigner)
    have hreturned : Framed (fun _ => False) (· ≠ position) w₁
        { w₁ with returnData := (request.ctx.programId, leBytes64 value) } := .settled rfl rfl
    exact hrouted.trans (hreturned.trans (hannounced _ _))

end Spared

/-- The balance of a token account, and 0 if there is none. -/
def balance (key : Pubkey) (w : Chain) : Nat := (w.token? key).elim 0 (·.amount.toNat)

theorem balance_of_token? {key : Pubkey} {t : TokenAccount} {w : Chain}
    (h : w.token? key = some t) : balance key w = t.amount.toNat := by
  simp [balance, h]

/-! ### A withdrawal passes through -/

/-- The call of the adapter in a withdrawal with these accounts. -/
def withdrawCall (curve : Curve) (request : Request) (accounts : Withdraw) (shares : UInt64)
    (w : Chain) : Except Error Unit × Chain :=
  fundMovementIx curve request.exec request.ctx (encodeWithdraw shares [])
    accounts.adapterProgram accounts.instructionsSysvar accounts.position.info
    accounts.positionUsdcPool.info accounts.adapterState accounts.remainingAccounts
    (signerSeeds accounts.position.data) w

/-- The world in which the adapter stops that a withdrawal calls, completed or not. -/
def adapterStopped (curve : Curve) (layout : Layout ProgramState)
    (protocol : Callee ProgramState Event) (adapter : Adapter) (request : Request)
    (accounts : Withdraw) (shares : UInt64) (w : Chain) : Chain :=
  let instruction := fundMovementInstruction accounts.adapterProgram accounts.instructionsSysvar
    accounts.position.info accounts.positionUsdcPool.info accounts.adapterState
    accounts.remainingAccounts (encodeWithdraw shares [])
  adapter.stopped curve layout protocol ⟨request.ctx.sysvar, request.ctx.stack, instruction⟩
    (encodeWithdraw shares []) (w.called request.ctx instruction)

/-- The programs below the adapter leave the token account that the owner is paid to as it
was. -/
def SparesOwner (curve : Curve) (layout : Layout ProgramState)
    (protocol : Callee ProgramState Event) (adapter : Adapter) (request : Request)
    (shares : UInt64) (w : Chain) : Prop :=
  ∀ accounts, Deposit.load request.ctx w.fresh = .ok accounts →
    (adapterStopped curve layout protocol adapter request accounts shares w.fresh).token?
      accounts.ownerUsdcAta.key = w.token? accounts.ownerUsdcAta.key

/-- The programs below the adapter left less in the pool than there was. -/
def LowersPool (curve : Curve) (layout : Layout ProgramState)
    (protocol : Callee ProgramState Event) (adapter : Adapter) (request : Request)
    (shares : UInt64) (w : Chain) : Prop :=
  ∃ accounts, Deposit.load request.ctx w.fresh = .ok accounts ∧
    balance accounts.positionUsdcPool.key
        (adapterStopped curve layout protocol adapter request accounts shares w.fresh) <
      balance accounts.positionUsdcPool.key w

/-- The program called as the adapter, whichever it is, left something else than eight bytes of
its own as return data. -/
def Misreports (curve : Curve) (request : Request) (shares : UInt64) (w : Chain) : Prop :=
  ∃ accounts, Deposit.load request.ctx w.fresh = .ok accounts ∧
    (withdrawCall curve request accounts shares w.fresh).1 = .ok () ∧
      ¬ ((withdrawCall curve request accounts shares w.fresh).2.returnData.1 =
          accounts.adapterProgram.key ∧
        (withdrawCall curve request accounts shares w.fresh).2.returnData.2.length = 8)

instance (curve : Curve) (layout : Layout ProgramState) (protocol : Callee ProgramState Event)
    (adapter : Adapter) (request : Request) (shares : UInt64) (w : Chain) :
    Decidable (SparesOwner curve layout protocol adapter request shares w) :=
  decidableForallOk _ _

instance (curve : Curve) (layout : Layout ProgramState) (protocol : Callee ProgramState Event)
    (adapter : Adapter) (request : Request) (shares : UInt64) (w : Chain) :
    Decidable (LowersPool curve layout protocol adapter request shares w) :=
  decidableExistsOk _ _

instance (curve : Curve) (request : Request) (shares : UInt64) (w : Chain) :
    Decidable (Misreports curve request shares w) :=
  decidableExistsOk _ _

/-- What a withdrawal from `w` did that paid `paid`, where `between` is what the adapter's call
left: the pool gained `paid` during the call and holds the same before and after the
withdrawal, the owner's account gained `paid` after the call, and the adapter returned, and
both programs reported, `paid`. -/
structure PaysOut (curve : Curve) (adapter : Adapter) (request : Request)
    (accounts : Withdraw) (shares paid : UInt64) (w between : Chain) : Prop where
  accepted : accounts.Accepted curve request.ctx w.fresh
  called : withdrawCall curve request accounts shares w.fresh = (.ok (), between)
  measured : ∃ t t', w.token? accounts.positionUsdcPool.key = some t ∧
    between.token? accounts.positionUsdcPool.key = some t' ∧
      t'.amount.toNat = t.amount.toNat + paid.toNat
  returned : between.returnData = (adapter.programId, leBytes64 paid)
  reported : between.emittedBy adapter.programId =
    .adapterWithdraw accounts.position.key shares paid :: w.emittedBy adapter.programId
  transferred : 0 < paid → ⟨request.ctx.sysvar, request.ctx.stack,
    transferInstruction accounts.positionUsdcPool.info accounts.ownerUsdcAta.info
      accounts.position.info paid⟩ ∈ request.trace curve w
  announced : (request.apply curve w).emittedBy dispatcherId =
    .withdrawn accounts.position.key shares paid :: w.emittedBy dispatcherId
  pool : (request.apply curve w).token? accounts.positionUsdcPool.key =
    w.token? accounts.positionUsdcPool.key
  credited : ∃ t t', between.token? accounts.ownerUsdcAta.key = some t ∧
    (request.apply curve w).token? accounts.ownerUsdcAta.key = some t' ∧
      t'.amount.toNat = t.amount.toNat + paid.toNat

/-- Over the whole withdrawal the owner's account grew by what was paid, and by nothing else. -/
structure PassesThrough (curve : Curve) (adapter : Adapter) (request : Request)
    (accounts : Withdraw) (shares paid : UInt64) (w between : Chain) : Prop extends
    PaysOut curve adapter request accounts shares paid w between where
  owner : ∃ t t', w.token? accounts.ownerUsdcAta.key = some t ∧
    (request.apply curve w).token? accounts.ownerUsdcAta.key = some t' ∧
      t'.amount.toNat = t.amount.toNat + paid.toNat

section Withdrawals

variable {curve : Curve} {layout : Layout ProgramState} {protocol : Callee ProgramState Event}
variable {ctx : Context} {adapter : Adapter} {w w' between : Chain}

/-- Paying out moves the payout from the pool to the owner, two different accounts. -/
theorem payOut_ok (htransfers : Transfers protocol) {accounts : Withdraw} {paid : UInt64}
    (h : payOut curve (Adapter.callee curve layout protocol) ctx accounts paid between =
      (.ok (), w'))
    {t u : TokenAccount} (hpool : between.token? accounts.positionUsdcPool.key = some t)
    (howner : between.token? accounts.ownerUsdcAta.key = some u)
    (hne : u.authority ≠ accounts.position.key) :
    (∃ left : UInt64, t.amount.toNat = left.toNat + paid.toNat ∧
      w'.token? accounts.positionUsdcPool.key = some { t with amount := left }) ∧
    ∃ u', w'.token? accounts.ownerUsdcAta.key = some u' ∧
      u'.amount.toNat = u.amount.toNat + paid.toNat := by
  unfold payOut at h
  split_ifs at h with hpositive
  · obtain ⟨s, d, hs, hd, hauthority, hcases⟩ := transfer_ok htransfers h
    obtain rfl := Option.some.inj (hpool.symm.trans hs)
    obtain rfl := Option.some.inj (howner.symm.trans hd)
    -- the pool is the position's, and the owner's account is not
    have hdistinct : accounts.positionUsdcPool.key ≠ accounts.ownerUsdcAta.key := by
      intro hsame
      obtain rfl := Option.some.inj (hpool.symm.trans (hsame ▸ howner))
      exact hne hauthority
    obtain ⟨hsame, -⟩ | ⟨left, total, hleft, htotal, hafter⟩ := hcases
    · exact absurd hsame hdistinct
    · refine ⟨⟨left, hleft, ?_⟩, { u with amount := total }, ?_, htotal⟩
      · rw [hafter, if_neg hdistinct, if_pos rfl]
      · rw [hafter, if_pos rfl]
  · obtain ⟨-, rfl⟩ := Exec.pure_ok.mp h
    have hzero : paid.toNat = 0 := by
      rw [UInt64.lt_iff_toNat_lt] at hpositive
      simpa using hpositive
    exact ⟨⟨t.amount, by omega, hpool⟩, u, howner, by omega⟩

/-- The position's pool is not where the position itself is stored. -/
theorem token?_written {τ : Type} [AnchorState ProgramState τ] {key k : Pubkey} {s state : τ}
    {t : TokenAccount} (event : Event) (hstored : w.state? τ key = some s)
    (htoken : w.token? k = some t) :
    (written ctx key state (announced ctx event w')).token? k = w'.token? k := by
  unfold written
  rw [World.token?_put_ne (World.ne_of_token?_state? htoken hstored)]
  rfl

/-- Every withdrawal that completes through one of the adapters pays out what was measured. -/
theorem paysOut_of_done (hprotocol : Custodial protocol) {request : Request}
    {shares : UInt64} (hexec : request.exec = Adapter.callee curve layout protocol)
    (hix : request.ix = .withdraw shares)
    (hrouted : routedAdapter request.ctx request.ix = some adapter.programId)
    (hdone : request.Done curve w) :
    ∃ accounts paid between,
      PaysOut curve adapter request accounts shares paid w between := by
  have hrun := Request.run_of_done hdone
  have hcompleted := Request.completed_of_done hdone
  have hprogram := request.program
  rw [hix] at hcompleted hrouted
  have htrace : request.trace curve w = (request.apply curve w).calls := by
    rw [Request.trace, hrun]
  rw [hexec] at hcompleted
  generalize happly : request.apply curve w = w' at hcompleted htrace
  cases hcompleted with
  | @withdraw _ paid accounts between w₂ accepted positive version routed returned paidOut owned =>
    have hadapter : accounts.adapterProgram.key = adapter.programId := by
      have hrouted' := accepted.routed_withdraw shares
      exact Option.some.inj (hrouted'.symm.trans hrouted)
    have hcall := effect_of_routed hprotocol.lawful hadapter rfl
      (decode_encodeWithdraw shares (by simp)) routed
    rw [hadapter] at returned
    cases hcall with
    | @withdrawn _ amountOut total _ position key pool s before after named slot backs remains
        pooled held holds measured books =>
      -- the adapter speaks of the position and the pool of the withdrawal
      obtain rfl := Option.some.inj named
      obtain rfl := Option.some.inj pooled
      obtain rfl := leBytes64_inj (Prod.mk.inj (returned.symm.trans books.returned)).2
      have htenure : Tenure w.fresh between :=
        invokeSigned_within (callee_tenured hprotocol.tenured _) routed
      obtain ⟨u, hu, -, huAuthority⟩ := htenure _ _ accepted.ata
      obtain ⟨after', hafter', hmint, hauthority⟩ := htenure _ _ held
      obtain rfl := Option.some.inj (holds.symm.trans hafter')
      have hforeign : u.authority ≠ accounts.position.key := by
        obtain ⟨-, hposition⟩ := createProgramAddress_eq_some.mp accepted.seeds
        rw [huAuthority, accepted.ataAuthority, hposition, hprogram]
        exact owner_ne_positionAddress _ _ _
      obtain ⟨⟨left, hleft, hpool⟩, u', hu', hgrown⟩ :=
        payOut_ok hprotocol.transfers paidOut holds hu hforeign
      -- what is left after paying out is what there was before
      have hleft' : ({ after with amount := left } : TokenAccount) = before := by
        obtain ⟨m, a, n⟩ := before
        obtain ⟨m', a', n'⟩ := after
        obtain rfl : m' = m := hmint
        obtain rfl : a' = a := hauthority
        have hamount : left = n := by
          rw [← UInt64.toNat_inj]
          exact Nat.add_right_cancel (hleft.symm.trans (measured.trans (Nat.add_comm _ _)))
        rw [hamount]
      have hquiet : Logged [] between w₂ := by
        unfold payOut at paidOut
        split_ifs at paidOut
        · exact .of_framed (framed_of_other hprotocol.lawful
            (fun adapter => adapter.programId_ne_tokenProgramId.symm) paidOut)
        · obtain ⟨-, rfl⟩ := Exec.pure_ok.mp paidOut
          exact fun _ _ => rfl
      have hlogged := (books.logged.trans hquiet).trans
        (@closing _ w₂ _ _ accounts.position.key accounts.position.data
          (.withdrawn accounts.position.key shares paid) hprogram owned).2
      refine ⟨accounts, paid, between,
        { accepted
          called := by rw [withdrawCall, hexec]; exact routed
          measured := ⟨before, after, held, holds, by omega⟩
          returned
          reported := ?_
          transferred := fun hpositive => ?_
          announced := ?_
          pool := ?_
          credited := ⟨u, u', hu, ?_, hgrown⟩ }⟩
      · rw [books.logged _ adapter.suite]
        simp [AccountMeta.new]
      · rw [htrace]
        unfold payOut at paidOut
        rw [if_pos hpositive] at paidOut
        obtain ⟨_, w₃, -, -, -, rfl⟩ := invokeSigned_ok paidOut
        exact List.mem_cons_self ..
      · rw [happly, hlogged _ suite_dispatcherId]
        simp [adapter.programId_ne_dispatcherId]
      · rw [happly, token?_written _ accepted.position accepted.pool, hpool, hleft']
        exact held.symm
      · rw [happly, token?_written _ accepted.position accepted.ata]
        exact hu'

/-- What a completed withdrawal loaded, what its call left, and what was read from it. -/
theorem called_of_done {request : Request} {shares : UInt64} (hix : request.ix = .withdraw shares)
    (hdone : request.Done curve w) :
    ∃ (accounts : Withdraw) (between : Chain) (paid : UInt64),
      Deposit.load request.ctx w.fresh = .ok accounts ∧
      accounts.Accepted curve request.ctx w.fresh ∧
      withdrawCall curve request accounts shares w.fresh = (.ok (), between) ∧
        between.returnData = (accounts.adapterProgram.key, leBytes64 paid) := by
  have hrun := Request.run_of_done hdone
  unfold Request.run entry at hrun
  rw [hix] at hrun
  simp only [withdraw, routeWithdraw, Exec.bind_ok, Exec.read_ok, Exec.ofExcept_ok,
    Exec.require_ok, readReturn_ok] at hrun
  obtain ⟨_, _, ⟨rfl, rfl⟩, accounts, _, ⟨hload, rfl⟩, _, _, ⟨hconstraints, rfl⟩, _, _, ⟨-, rfl⟩,
    _, _, ⟨-, rfl⟩, paid, _, ⟨_, _, hcalled, hreturned, rfl⟩, -⟩ := hrun
  exact ⟨accounts, _, paid, hload, Deposit.accepted_of_load hload hconstraints, hcalled,
    hreturned⟩

/-- The adapter's call in a withdrawal that completes leaves the token accounts as the adapter
stopped with them, and the pool holds no less than before. -/
theorem tokens_of_withdrawCall {request : Request} {shares : UInt64} {accounts : Withdraw}
    (hexec : request.exec = Adapter.callee curve layout protocol)
    (hadapter : accounts.adapterProgram.key = adapter.programId)
    (h : withdrawCall curve request accounts shares w.fresh = (.ok (), between)) :
    (∀ key, between.token? key =
      (adapterStopped curve layout protocol adapter request accounts shares w.fresh).token?
        key) ∧
    ∃ t t', w.token? accounts.positionUsdcPool.key = some t ∧
      between.token? accounts.positionUsdcPool.key = some t' ∧
        t.amount.toNat ≤ t'.amount.toNat := by
  rw [withdrawCall, hexec] at h
  obtain ⟨_, w₁, -, -, hrun, rfl⟩ := invokeSigned_ok h
  refine ⟨fun key => ?_, ?_⟩
  · rw [← Adapter.stopped_of_callee hadapter rfl hrun]
    rfl
  · have hdecode : AdapterInstruction.decode (encodeWithdraw shares []) =
        .ok (.withdraw shares []) := decode_encodeWithdraw shares (by simp)
    obtain ⟨t, t', ht, ht', hle⟩ := Adapter.measured_of_callee hadapter rfl hdecode rfl hrun
    exact ⟨t, t', ht, ht', hle⟩

/-- A withdrawal through any of the adapters that completes passes through exactly what the
protocol paid into the pool, where the programs below the adapter leave the owner's account
alone. Where they lower the pool it fails as a whole, whatever they are; and so does every
withdrawal whose callee, whichever program that is, does not leave eight bytes of its own as
return data. -/
theorem withdraw_passes_through {request : Request} {shares : UInt64}
    (hix : request.ix = .withdraw shares) :
    (∀ {layout : Layout ProgramState} {protocol : Callee ProgramState Event} {adapter : Adapter},
      request.exec = Adapter.callee curve layout protocol →
      routedAdapter request.ctx request.ix = some adapter.programId →
        (Custodial protocol → SparesOwner curve layout protocol adapter request shares w →
          request.Done curve w → ∃ accounts paid between,
            PassesThrough curve adapter request accounts shares paid w between) ∧
        (LowersPool curve layout protocol adapter request shares w →
          ¬ request.Done curve w ∧ request.apply curve w = w)) ∧
    (Misreports curve request shares w →
      ¬ request.Done curve w ∧ request.apply curve w = w) := by
  -- a completed withdrawal ran with the accounts that load, and its call completed
  have hcalled : request.Done curve w → ∀ accounts : Withdraw,
      Deposit.load request.ctx w.fresh = .ok accounts → ∃ between paid,
        accounts.Accepted curve request.ctx w.fresh ∧
        withdrawCall curve request accounts shares w.fresh = (.ok (), between) ∧
          between.returnData = (accounts.adapterProgram.key, leBytes64 paid) := by
    intro hdone accounts hload
    obtain ⟨accounts', between, paid, hload', haccepted, hcall⟩ := called_of_done hix hdone
    obtain rfl := Except.ok.inj (hload'.symm.trans hload)
    exact ⟨between, paid, haccepted, hcall⟩
  have hrefused : (request.Done curve w → False) →
      ¬ request.Done curve w ∧ request.apply curve w = w :=
    fun hundone => ⟨hundone, Request.apply_of_not_done hundone⟩
  refine ⟨fun {layout protocol adapter} hexec hrouted => ?_, ?_⟩
  · have hadapter : ∀ accounts : Withdraw, accounts.Accepted curve request.ctx w.fresh →
        accounts.adapterProgram.key = adapter.programId := by
      intro accounts haccepted
      have hrouted' := haccepted.routed_withdraw shares
      rw [← hix] at hrouted'
      exact Option.some.inj (hrouted'.symm.trans hrouted)
    refine ⟨fun hprotocol hspares hdone => ?_, ?_⟩
    · obtain ⟨accounts, paid, between, hpaid⟩ := paysOut_of_done hprotocol hexec hix hrouted hdone
      obtain ⟨accounts', _, _, hload, haccepted, -⟩ := called_of_done hix hdone
      obtain rfl := haccepted.unique hpaid.accepted
      obtain ⟨htokens, -⟩ := tokens_of_withdrawCall hexec (hadapter _ haccepted) hpaid.called
      obtain ⟨t, t', ht, ht', hgrown⟩ := hpaid.credited
      -- the owner's account is the same before the adapter's call and after it
      rw [htokens, hspares accounts' hload] at ht
      exact ⟨accounts', paid, between, { hpaid with owner := ⟨t, t', ht, ht', hgrown⟩ }⟩
    · rintro ⟨accounts, hload, hlowered⟩
      refine hrefused fun hdone => ?_
      obtain ⟨between, paid, haccepted, hcall, -⟩ := hcalled hdone accounts hload
      obtain ⟨htokens, before, after, hbefore, hafter, hle⟩ :=
        tokens_of_withdrawCall hexec (hadapter accounts haccepted) hcall
      rw [htokens] at hafter
      rw [balance_of_token? hbefore, balance_of_token? hafter] at hlowered
      omega
  · rintro ⟨accounts, hload, -, hmisreported⟩
    refine hrefused fun hdone => hmisreported ?_
    obtain ⟨between, paid, -, hcall, hreturned⟩ := hcalled hdone accounts hload
    rw [hcall, hreturned]
    exact ⟨rfl, leBytes64_length paid⟩

end Withdrawals

/-! ### What deposits leave in the pool -/

/-- What a deposit has left after the owner's transfer, and after the adapter's call. -/
def depositStages (curve : Curve) (request : Request) (amount : UInt64) (w : Chain) :
    Option (Chain × Chain) :=
  match Deposit.load request.ctx w with
  | .error _ => none
  | .ok accounts =>
    match transfer curve request.exec request.ctx accounts.ownerUsdcAta.info
      accounts.positionUsdcPool.info accounts.owner amount [] w with
    | (.error _, _) => none
    | (.ok (), w₁) =>
      match fundMovementIx curve request.exec request.ctx (encodeDeposit amount [])
        accounts.adapterProgram accounts.instructionsSysvar accounts.position.info
        accounts.positionUsdcPool.info accounts.adapterState accounts.remainingAccounts
        (signerSeeds accounts.position.data) w₁ with
      | (.error _, _) => none
      | (.ok (), w₂) => some (w₁, w₂)

/-- What the protocol takes from the pool while a deposit runs. -/
def consumed (curve : Curve) (request : Request) (amount : UInt64) (pool : Pubkey) (w : Chain) :
    Int :=
  (depositStages curve request amount w.fresh).elim 0 fun (w₁, w₂) =>
    balance pool w₁ - balance pool w₂

instance (request : Request) (position : Pubkey) : Decidable (request.Names position) :=
  inferInstanceAs (Decidable (_ ∧ _))

/-- The part of a deposit of the position that the protocol has not taken; 0 for whatever
is no completed deposit of the position. -/
def residue (curve : Curve) (position pool : Pubkey) : Chain × Option Request → Int
  | (_, none) => 0
  | (w, some request) =>
    if request.Done curve w ∧ request.Names position then
      match request.ix with
      | .deposit amount => amount.toNat - consumed curve request amount pool w
      | _ => 0
    else 0

/-- The position is open, and its pool is empty. -/
def JustOpened (position pool : Pubkey) (w : Chain) : Prop :=
  ∃ p mint, w.state? Position position = some p ∧ p.usdcPool = pool ∧
    w.token? pool = some ⟨mint, position, 0⟩

/-- One step of a run over the adapters in which nothing but the position's own requests
pays into its pool. -/
def Undisturbed (curve : Curve) (layout : Layout ProgramState) (position pool : Pubkey)
    (w : Chain) (label : Option Request) (w' : Chain) : Prop :=
  Step curve (OverCustodial curve layout) Suite w label w' ∧
    ((∀ request, label = some request → request.Done curve w → ¬ request.Names position) →
      balance pool w' ≤ balance pool w)

/-- The position at `position` keeps its USDC in `pool`. -/
def Pooled (position pool : Pubkey) (w : Chain) : Prop :=
  ∃ p t, w.state? Position position = some p ∧ p.usdcPool = pool ∧
    w.token? pool = some t ∧ t.authority = position

section Residues

variable {curve : Curve} {layout : Layout ProgramState} {request : Request} {w w' : Chain}
variable {position pool : Pubkey}

theorem JustOpened.pooled (h : JustOpened position pool w) : Pooled position pool w := by
  obtain ⟨p, mint, hstored, hpool, htoken⟩ := h
  exact ⟨p, _, hstored, hpool, htoken, rfl⟩

theorem JustOpened.empty (h : JustOpened position pool w) : balance pool w = 0 := by
  obtain ⟨p, mint, -, -, htoken⟩ := h
  rw [balance_of_token? htoken]
  rfl

/-- Every step of a run leaves the position its pool. -/
theorem Pooled.step {label : Option Request} (h : Pooled position pool w)
    (hderived : Derived position)
    (hstep : Step curve (OverCustodial curve layout) Suite w label w') :
    Pooled position pool w' := by
  obtain ⟨p, t, hstored, hpool, htoken, hauthority⟩ := h
  rw [World.state?_eq_some_iff_typed?] at hstored
  cases hstep with
  | request request hexec =>
    have hlawful := hexec.overAdapters.lawful
    obtain ⟨protocol, hprotocol, hcallee⟩ := hexec
    have htenured : Tenured request.exec := hcallee ▸ callee_tenured hprotocol.tenured
    have htenure : Tenure w (request.apply curve w) := tenure_of_request htenured
    obtain ⟨t', ht', -, hauthority'⟩ := htenure pool t htoken
    refine ⟨p, t', ?_, hpool, ht', hauthority'.trans hauthority⟩
    rw [World.state?_eq_some_iff_typed?]
    exact (enrolled_of_request hlawful).position_kept hstored
  | outside hframed =>
    -- without the signature of the position its pool stays its own
    have hlocked := not_not.mpr (hauthority ▸ hderived)
    obtain ⟨t', ht', hauthority', -⟩ := hframed.amount_le htoken hlocked
    refine ⟨p, t', ?_, hpool, ht', hauthority'.trans hauthority⟩
    rw [World.state?_eq_some_iff_typed?]
    exact (hframed.typed?_eq suite_dispatcherId position).trans hstored

/-- The position that a deposit or a withdrawal names is the one it runs with. -/
theorem Deposit.Accepted.named {accounts : Deposit} (h : accounts.Accepted curve request.ctx w)
    (hnames : request.Names position) : accounts.position.key = position := by
  obtain ⟨_, hslots⟩ := h.slots
  have hslot := hnames.2
  rw [hslots] at hslot
  exact Option.some.inj hslot

theorem OpenPosition.Loadable.named {accounts : OpenPosition}
    (h : accounts.Loadable request.ctx w) (hnames : request.Names position) :
    accounts.position.key = position := by
  obtain ⟨_, _, hslots⟩ := h.slots
  have hslot := hnames.2
  rw [hslots] at hslot
  exact Option.some.inj hslot

/-- It runs with that position's pool. -/
theorem Deposit.Accepted.pool_eq {accounts : Deposit} {p : Position}
    (h : accounts.Accepted curve request.ctx w) (hnames : request.Names position)
    (hstored : w.state? Position position = some p) :
    accounts.positionUsdcPool.key = p.usdcPool := by
  have hsame := h.position
  rw [h.named hnames] at hsame
  rw [h.poolKey, Option.some.inj (hsame.symm.trans hstored)]

/-- The stages of a completed deposit, and that only they move tokens. -/
theorem depositStages_of_done {amount : UInt64} (hix : request.ix = .deposit amount)
    (hdone : request.Done curve w) :
    ∃ (accounts : Deposit) (w₁ w₂ : Chain), accounts.Accepted curve request.ctx w.fresh ∧
      transfer curve request.exec request.ctx accounts.ownerUsdcAta.info
        accounts.positionUsdcPool.info accounts.owner amount [] w.fresh = (.ok (), w₁) ∧
      depositStages curve request amount w.fresh = some (w₁, w₂) ∧
      (request.apply curve w).token? accounts.positionUsdcPool.key =
        w₂.token? accounts.positionUsdcPool.key := by
  have hrun := Request.run_of_done hdone
  unfold Request.run entry at hrun
  rw [hix] at hrun
  simp only [deposit, routeDeposit, emit, Exec.bind_ok, Exec.read_ok, Exec.ofExcept_ok,
    Exec.require_ok, Exec.modify_ok, readReturn_ok, store_ok] at hrun
  obtain ⟨_, _, ⟨rfl, rfl⟩, accounts, _, ⟨hload, rfl⟩, _, _, ⟨hconstraints, rfl⟩, _, _,
    ⟨-, rfl⟩, _, _, ⟨-, rfl⟩, _, w₁, funded, shares, w₂, ⟨_, _, routed, -, rfl⟩,
    _, _, rfl, -, happly⟩ := hrun
  have accepted := Deposit.accepted_of_load hload hconstraints
  refine ⟨accounts, w₁, w₂, accepted, funded, ?_, ?_⟩
  · simp only [depositStages, hload, funded, routed]
  · rw [happly]
    exact token?_written (.deposited accounts.position.key amount shares) accepted.position
      accepted.pool

/-- A deposit adds to the pool what the protocol does not take. -/
theorem balance_of_deposit (hexec : OverCustodial curve layout request.exec)
    (hpooled : Pooled position pool w) (hderived : Derived position) {amount : UInt64}
    (hix : request.ix = .deposit amount) (hdone : request.Done curve w)
    (hnames : request.Names position) :
    (balance pool (request.apply curve w) : Int) =
      balance pool w + (amount.toNat - consumed curve request amount pool w) := by
  obtain ⟨protocol, hprotocol, hcallee⟩ := hexec
  obtain ⟨p, t, hstored, hpool, htoken, hauthority⟩ := hpooled
  obtain ⟨accounts, w₁, w₂, accepted, funded, hstages, hafter⟩ := depositStages_of_done hix hdone
  have hkey : accounts.positionUsdcPool.key = pool :=
    (accepted.pool_eq hnames hstored).trans hpool
  have hinfo : accounts.positionUsdcPool.info.key = pool := hkey
  rw [hkey] at hafter
  rw [hcallee] at funded
  obtain ⟨s, d, hs, hd, hsource, hcases⟩ := transfer_ok hprotocol.transfers funded
  rw [hinfo] at hd hcases
  obtain rfl := Option.some.inj (hd.symm.trans htoken)
  -- the owner signs for the account debited, so it is not the pool
  have hdistinct : accounts.ownerUsdcAta.key ≠ pool := by
    intro hsame
    obtain rfl := Option.some.inj (hs.symm.trans (hsame ▸ hd))
    exact request.unsigned accepted.signer (hsource ▸ hauthority ▸ hderived)
  obtain ⟨hsame, -⟩ | ⟨left, total, -, htotal, hmoved⟩ := hcases
  · exact absurd hsame hdistinct
  have hfunded : balance pool w₁ = balance pool w + amount.toNat := by
    rw [balance_of_token? ((hmoved pool).trans (if_pos rfl)), balance_of_token? htoken, htotal]
  have hlast : balance pool (request.apply curve w) = balance pool w₂ := by
    rw [balance, hafter, balance]
  have htaken : consumed curve request amount pool w = balance pool w₁ - balance pool w₂ := by
    rw [consumed, hstages]
    rfl
  rw [hlast, htaken, hfunded]
  omega

/-- A withdrawal leaves the pool as it was. -/
theorem balance_of_withdraw {owner : Pubkey} {adapter : Adapter} {bump : UInt8}
    (hexec : OverCustodial curve layout request.exec)
    (hpooled : Pooled position pool w)
    (hposition : position = positionAddress owner adapter.programId bump) {shares : UInt64}
    (hix : request.ix = .withdraw shares) (hdone : request.Done curve w)
    (hnames : request.Names position) :
    balance pool (request.apply curve w) = balance pool w := by
  obtain ⟨protocol, hprotocol, hcallee⟩ := hexec
  obtain ⟨p, t, hstored, hpool, htoken, hauthority⟩ := hpooled
  have hcompleted := Request.completed_of_done hdone
  have hrouted : routedAdapter request.ctx request.ix = some adapter.programId := by
    rw [hix] at hcompleted ⊢
    generalize request.apply curve w = w' at hcompleted
    cases hcompleted with
    | @withdraw _ paid accounts between w₂ accepted =>
      -- the position's address tells the adapter
      have hseeds := accepted.seeds
      rw [accepted.named hnames, hposition, request.program] at hseeds
      have hsame := (positionAddress_inj (createProgramAddress_eq_some.mp hseeds).2).2.1
      rw [accepted.routed_withdraw shares, ← hsame]
  obtain ⟨accounts, paid, between, hpaid⟩ :=
    paysOut_of_done hprotocol hcallee hix hrouted hdone
  have hkey : accounts.positionUsdcPool.key = pool :=
    (hpaid.accepted.pool_eq hnames hstored).trans hpool
  have hkept := hpaid.pool
  rw [hkey] at hkept
  rw [balance, hkept, balance]

/-- An open position is not opened again. -/
theorem not_done_openPosition {p : Position} (hstored : w.state? Position position = some p)
    (hix : request.ix = .openPosition) (hnames : request.Names position) :
    ¬ request.Done curve w := by
  intro hdone
  have hcompleted := Request.completed_of_done hdone
  rw [hix] at hcompleted
  generalize request.apply curve w = w' at hcompleted
  cases hcompleted with
  | openPosition loaded gate version created =>
    obtain ⟨-, hvacant, -⟩ := initState_ok created
    rw [loaded.named hnames] at hvacant
    obtain ⟨executable, hthere⟩ := World.state?_eq_some.mp hstored
    rw [World.fresh_accounts] at hvacant
    simp [hvacant] at hthere

/-- One step adds its residue to the pool. -/
theorem balance_of_step {owner : Pubkey} {adapter : Adapter} {bump : UInt8}
    {label : Option Request} (hpooled : Pooled position pool w)
    (hposition : position = positionAddress owner adapter.programId bump)
    (hstep : Undisturbed curve layout position pool w label w') :
    (balance pool w' : Int) = balance pool w + residue curve position pool (w, label) := by
  have hderived : Derived position := hposition ▸ derived_positionAddress _ _ _
  obtain ⟨p, t, hstored, hpool, htoken, hauthority⟩ := id hpooled
  obtain ⟨hstep, hquiet⟩ := hstep
  cases hstep with
  | outside hframed =>
    obtain ⟨t', ht', -, hle⟩ := hframed.amount_le htoken (not_not.mpr (hauthority ▸ hderived))
    have hbelow := hquiet fun _ h => nomatch h
    rw [balance_of_token? ht', balance_of_token? htoken] at *
    rw [UInt64.le_iff_toNat_le] at hle
    simp only [residue]
    omega
  | request request hexec =>
    by_cases hown : request.Done curve w ∧ request.Names position
    · obtain ⟨hdone, hnames⟩ := hown
      simp only [residue, if_pos (And.intro hdone hnames)]
      cases hix : request.ix with
      -- these four name no position
      | initializeRegistry | whitelistAdapter | pauseAdapter | currentValue =>
        simp [Request.Names, hix, Ix.movesFunds] at hnames
      | openPosition => exact absurd hdone (not_done_openPosition hstored hix hnames)
      | deposit amount => exact balance_of_deposit hexec hpooled hderived hix hdone hnames
      | withdraw shares =>
        rw [balance_of_withdraw hexec hpooled hposition hix hdone hnames]
        simp
    · -- without the position's signature its pool cannot shrink
      have hother : request.Done curve w → ¬ request.Names position :=
        fun hdone hnames => hown ⟨hdone, hnames⟩
      have hframed : Framed (fun _ => False) (· ≠ position) w (request.apply curve w) :=
        framed_of_not_names hexec.overAdapters.lawful hderived hother
      obtain ⟨t', ht', -, hle⟩ := hframed.amount_le htoken (not_not.mpr hauthority)
      have hbelow := hquiet fun request' hlabel => by
        obtain rfl := Option.some.inj hlabel
        exact hother
      rw [balance_of_token? ht', balance_of_token? htoken] at *
      rw [UInt64.le_iff_toNat_le] at hle
      simp only [residue, if_neg hown]
      omega

/-- Along any run in which only the position's own requests pay into its pool, the pool
holds exactly what the protocol has not taken of the deposits. If the protocol never takes
more than was deposited, it is empty only when every deposit was taken in full. -/
theorem pool_holds_residues {owner : Pubkey} {adapter : Adapter} {bump : UInt8}
    {past : List (Chain × Option Request)}
    (run : Run (JustOpened (positionAddress owner adapter.programId bump) pool)
      (Undisturbed curve layout (positionAddress owner adapter.programId bump) pool) past w) :
    (balance pool w : Int) =
      (past.map (residue curve (positionAddress owner adapter.programId bump) pool)).sum ∧
    ((∀ step ∈ past, 0 ≤ residue curve (positionAddress owner adapter.programId bump) pool step) →
      (balance pool w = 0 ↔ ∀ step ∈ past,
        residue curve (positionAddress owner adapter.programId bump) pool step = 0)) := by
  have hsum : Pooled (positionAddress owner adapter.programId bump) pool w ∧
      (balance pool w : Int) =
        (past.map (residue curve (positionAddress owner adapter.programId bump) pool)).sum := by
    -- one residue a step, by induction on the run
    refine run.invariant (fun past w =>
      Pooled (positionAddress owner adapter.programId bump) pool w ∧
      (balance pool w : Int) =
        (past.map (residue curve (positionAddress owner adapter.programId bump) pool)).sum) ?_ ?_
    · intro w hopened
      exact ⟨hopened.pooled, by simp [hopened.empty]⟩
    · intro past w label w' _ ⟨hpooled, hheld⟩ hstep
      refine ⟨hpooled.step (derived_positionAddress _ _ _) hstep.1, ?_⟩
      rw [balance_of_step hpooled rfl hstep, hheld, List.map_cons, List.sum_cons, add_comm]
  refine ⟨hsum.2, fun htaken => ?_⟩
  rw [← Int.natCast_eq_zero, hsum.2]
  -- a sum of amounts that are not negative is zero only if each is
  constructor
  · intro hempty step hmem
    refine List.all_zero_of_le_zero_le_of_sum_eq_zero (fun n hn => ?_) hempty
      (List.mem_map_of_mem hmem)
    obtain ⟨other, hother, rfl⟩ := List.mem_map.mp hn
    exact htaken other hother
  · intro hnone
    refine List.sum_eq_zero fun n hn => ?_
    obtain ⟨other, hother, rfl⟩ := List.mem_map.mp hn
    exact hnone other hother

end Residues

/-! ### A saver and a lender that takes less -/

namespace Sample

theorem pay_tenure {program source destination : Pubkey} {call : Call} {amount : UInt64}
    {w w' : Chain} (h : pay program call source destination amount w = some w') : Tenure w w' := by
  simp only [pay, Option.bind_eq_bind, Option.bind_eq_some_iff] at h
  obtain ⟨_, -, hmoved⟩ := h
  split_ifs at hmoved
  exact moveTokens_tenure hmoved

theorem tokenTransfer_tenured : Tenured (tokenTransfer (σ := ProgramState) (η := Event)) := by
  intro call w w' h
  obtain ⟨_, _, _, _, -, -, -, -, hmoved⟩ := tokenTransfer_ok h
  exact moveTokens_tenure hmoved

theorem lend_custodial (dust : UInt64) : Custodial (lend dust) where
  lawful := lend_lawful dust
  transfers call amount w w' hprogram hdata h := by
    rw [lend, if_neg (by rw [hprogram]; decide)] at h
    exact h
  tenured call w w' h := by
    unfold lend at h
    split_ifs at h
    · split at h
      · simp only [Option.bind_eq_bind, Option.bind_eq_some_iff] at h
        obtain ⟨amount, -, taken, -, hpaid⟩ := h
        exact pay_tenure hpaid
      · simp only [Option.bind_eq_bind, Option.bind_eq_some_iff] at h
        obtain ⟨amount, -, held, -, hpaid⟩ := h
        exact pay_tenure hpaid
      · obtain rfl := Option.some.inj h
        exact refl_of Tenure w
    · exact tokenTransfer_tenured _ _ _ h

/-- A lender that takes from the pool when it is asked to pay into it. -/
def grab : Callee ProgramState Event := fun call w =>
  match call.instruction.accounts with
  | [_, _, _, _, destination, _, vault, _, _, _] =>
    pay lender call destination.pubkey vault.pubkey 1 w
  | _ => none

/-- A program that does nothing but leave return data. -/
def answer (returnData : Pubkey × Bytes) : Callee ProgramState Event := fun _ w =>
  some { w with returnData := returnData }

/-- The saver asks 4 back, with one unit in the pool, of other programs. -/
def saverAsks (exec : Callee ProgramState Event) : Request := { saverWithdraws 1 4 with exec }

/-- 10 deposited and 4 asked back of a lender that takes everything. Then 4 asked back, with one
unit in the pool, of a lender that takes that unit, and of programs in the adapter's place that
leave another program's return data or one byte only: none of these completes, while a program
that leaves eight bytes of its own is believed. -/
theorem withdraw_passes_through_saved :
    (∃ accounts paid between,
      PassesThrough curve .marginfiUsdc (saverWithdraws 0 4) accounts 4 paid (saved 0) between) ∧
    (¬ (saverAsks (Adapter.callee curve layout grab)).Done curve (saved 1) ∧
      (saverAsks (Adapter.callee curve layout grab)).apply curve (saved 1) = saved 1) ∧
    (¬ (saverAsks (answer (lender, leBytes64 4))).Done curve (saved 1) ∧
      (saverAsks (answer (lender, leBytes64 4))).apply curve (saved 1) = saved 1) ∧
    (¬ (saverAsks (answer (MarginfiUsdc.programId, [4]))).Done curve (saved 1) ∧
      (saverAsks (answer (MarginfiUsdc.programId, [4]))).apply curve (saved 1) = saved 1) ∧
    (saverAsks (answer (MarginfiUsdc.programId, leBytes64 4))).Done curve (saved 1) := by
  refine ⟨?_, ?_, ?_, ?_, by decide +kernel⟩
  · exact ((withdraw_passes_through rfl).1 rfl rfl).1 (lend_custodial 0) (by decide +kernel)
      (by decide +kernel)
  · exact (@(withdraw_passes_through rfl).1 layout grab .marginfiUsdc rfl rfl).2
      (by decide +kernel)
  · exact (withdraw_passes_through rfl).2 (by decide +kernel)
  · exact (withdraw_passes_through rfl).2 (by decide +kernel)

/-- The position the saver opens, and its empty pool. -/
theorem saver_justOpened : JustOpened (positionKey MarginfiUsdc.programId)
    (poolKey MarginfiUsdc.programId) (saverOpened 1) :=
  ⟨{ owner := alice
     adapterProgram := MarginfiUsdc.programId
     usdcPool := poolKey MarginfiUsdc.programId
     usdcMint := usdcMint
     createdAt := 0
     bump := 255 }, usdcMint, by decide +kernel, rfl, by decide +kernel⟩

/-- 10 deposited, of which the lender leaves one, and all 10 shares asked back. -/
def dusty : List (Chain × Option Request) :=
  [(saved 1, some (saverWithdraws 1 10)), (saverOpened 1, some (saverDeposits 1))]

/-- The position's own requests disturb nothing. -/
theorem undisturbed_of_own {position pool : Pubkey} {request : Request} {w : Chain}
    (hexec : OverCustodial curve layout request.exec) (hdone : request.Done curve w)
    (hnames : request.Names position) :
    Undisturbed curve layout position pool w (some request) (request.apply curve w) :=
  ⟨.request request hexec, fun hother => absurd hnames (hother request rfl hdone)⟩

theorem saver_overCustodial (dust : UInt64) : OverCustodial curve layout (saver dust) :=
  ⟨lend dust, lend_custodial dust, rfl⟩

theorem dusty_run : Run (JustOpened (positionKey MarginfiUsdc.programId)
    (poolKey MarginfiUsdc.programId))
      (Undisturbed curve layout (positionKey MarginfiUsdc.programId)
        (poolKey MarginfiUsdc.programId)) dusty (swept 1 10) := by
  refine .step (.step (.start saver_justOpened) ?_) ?_
  · exact @undisturbed_of_own _ _ (saverDeposits 1) _ (saver_overCustodial 1) (by decide +kernel)
      (by decide +kernel)
  · exact @undisturbed_of_own _ _ (saverWithdraws 1 10) _ (saver_overCustodial 1)
      (by decide +kernel) (by decide +kernel)

/-- The pool of that run holds what its deposit left. -/
theorem pool_holds_residues_dusty :
    (balance (poolKey MarginfiUsdc.programId) (swept 1 10) : Int) =
      (dusty.map (residue curve (positionKey MarginfiUsdc.programId)
        (poolKey MarginfiUsdc.programId))).sum :=
  (@pool_holds_residues _ _ _ _ alice .marginfiUsdc 255 _ dusty_run).1

/-- No share is booked any more, and one unit is left in the pool. -/
theorem dust_stranded :
    Run (JustOpened (positionKey MarginfiUsdc.programId) (poolKey MarginfiUsdc.programId))
      (Undisturbed curve layout (positionKey MarginfiUsdc.programId)
        (poolKey MarginfiUsdc.programId)) dusty (swept 1 10) ∧
    (saverDeposits 1).Done curve (saverOpened 1) ∧ (saverWithdraws 1 10).Done curve (saved 1) ∧
    consumed curve (saverDeposits 1) 10 (poolKey MarginfiUsdc.programId) (saverOpened 1) = 9 ∧
    (swept 1 10).state? MarginfiUsdc.AdapterState (stateKey MarginfiUsdc.programId) =
      some (savingsState 0) ∧
    balance (poolKey MarginfiUsdc.programId) (swept 1 10) = 1 :=
  ⟨dusty_run, by decide +kernel, by decide +kernel, by decide +kernel, by decide +kernel,
    by decide +kernel⟩

end Sample

end YieldAdapter.Dispatcher

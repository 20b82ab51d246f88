import YieldAdapter.Dispatcher.Pool

/-!
# What an owner's wallet is exposed to

The owner signs the requests, and the dispatcher passes signatures on: to the adapter a
position is opened in, which has the owner pay the rent, and with every forwarded account
that came signed. Whoever signs for neither, and has approved no delegate, loses the amounts
deposited and nothing else, and receives the payouts that are announced, whatever the adapters
and the programs below them are.
-/

set_option autoImplicit false

namespace YieldAdapter.Dispatcher

open Solana

/-- An address that no program signs for. -/
def Wallet (owner : Pubkey) : Prop := ∀ program seeds bump, owner ≠ .pda program seeds bump

/-- The request lets the program it is routed to sign for `owner`: a position is opened in
the owner's name, or the owner signed and is among the forwarded accounts. -/
def Request.HandsOn (request : Request) (owner : Pubkey) : Prop :=
  request.ix = .openPosition ∧ request.ctx.accounts[0]?.map (·.key) = some owner ∨
    ∃ info ∈ forwarded request.ctx request.ix, info.isSigner = true ∧ info.key = owner

/-- The amount an instruction is to pay in. -/
def Ix.payIn : Ix → Nat
  | .deposit amount => amount.toNat
  | _ => 0

/-- What a step draws from `account`: a completed deposit out of it, its amount. -/
def drawn (curve : Curve) (account : Pubkey) : Chain × Option Request → Nat
  | (_, none) => 0
  | (w, some request) =>
      if request.Done curve w ∧ request.ctx.accounts[5]?.map (·.key) = some account then
        request.ix.payIn
      else 0

/-- The payout of a withdrawal that was announced last. -/
def announcedOut (w : Chain) : Nat :=
  match (w.emittedBy dispatcherId).head? with
  | some (.withdrawn _ _ amountOut) => amountOut.toNat
  | _ => 0

/-- What an instruction has paid out when it completes in `w`. -/
def Ix.paidOut : Ix → Chain → Nat
  | .withdraw _, w => announcedOut w
  | _, _ => 0

/-- What a step brings to `account`: a completed withdrawal to it, the payout announced. -/
def brought (curve : Curve) (account : Pubkey) : Chain × Option Request → Nat
  | (_, none) => 0
  | (w, some request) =>
      if request.Done curve w ∧ request.ctx.accounts[5]?.map (·.key) = some account then
        request.ix.paidOut (request.apply curve w)
      else 0

/-- One step of a run in which the programs called may do anything the runtime lets them,
transfers are the Token program's, and `owner` signs nothing but requests. -/
def OwnStep (curve : Curve) (owner : Pubkey) (w : Chain) (label : Option Request) (w' : Chain) :
    Prop :=
  Step curve (fun exec => Lawful (· = dispatcherId) exec ∧ Transfers exec) (· = dispatcherId) w
    label w' ∧ (label = none → Framed (fun _ => False) (· ≠ owner) w w')

section Frames

variable {curve : Curve} {exec : Callee ProgramState Event} {ctx : Context} {owner : Pubkey}
variable {account key : Pubkey} {w w' : Chain}

theorem Wallet.not_signedBelow (h : Wallet owner) {stack : List Pubkey} :
    ¬ SignedBelow stack owner := by
  rintro ⟨program, seeds, bump, hderived, -⟩
  exact h program seeds bump hderived

theorem Wallet.ne_of_create (h : Wallet owner) {program : Pubkey} {seeds : Seeds} {bump : UInt8}
    (hcreate : createProgramAddress curve program seeds bump = some key) : owner ≠ key := by
  obtain ⟨-, hkey⟩ := createProgramAddress_eq_some.mp hcreate
  exact hkey ▸ h program seeds bump

/-- What the dispatcher announces and writes moves no tokens. -/
theorem assures_announced {event : Event} (hprogram : ctx.programId = dispatcherId) :
    Assures owner account 0 0 w (announced ctx event w) := by
  have hpermits : Permits ctx.programId (Framed (σ := ProgramState) (η := Event) (fun _ => False)
      fun _ => False) := Framed.permits (by simp) (by rw [hprogram]; decide)
  exact (hpermits.emitted w event).assures id

theorem assures_written {τ : Type} [AnchorState ProgramState τ] {state : τ}
    (hprogram : ctx.programId = dispatcherId) (howned : w.ownedBy ctx.programId key = true) :
    Assures owner account 0 0 w (written ctx key state w) := by
  have hpermits : Permits ctx.programId (Framed (σ := ProgramState) (η := Event) (fun _ => False)
      fun _ => False) := Framed.permits (by simp) (by rw [hprogram]; decide)
  exact (hpermits.written howned).assures id

/-- Nor do the event and the write that end an instruction. -/
theorem assures_closing {τ : Type} [AnchorState ProgramState τ] {state : τ} {event : Event}
    (hprogram : ctx.programId = dispatcherId) (howned : w.ownedBy ctx.programId key = true) :
    Assures owner account 0 0 w (written ctx key state (announced ctx event w)) :=
  (assures_announced hprogram).trans (assures_written hprogram howned)

/-- A call that the owner did not sign takes nothing from the owner. -/
theorem assures_of_call {locked : Pubkey → Prop} {instruction : Instruction}
    {signerSeeds : List (Seeds × UInt8)} {onFailure : Error} (hexec : Lawful locked exec)
    (howner : Wallet owner) (hunsigned : owner ∉ Call.signers ⟨ctx.sysvar, ctx.stack, instruction⟩)
    (h : invokeSigned curve exec ctx instruction signerSeeds onFailure w = (.ok (), w')) :
    Assures owner account 0 0 w w' := by
  refine (invokeSigned_framed hexec h).assures ?_
  rintro (hsigned | hbelow)
  · exact hunsigned hsigned
  · exact howner.not_signedBelow hbelow

section Transfers

variable {source destination authority : AccountInfo} {amount : UInt64}
variable {signerSeeds : List (Seeds × UInt8)}

/-- A transfer moves its amount, with the signature of the source's authority. -/
theorem transfer_moves (htransfers : Transfers exec)
    (h : transfer curve exec ctx source destination authority amount signerSeeds w =
      (.ok (), w')) :
    ∃ v v' : Chain, (∀ k, v.token? k = w.token? k) ∧ (∀ k, w'.token? k = v'.token? k) ∧
      (v.token? source.key).map (·.authority) = some authority.key ∧
      moveTokens source.key destination.key amount v = some v' := by
  obtain ⟨_, w₁, -, -, hrun, rfl⟩ := invokeSigned_ok h
  obtain ⟨amount', source', destination', authority', hdata, haccounts, hauthority, -, hmoved⟩ :=
    tokenTransfer_ok (htransfers _ amount _ _ rfl rfl hrun)
  obtain rfl := InstructionData.transfer.inj hdata
  simp only [transferInstruction, List.cons.injEq, and_true] at haccounts
  obtain ⟨rfl, rfl, rfl⟩ := haccounts
  -- around the transfer only the record of the call changes
  refine ⟨_, w₁, ?_, fun _ => rfl, hauthority, hmoved⟩
  exact fun _ => rfl

/-- A transfer takes its amount from its source. -/
theorem assures_of_transfer (htransfers : Transfers exec)
    (h : transfer curve exec ctx source destination authority amount signerSeeds w =
      (.ok (), w')) :
    Assures owner account (if source.key = account then amount.toNat else 0) 0 w w' := by
  obtain ⟨v, v', hbefore, hafter, -, hmoved⟩ := transfer_moves htransfers h
  exact (moveTokens_takes hmoved).congr hbefore hafter

/-- A transfer that another signs for brings its amount to its destination. -/
theorem assures_of_payment (htransfers : Transfers exec) (hother : authority.key ≠ owner)
    (h : transfer curve exec ctx source destination authority amount signerSeeds w =
      (.ok (), w')) :
    Assures owner account 0 (if destination.key = account then amount.toNat else 0) w w' := by
  obtain ⟨v, v', hbefore, hafter, hauthority, hmoved⟩ := transfer_moves htransfers h
  refine (moveTokens_brings hmoved fun s hs => ?_).congr hbefore hafter
  rw [hs] at hauthority
  have hsigner : s.authority = authority.key := Option.some.inj hauthority
  rwa [hsigner]

/-- A payout brings its amount to the account it is paid to. -/
theorem assures_of_payOut {accounts : Withdraw} {amountOut : UInt64} (htransfers : Transfers exec)
    (hother : accounts.position.key ≠ owner)
    (h : payOut curve exec ctx accounts amountOut w = (.ok (), w')) :
    Assures owner account 0 (if accounts.ownerUsdcAta.key = account then amountOut.toNat else 0)
      w w' := by
  unfold payOut at h
  split_ifs at h with hpositive
  · exact assures_of_payment htransfers hother h
  · obtain ⟨-, rfl⟩ := Exec.pure_ok.mp h
    have hnone : amountOut.toNat = 0 := Nat.eq_zero_of_not_pos hpositive
    simpa [hnone] using Assures.refl _

end Transfers

/-- A fund movement is signed by the position and by those who handed their signature on. -/
theorem assures_of_fundMovement {locked : Pubkey → Prop} {accounts : Deposit} {data : Bytes}
    (hexec : Lawful locked exec) (howner : Wallet owner) (accepted : accounts.Accepted curve ctx w')
    (hquiet : ∀ info ∈ accounts.remainingAccounts, info.isSigner = true → info.key ≠ owner)
    {w₁ w₂ : Chain}
    (h : fundMovementIx curve exec ctx data accounts.adapterProgram accounts.instructionsSysvar
      accounts.position.info accounts.positionUsdcPool.info accounts.adapterState
      accounts.remainingAccounts (signerSeeds accounts.position.data) w₁ = (.ok (), w₂)) :
    Assures owner account 0 0 w₁ w₂ := by
  refine assures_of_call hexec howner ?_ h
  intro hsigned
  rcases mem_signers_fundMovement.mp hsigned with hposition | ⟨info, hinfo, hsigner, hkey⟩
  · exact howner.ne_of_create accepted.seeds hposition
  · exact hquiet info hinfo hsigner hkey.symm

end Frames

section Requests

variable {curve : Curve} {request : Request} {owner account : Pubkey} {w w' : Chain}

theorem Request.not_forwarded (h : ¬ request.HandsOn owner) :
    ∀ info ∈ forwarded request.ctx request.ix, info.isSigner = true → info.key ≠ owner :=
  fun info hinfo hsigner hkey => h (.inr ⟨info, hinfo, hsigner, hkey⟩)

/-- Nothing is handed on by a request that opens no position and forwards unsigned accounts. -/
theorem Request.not_handsOn (hix : request.ix ≠ .openPosition)
    (hunsigned : ∀ info ∈ forwarded request.ctx request.ix, info.isSigner = false) :
    ¬ request.HandsOn owner := by
  rintro (⟨hopens, -⟩ | ⟨info, hinfo, hsigner, -⟩)
  · exact hix hopens
  · rw [hunsigned info hinfo] at hsigner
    cases hsigner

/-- A completed request takes from the owner what it pays in, and brings what it announces. -/
theorem assures_of_completed (hexec : Lawful (· = dispatcherId) request.exec)
    (htransfers : Transfers request.exec) (howner : Wallet owner) (hquiet : ¬ request.HandsOn owner)
    (h : Completed curve request.exec request.ctx w request.ix w') :
    Assures owner account
      (if request.ctx.accounts[5]?.map (·.key) = some account then request.ix.payIn else 0)
      (if request.ctx.accounts[5]?.map (·.key) = some account then request.ix.paidOut w' else 0)
      w w' := by
  have hprogram := request.program
  have hforwarded := Request.not_forwarded hquiet
  have hcreated : ∀ {payer info : AccountInfo} {seeds : Seeds} {bump : UInt8} {v v' : Chain},
      initState curve request.ctx payer seeds info v = (.ok bump, v') →
        Assures owner account 0 0 v v' := by
    intro payer info seeds bump v v' hinit
    have hframed : Framed (fun _ => False) (fun _ => False) v v' := initState_leaves.of_ok hinit
    exact hframed.assures id
  generalize hix : request.ix = ix at h hforwarded ⊢
  cases h with
  | initializeRegistry loaded created owned =>
    simpa [Ix.payIn, Ix.paidOut] using (hcreated created).trans (assures_written hprogram owned)
  | whitelistAdapter loaded passed created short version room counted ownedRegistry ownedEntry =>
    simpa [Ix.payIn, Ix.paidOut] using ((hcreated created).trans
      (assures_closing hprogram ownedRegistry)).trans (assures_written hprogram ownedEntry)
  | pauseAdapter loaded passed owned =>
    simpa [Ix.payIn, Ix.paidOut] using assures_closing hprogram owned
  | @openPosition accounts bump createdAt w₁ w₂ w₃ loaded gate version created pooled routed
      owned =>
    have hpooled : Framed (fun _ => False) (fun _ => False) w₁ w₂ :=
      initAssociatedToken_leaves.of_ok pooled
    have hrouted : Assures owner account 0 0 w₂ w₃ := by
      refine assures_of_call hexec howner ?_ routed
      intro hsigned
      rcases mem_signers_initialize.mp hsigned with (hkey | hkey) | ⟨info, hinfo, hsigner, hkey⟩
      · obtain ⟨found, -, -⟩ := initState_ok created
        exact howner.ne_of_create (findProgramAddress_create found) hkey
      · -- the one who opens the position hands the signature on
        obtain ⟨_, _, hslots⟩ := loaded.slots
        exact hquiet (.inl ⟨hix, by rw [hslots, hkey]; rfl⟩)
      · exact hforwarded info (loaded.forwarded ▸ hinfo) hsigner hkey.symm
    simpa [Ix.payIn, Ix.paidOut] using (((hcreated created).trans (hpooled.assures id)).trans
      hrouted).trans (assures_closing hprogram owned)
  | @deposit amount shares accounts w₁ w₂ accepted positive version funded routed returned owned =>
    rw [accepted.forwarded_deposit amount] at hforwarded
    obtain ⟨_, hslots⟩ := accepted.slots
    have hfunded : Assures owner account
        (if accounts.ownerUsdcAta.key = account then amount.toNat else 0) 0 w w₁ :=
      assures_of_transfer htransfers funded
    have hrouted : Assures owner account 0 0 w₁ w₂ :=
      assures_of_fundMovement hexec howner accepted hforwarded routed
    have hslot : request.ctx.accounts[5]?.map (·.key) = some accounts.ownerUsdcAta.key := by
      rw [hslots]
      rfl
    simpa [hslot, Ix.payIn, Ix.paidOut] using (hfunded.trans hrouted).trans
      (assures_closing hprogram owned)
  | @withdraw shares amountOut accounts w₁ w₂ accepted positive version routed returned paid
      owned =>
    rw [accepted.forwarded_withdraw shares] at hforwarded
    have hrouted : Assures owner account 0 0 w w₁ :=
      assures_of_fundMovement hexec howner accepted hforwarded routed
    obtain ⟨_, hslots⟩ := accepted.slots
    have hslot : request.ctx.accounts[5]?.map (·.key) = some accounts.ownerUsdcAta.key := by
      rw [hslots]
      rfl
    have hpaid : Assures owner account 0
        (if accounts.ownerUsdcAta.key = account then amountOut.toNat else 0) w₁ w₂ :=
      assures_of_payOut htransfers (howner.ne_of_create accepted.seeds).symm paid
    have hannounced : announcedOut (written request.ctx accounts.position.key
        accounts.position.data (announced request.ctx
          (.withdrawn accounts.position.key shares amountOut) w₂)) = amountOut.toNat := by
      -- the event is the last one on record, and writing back logs nothing
      change announcedOut (announced request.ctx _ w₂) = _
      simp [announcedOut, announced, World.emittedBy, hprogram]
    simpa [hslot, Ix.payIn, Ix.paidOut, hannounced] using (hrouted.trans hpaid).trans
      (assures_closing hprogram owned)
  | @currentValue value accounts w₁ accepted version routed returned =>
    rw [accepted.forwarded] at hforwarded
    have hrouted : Assures owner account 0 0 w w₁ := by
      refine assures_of_call hexec howner ?_ routed
      intro hsigned
      obtain ⟨info, hinfo, hsigner, hkey⟩ := mem_signers_currentValue.mp hsigned
      exact hforwarded info hinfo hsigner hkey.symm
    have hreturned : Assures owner account 0 0 w₁
        { w₁ with returnData := (request.ctx.programId, leBytes64 value) } := Assures.refl w₁
    simpa [Ix.payIn, Ix.paidOut] using (hrouted.trans hreturned).trans (assures_announced hprogram)

/-- A step takes from the owner what it draws, and brings what it announces. -/
theorem assures_of_step {label : Option Request} (howner : Wallet owner)
    (hquiet : ∀ request, label = some request → request.Done curve w → ¬ request.HandsOn owner)
    (h : OwnStep curve owner w label w') :
    Assures owner account (drawn curve account (w, label)) (brought curve account (w, label))
      w w' := by
  obtain ⟨hstep, houtside⟩ := h
  cases hstep with
  | outside _ => exact (houtside rfl).assures (not_not.mpr rfl)
  | request request hexec =>
    by_cases hdone : request.Done curve w
    · have hcompleted := @assures_of_completed _ _ owner account _ _ hexec.1 hexec.2 howner
        (hquiet request rfl hdone) (Request.completed_of_done hdone)
      have hfresh : Assures owner account 0 0 w w.fresh := Assures.refl w
      simpa [drawn, brought, hdone] using hfresh.trans hcompleted
    · rw [request.apply_of_not_done hdone]
      simpa [drawn, brought, hdone] using Assures.refl w

/-- Whatever the adapters are, and whatever they and the programs below them do: over every run
in which an owner signs nothing but requests, and hands the signature on in none of them, each of
the owner's token accounts, on which no delegate is approved, keeps what it held, less the
amounts that were deposited from it, and has in addition every payout that was announced of a
withdrawal to it. -/
theorem wallet_follows_requests {later : List (Chain × Option Request)} (howner : Wallet owner)
    (run : Run (· = w) (OwnStep curve owner) later w')
    (hquiet : ∀ v request, (v, some request) ∈ later → request.Done curve v →
      ¬ request.HandsOn owner) :
    Assures owner account (later.map (drawn curve account)).sum
      (later.map (brought curve account)).sum w w' := by
  revert hquiet
  refine run.invariant (fun later w' => (∀ v request, (v, some request) ∈ later →
    request.Done curve v → ¬ request.HandsOn owner) →
      Assures owner account (later.map (drawn curve account)).sum
        (later.map (brought curve account)).sum w w') ?_ ?_
  · rintro _ rfl _
    exact .refl _
  · intro later w₁ label w₂ _ ih hstep hquiet
    rw [List.map_cons, List.sum_cons, List.map_cons, List.sum_cons]
    refine (ih fun v request hmem => hquiet v request (.tail _ hmem)).trans
      (assures_of_step howner (fun request hlabel => ?_) hstep)
    exact hquiet w₁ request (hlabel ▸ .head _)

/-- The adapters leave the Token program's transfers as they are. -/
theorem callee_transfers {layout : Layout ProgramState} {protocol : Callee ProgramState Event}
    (htransfers : Transfers protocol) : Transfers (Adapter.callee curve layout protocol) := by
  intro call amount w w' hprogram hdata hrun
  rw [Adapter.callee_of_other fun adapter => by
    rw [hprogram]; exact adapter.programId_ne_tokenProgramId.symm] at hrun
  exact htransfers call amount w w' hprogram hdata hrun

/-- A request over adapters whose protocol keeps to transfers is such a step. -/
theorem ownStep_of_request {layout : Layout ProgramState} {protocol : Callee ProgramState Event}
    (hprotocol : Custodial protocol) (hexec : request.exec = Adapter.callee curve layout protocol) :
    OwnStep curve owner w (some request) (request.apply curve w) := by
  refine ⟨.request request ?_, fun h => nomatch h⟩
  rw [hexec]
  exact ⟨Adapter.callee_lawful hprotocol.lawful, callee_transfers hprotocol.transfers⟩

end Requests

/-! ### The saver's wallet -/

namespace Sample

theorem alice_wallet : Wallet alice := by
  intro program seeds bump h
  cases h

/-- 10 deposited and 4 paid back, with nothing of the owner's forwarded. -/
theorem wallet_follows_requests_swept :
    Assures alice aliceAta 10 4 (saverOpened 0) (swept 0 4) := by
  have hrun : Run (· = saverOpened 0) (OwnStep curve alice)
      [(saved 0, some (saverWithdraws 0 4)), (saverOpened 0, some (saverDeposits 0))]
      (swept 0 4) := by
    refine .step (.step (.start rfl) ?_) ?_
    · exact ownStep_of_request (lend_custodial 0) rfl
    · exact ownStep_of_request (lend_custodial 0) rfl
  have hdrawn : ([(saved 0, some (saverWithdraws 0 4)),
      (saverOpened 0, some (saverDeposits 0))].map (drawn curve aliceAta)).sum = 10 := by
    decide +kernel
  have hbrought : ([(saved 0, some (saverWithdraws 0 4)),
      (saverOpened 0, some (saverDeposits 0))].map (brought curve aliceAta)).sum = 4 := by
    decide +kernel
  have hassures := @wallet_follows_requests curve alice aliceAta _ _ _ alice_wallet hrun
  rw [hdrawn, hbrought] at hassures
  refine hassures fun v request hmem _ hhands => ?_
  revert hhands
  -- what is forwarded is the lender's, and came unsigned
  simp only [List.mem_cons, Prod.mk.injEq, Option.some.injEq, List.not_mem_nil, or_false] at hmem
  rcases hmem with ⟨-, rfl⟩ | ⟨-, rfl⟩
  · exact Request.not_handsOn nofun (by decide)
  · exact Request.not_handsOn nofun (by decide)

end Sample

end YieldAdapter.Dispatcher

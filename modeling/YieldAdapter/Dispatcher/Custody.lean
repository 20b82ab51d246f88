import YieldAdapter.Dispatcher.Run

/-!
# Custody

Over any run, with adapters that may do whatever the runtime lets them, the
signature of an owner's position in an adapter is given away only inside an
instruction which the owner signed and which is routed to that adapter. The
calls that carry it are the adapter's own, the creation of the position account,
and the transfer that pays a withdrawal out. Token accounts held by a position
are therefore never debited behind its owner's back.
-/

set_option autoImplicit false

namespace YieldAdapter.Dispatcher

open Solana

/-! ### Where a position signs -/

/-- A request that an owner signed and that moves funds through an adapter. -/
def Request.ActsFor (request : Request) (owner adapterProgram : Pubkey) : Prop :=
  request.ctx.Signer owner ∧ request.ix.movesFunds = true ∧
    routedAdapter request.ctx request.ix = some adapterProgram

/-- The calls on which a request made in `w` spends the signature of `owner`'s
`position` in `adapterProgram`. A withdrawal pays into a token account that was the
owner's when the request was made, and still is after it unless the owner's own
signature was handed on to the adapter. -/
inductive SpentOn (curve : Curve) (w : Chain) (request : Request)
    (owner adapterProgram position : Pubkey) : Call → Prop
  | adapter {call : Call} (target : call.instruction.programId = adapterProgram) :
      SpentOn curve w request owner adapterProgram position call
  | creation {payer info : AccountInfo} (opens : request.ix = .openPosition)
      (payer_eq : payer.key = owner) (created : info.key = position) :
      SpentOn curve w request owner adapterProgram position
        (createAccountCall request.ctx payer info)
  | payment {shares amount : UInt64} {source destination authority : AccountInfo}
      {state : Position} {t : TokenAccount}
      (withdraws : request.ix = .withdraw shares)
      (stored : w.state? Position position = some state)
      (source_eq : source.key = state.usdcPool)
      (signer : authority.key = position)
      (held : w.token? destination.key = some t)
      (holder : t.authority = owner)
      (mint : t.mint = state.usdcMint)
      (still : (∀ info ∈ forwarded request.ctx request.ix,
        info.isSigner = true → info.key ≠ owner) →
          ∃ t', (request.apply curve w).token? destination.key = some t' ∧
            t'.authority = owner ∧ t'.mint = state.usdcMint) :
      SpentOn curve w request owner adapterProgram position
        ⟨request.ctx.sysvar, request.ctx.stack,
          transferInstruction source destination authority amount⟩

/-- What a request made in `w` does with the signatures and the token accounts of
positions, whoever made it. -/
structure Custody (curve : Curve) (w : Chain) (request : Request) : Prop where
  spent : ∀ call ∈ request.trace curve w, ∀ owner adapterProgram bump,
    positionAddress owner adapterProgram bump ∈ call.signers →
      request.ActsFor owner adapterProgram ∧
        SpentOn curve w request owner adapterProgram
          (positionAddress owner adapterProgram bump) call
  kept : ∀ owner adapterProgram bump account t, w.token? account = some t →
    t.authority = positionAddress owner adapterProgram bump →
      ¬ request.ActsFor owner adapterProgram →
        ∃ t', (request.apply curve w).token? account = some t' ∧ t'.mint = t.mint ∧
          t'.authority = t.authority ∧ t.amount ≤ t'.amount

section Custody

variable {curve : Curve} {request : Request} {w : Chain} {key : Pubkey}

/-- A derivation of a position names its owner and adapter. -/
private theorem position_of_derived {owner adapterProgram owner' adapterProgram' : Pubkey}
    {bump bump' : UInt8}
    (h : createProgramAddress curve request.ctx.programId (positionSeeds owner adapterProgram)
      bump = some key)
    (hkey : positionAddress owner' adapterProgram' bump' = key) :
    owner = owner' ∧ adapterProgram = adapterProgram' := by
  subst hkey
  obtain ⟨-, haddress⟩ := createProgramAddress_eq_some.mp h
  rw [request.program] at haddress
  obtain ⟨howner, hadapter, -⟩ := positionAddress_inj haddress
  exact ⟨howner.symm, hadapter.symm⟩

/-- No position's address is one of the registry's or of a whitelist entry. -/
private theorem position_ne_of_seeds {owner adapterProgram : Pubkey} {bump bump' : UInt8}
    {seeds : Seeds} (hseeds : ∀ owner adapterProgram, seeds ≠ positionSeeds owner adapterProgram)
    (h : findProgramAddress curve request.ctx.programId seeds = some (key, bump')) :
    positionAddress owner adapterProgram bump ≠ key := by
  rw [findProgramAddress_eq_pda h]
  intro hsame
  obtain ⟨-, hsame, -⟩ : dispatcherId = request.ctx.programId ∧
      positionSeeds owner adapterProgram = seeds ∧ bump = bump' := by
    simpa [positionAddress] using hsame
  exact hseeds _ _ hsame.symm

/-- The account a withdrawal pays into stays its owner's if the owner's signature
is not handed on. -/
private theorem destination_kept {shares : UInt64} {accounts : Withdraw}
    (hexec : Lawful (· = dispatcherId) request.exec) (hix : request.ix = .withdraw shares)
    (accepted : accounts.Accepted curve request.ctx w.fresh)
    (hquiet : ∀ info ∈ forwarded request.ctx request.ix,
      info.isSigner = true → info.key ≠ accounts.owner.key) :
    ∃ t', (request.apply curve w).token? accounts.ownerUsdcAta.key = some t' ∧
      t'.authority = accounts.owner.key ∧ t'.mint = accounts.position.data.usdcMint := by
  rcases request.apply_cases curve w with ⟨-, hunchanged⟩ | ⟨-, hcompleted⟩
  · rw [hunchanged]
    exact ⟨_, accepted.ata, accepted.ataAuthority, accepted.ataMint⟩
  rw [hix] at hcompleted hquiet
  rw [accepted.forwarded_withdraw] at hquiet
  generalize request.apply curve w = w' at hcompleted
  cases hcompleted with
  | @withdraw _ amountOut accounts' w₁ w₂ accepted' positive version routed returned paid =>
    obtain rfl := accepted.unique accepted'
    have hbelow := request.not_signedBelow (.inl accepted.signer)
    have hother : accounts.owner.key ≠ accounts.position.key := by
      obtain ⟨-, hposition⟩ := createProgramAddress_eq_some.mp accepted.seeds
      rw [hposition, request.program]
      exact owner_ne_positionAddress _ _ _
    -- the adapter's call carries the position's signature and the forwarded ones
    have hcalled : Framed (· = dispatcherId) (· ≠ accounts.owner.key) w.fresh w₁ := by
      refine (invokeSigned_framed hexec routed).mono (fun _ => id) ?_
      rintro key (hkey | hkey) rfl
      · rcases mem_signers_fundMovement.mp hkey with hsame | ⟨info, hinfo, hsigner, hsame⟩
        · exact hother hsame
        · exact hquiet info hinfo hsigner hsame.symm
      · exact hbelow hkey
    have hpaid : Framed (· = dispatcherId) (· ≠ accounts.owner.key) w₁ w₂ := by
      refine (payOut_framed hexec paid).mono (fun _ => id) ?_
      rintro key (hkey | hkey) rfl
      · exact hother hkey
      · exact hbelow hkey
    obtain ⟨t', ht', hmint, hauthority, -⟩ := (hcalled.trans hpaid).debited _ _ accepted.ata
      (not_not.mpr accepted.ataAuthority)
    refine ⟨t', ?_, hauthority.trans accepted.ataAuthority, hmint.trans accepted.ataMint⟩
    have hdistinct := World.ne_of_token?_state? accepted.ata accepted.position
    unfold written
    rw [World.token?_put_ne hdistinct]
    exact ht'

/-- A call that a request issued and that carries a position's signature is the
owner's own request, and one of the three uses. -/
private theorem spent_of_issued (hexec : Lawful (· = dispatcherId) request.exec) {call : Call}
    (h : Issued curve request.ctx w.fresh request.ix call) {owner adapterProgram : Pubkey}
    {bump : UInt8} (hsigned : positionAddress owner adapterProgram bump ∈ call.signers) :
    request.ActsFor owner adapterProgram ∧
      SpentOn curve w request owner adapterProgram (positionAddress owner adapterProgram bump)
        call := by
  -- no signature that came with the request is the position's
  have hunsigned : ∀ {key}, request.ctx.Signer key →
      positionAddress owner adapterProgram bump ≠ key := by
    rintro key hkey rfl
    exact request.unsigned hkey (derived_positionAddress _ _ _)
  generalize hix : request.ix = ix at h
  cases h with
  -- the registry's and the entries' seeds are not a position's
  | createRegistry loaded found =>
    obtain ⟨⟨_, hslots⟩, hadmin⟩ := InitializeRegistry.load_ok loaded
    rcases mem_signers_createAccount.mp hsigned with hkey | hkey
    · exact absurd hkey (hunsigned ⟨_, by simp [hslots], rfl, hadmin⟩)
    · exact absurd hkey (position_ne_of_seeds (by simp [registrySeeds, positionSeeds]) found)
  | createEntry loaded found =>
    obtain ⟨⟨_, hslots⟩, hadmin, -⟩ := WhitelistAdapter.load_ok loaded
    rcases mem_signers_createAccount.mp hsigned with hkey | hkey
    · exact absurd hkey (hunsigned ⟨_, by simp [hslots], rfl, hadmin⟩)
    · exact absurd hkey (position_ne_of_seeds
        (by simp [entrySeeds, positionSeeds, entrySeed, positionSeed]) found)
  -- from here on the seeds are a position's, and they name its owner, who signed
  | createPosition loaded found =>
    rcases mem_signers_createAccount.mp hsigned with hkey | hkey
    · exact absurd hkey (hunsigned loaded.signer)
    · obtain ⟨rfl, rfl⟩ := position_of_derived (findProgramAddress_create found) hkey
      exact ⟨⟨loaded.signer, by rw [hix]; rfl, by rw [hix]; exact loaded.routed⟩,
        .creation hix rfl hkey.symm⟩
  -- the pool is created under the owner's signature alone
  | createPool loaded =>
    exact absurd (mem_signers_createAssociated.mp hsigned) (hunsigned loaded.signer)
  | initAdapter loaded found gate version =>
    rcases mem_signers_initialize.mp hsigned with (hkey | hkey) | ⟨info, hinfo, hsigner, hkey⟩
    · obtain ⟨rfl, rfl⟩ := position_of_derived (findProgramAddress_create found) hkey
      exact ⟨⟨loaded.signer, by rw [hix]; rfl, by rw [hix]; exact loaded.routed⟩, .adapter rfl⟩
    · exact absurd hkey (hunsigned loaded.signer)
    · rw [← loaded.forwarded] at hinfo
      exact absurd hkey (hunsigned (signer_of_forwarded hinfo hsigner))
  | fund accepted => exact absurd (mem_signers_transfer.mp hsigned) (hunsigned accepted.signer)
  | @deposit amount accounts accepted version =>
    have hrouted := accepted.routed_deposit amount
    rcases mem_signers_fundMovement.mp hsigned with hkey | ⟨info, hinfo, hsigner, hkey⟩
    · obtain ⟨rfl, rfl⟩ := position_of_derived accepted.seeds hkey
      exact ⟨⟨accepted.signer, by rw [hix]; rfl, by rw [hix]; exact hrouted⟩, .adapter rfl⟩
    · rw [← accepted.forwarded_deposit amount] at hinfo
      exact absurd hkey (hunsigned (signer_of_forwarded hinfo hsigner))
  | @withdraw shares accounts accepted version =>
    have hrouted := accepted.routed_withdraw shares
    rcases mem_signers_fundMovement.mp hsigned with hkey | ⟨info, hinfo, hsigner, hkey⟩
    · obtain ⟨rfl, rfl⟩ := position_of_derived accepted.seeds hkey
      exact ⟨⟨accepted.signer, by rw [hix]; rfl, by rw [hix]; exact hrouted⟩, .adapter rfl⟩
    · rw [← accepted.forwarded_withdraw shares] at hinfo
      exact absurd hkey (hunsigned (signer_of_forwarded hinfo hsigner))
  -- paying out is the one use in which tokens leave
  | @pay shares amountOut accounts accepted =>
    have hrouted := accepted.routed_withdraw shares
    have hkey := mem_signers_transfer.mp hsigned
    obtain ⟨rfl, rfl⟩ := position_of_derived accepted.seeds hkey
    refine ⟨⟨accepted.signer, by rw [hix]; rfl, by rw [hix]; exact hrouted⟩, ?_⟩
    exact .payment hix (hkey ▸ accepted.position) accepted.poolKey hkey.symm accepted.ata
      accepted.ataAuthority accepted.ataMint (destination_kept hexec hix accepted)
  -- pricing is called without seeds
  | value accepted version =>
    obtain ⟨info, hinfo, hsigner, hkey⟩ := mem_signers_currentValue.mp hsigned
    rw [← accepted.forwarded] at hinfo
    exact absurd hkey (hunsigned (signer_of_forwarded hinfo hsigner))

/-- A token account of a position its owner does not act for is not debited. -/
private theorem kept_of_unsigned (hexec : Lawful (· = dispatcherId) request.exec)
    {owner adapterProgram account : Pubkey} {bump : UInt8} {t : TokenAccount}
    (ht : w.token? account = some t)
    (hauthority : t.authority = positionAddress owner adapterProgram bump)
    (hidle : ¬ request.ActsFor owner adapterProgram) :
    ∃ t', (request.apply curve w).token? account = some t' ∧ t'.mint = t.mint ∧
      t'.authority = t.authority ∧ t.amount ≤ t'.amount := by
  have hderived := derived_positionAddress owner adapterProgram bump
  refine (Request.apply_framed hexec).debited account t ht ?_
  rw [hauthority]
  rintro ((hsigner | ⟨hmoves, owner', adapterProgram', bump', howner, hrouted, hkey⟩) | hbelow)
  · exact request.unsigned hsigner hderived
  · obtain ⟨rfl, rfl, -⟩ := positionAddress_inj hkey
    exact hidle ⟨howner, hmoves, hrouted⟩
  · exact request.not_signedBelow (.inr hderived) hbelow

/-- Over every run, every request keeps custody. -/
theorem custody {start : Chain → Prop} {past : List (Chain × Option Request)} {last : Chain}
    (run : HostileRun curve start past last) (hmem : (w, some request) ∈ past) :
    Custody curve w request := by
  obtain ⟨_, -, _, hstep⟩ := run.step_of_mem hmem
  cases hstep with
  | request _ hexec =>
    exact
      { spent := fun call hcall owner adapterProgram bump hsigned =>
          spent_of_issued hexec (Request.issued_of_mem_trace hcall) hsigned
        kept := fun owner adapterProgram bump account t => kept_of_unsigned hexec }

/-- Over a run in which the owner never acts through the adapter, what the position
holds there does not shrink. -/
theorem balance_kept_over_run {owner adapterProgram account : Pubkey} {bump : UInt8}
    {t : TokenAccount} {past : List (Chain × Option Request)} {last : Chain}
    (run : HostileRun curve (· = w) past last) (ht : w.token? account = some t)
    (hauthority : t.authority = positionAddress owner adapterProgram bump)
    (hidle : ∀ w' request, (w', some request) ∈ past → ¬ request.ActsFor owner adapterProgram) :
    ∃ t', last.token? account = some t' ∧ t'.authority = t.authority ∧ t.amount ≤ t'.amount := by
  induction run with
  | start h =>
    subst h
    exact ⟨t, ht, rfl, UInt64.le_refl _⟩
  | @step past w₁ w₂ label run h ih =>
    obtain ⟨t₁, ht₁, hauthority₁, hle⟩ :=
      ih fun w' request hmem => hidle w' request (List.mem_cons_of_mem _ hmem)
    obtain ⟨t₂, ht₂, hauthority₂, hle₂⟩ : ∃ t₂, w₂.token? account = some t₂ ∧
        t₂.authority = t₁.authority ∧ t₁.amount ≤ t₂.amount := by
      cases h with
      | request request hexec =>
        obtain ⟨t₂, ht₂, -, hkept⟩ := kept_of_unsigned hexec ht₁ (hauthority₁.trans hauthority)
          (hidle w₁ request (List.mem_cons_self ..))
        exact ⟨t₂, ht₂, hkept⟩
      | outside hframed =>
        refine hframed.amount_le ht₁ (not_not.mpr ?_)
        rw [hauthority₁, hauthority]
        exact derived_positionAddress _ _ _
    exact ⟨t₂, ht₂, hauthority₂.trans hauthority₁, UInt64.le_trans hle hle₂⟩

end Custody

/-! ### Where custody ends

An adapter that uses an owner's signature to take over the account the owner is
paid to. The owner opens a position in it, a third party tops the pool up, and the
owner withdraws while handing the signature on. -/

namespace Sample

def robber : Pubkey := .key 6

def mallory : Pubkey := .key 7

/-- Asked for a withdrawal with Alice's signature, the robber turns `aliceAta` over
to `mallory` and claims a payout of 5. -/
def rob : Callee ProgramState Event := fun call w =>
  if call.instruction.programId = robber then
    if call.instruction.data = .bytes (encodeWithdraw 1 []) ∧ alice ∈ call.signers ∧
        (w.token? aliceAta).map (·.authority) = some alice then
      some { w.putToken aliceAta ⟨usdcMint, mallory, 0⟩ with returnData := (robber, leBytes64 5) }
    else some w
  else tokenTransfer call w

theorem rob_lawful : Lawful (· = dispatcherId) rob := by
  intro call w w' h
  unfold rob at h
  split_ifs at h with hrobber hasked
  · obtain ⟨-, hsigned, hheld⟩ := hasked
    obtain ⟨t, ht, hauthority⟩ := Option.map_eq_some_iff.mp hheld
    obtain rfl := Option.some.inj h
    have htaken : Framed (· = dispatcherId) call.Authorizes w
        (w.putToken aliceAta ⟨usdcMint, mallory, 0⟩) :=
      .putToken ht (.inl (.inl (by rwa [hauthority]))) (by decide)
    exact htaken.trans (.settled rfl rfl)
  · obtain rfl := Option.some.inj h
    exact .refl _
  · exact tokenTransfer_lawful (by decide) _ _ _ h

def opening : Request :=
  request (openAccounts robber (.key 8) []) .openPosition rob (by decide)

def withdrawal : Request :=
  request (fundAccounts robber (.key 8) [signer alice]) (.withdraw 1) rob (by decide)

def beforeOpening : Chain :=
  World.ofAccounts (listed robber ++ [(aliceAta, usdc alice 0)])

/-- The position is open, and its pool has been given 5 units. -/
def beforeWithdrawal : Chain :=
  (opening.apply curve beforeOpening).putToken (poolKey robber) ⟨usdcMint, positionKey robber, 5⟩

/-- Opening, the third party's gift, and the withdrawal. -/
theorem robbery_run : HostileRun curve (· = beforeOpening)
    [(beforeWithdrawal, some withdrawal), (opening.apply curve beforeOpening, none),
      (beforeOpening, some opening)] (withdrawal.apply curve beforeWithdrawal) := by
  have hempty : (opening.apply curve beforeOpening).token? (poolKey robber) =
      some ⟨usdcMint, positionKey robber, 0⟩ := by decide +kernel
  refine .step (.step (.step (.start rfl) (.request _ rob_lawful)) (.outside ?_))
    (.request _ rob_lawful)
  exact .putToken hempty (.inr ⟨rfl, rfl, by decide⟩) (by decide)

end Sample

section Exceptions

open Sample

/-- `custody` at the withdrawal of that run. -/
theorem custody_withdrawal : Custody curve beforeWithdrawal withdrawal :=
  custody robbery_run (by simp)

/-- In that run the position signs a call of the System program while it is opened,
and the payout of the withdrawal ends up in an account of `mallory`. -/
theorem position_signs_creation_and_payout_diverted :
    HostileRun curve (· = beforeOpening)
      [(beforeWithdrawal, some withdrawal), (opening.apply curve beforeOpening, none),
        (beforeOpening, some opening)] (withdrawal.apply curve beforeWithdrawal) ∧
    (∃ call ∈ opening.trace curve beforeOpening,
      positionAddress alice robber 255 ∈ call.signers ∧
        call.instruction.programId = systemProgramId ∧ systemProgramId ≠ robber) ∧
    (∃ call ∈ withdrawal.trace curve beforeWithdrawal, call.instruction =
      transferInstruction (writable (poolKey robber)) (writable aliceAta)
        (writable (positionKey robber)) 5) ∧
    beforeWithdrawal.token? aliceAta = some ⟨usdcMint, alice, 0⟩ ∧
    (withdrawal.apply curve beforeWithdrawal).token? aliceAta = some ⟨usdcMint, mallory, 5⟩ := by
  refine ⟨robbery_run, ?_, ?_, by decide +kernel, by decide +kernel⟩
  · exact ⟨createAccountCall opening.ctx (signer alice) (writable (positionKey robber)),
      by decide +kernel, by decide +kernel, by decide +kernel, by decide⟩
  · exact ⟨⟨⟨[dispatcherId], 0⟩, [dispatcherId], _⟩, by decide +kernel, rfl⟩

end Exceptions

end YieldAdapter.Dispatcher

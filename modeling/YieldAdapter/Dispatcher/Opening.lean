import YieldAdapter.Adapter.Creation
import YieldAdapter.Dispatcher.Vaults

/-!
# Who can stand in the way of an opening

Opening a position creates four accounts and fails if one of them exists. The position's
address can be used by the dispatcher alone, which asks for the owner's signature, and the
adapter's state account by the adapter, which the dispatcher calls for the owner only. The two
associated token accounts anyone may create, and whoever does so first keeps the position from
being opened.
-/

set_option autoImplicit false

namespace YieldAdapter.Dispatcher

open Solana

/-! ### What bystanders can do -/

/-- The programs called are the adapters, over protocols that can be relied on. -/
def OverReliable (curve : Curve) (layout : Layout ProgramState)
    (exec : Callee ProgramState Event) : Prop :=
  ∃ protocol, Reliable Suite protocol ∧ exec = Adapter.callee curve layout protocol

/-- An instruction sent to an adapter, rolled back if it fails. -/
def send (curve : Curve) (layout : Layout ProgramState) (protocol : Callee ProgramState Event)
    (adapter : Adapter) (ctx : Context) (data : Bytes) (w : Chain) : Chain :=
  match adapter.entry curve protocol layout ctx data w.fresh with
  | (.ok _, w') => w'
  | (.error _, _) => w

/-- What happens outside of this repository's programs. -/
structure Aside (w w' : Chain) : Prop where
  framed : Framed Suite (fun key => ¬ Derived key) w w'
  standing : Standing Suite w w'
  spares : ∀ program seeds bump, Suite program → Spares (.pda program seeds bump) w w'

/-- One step of a run in which `owner` signs nothing that reaches the dispatcher: a request, an
instruction sent to an adapter without the dispatcher, or anything outside. -/
inductive Bystander (curve : Curve) (lawful : Callee ProgramState Event → Prop) (owner : Pubkey) :
    Chain → Option Request → Chain → Prop
  | request {w : Chain} (request : Request) (hexec : lawful request.exec)
      (hother : ¬ request.ctx.Signer owner) :
      Bystander curve lawful owner w (some request) (request.apply curve w)
  | direct {w : Chain} {layout : Layout ProgramState} {protocol : Callee ProgramState Event}
      {adapter : Adapter} {ctx : Context} {data : Bytes}
      (program : ctx.programId = adapter.programId)
      (executing : ctx.Executing) (outermost : ctx.callers.head? ≠ some dispatcherId) :
      Bystander curve lawful owner w none (send curve layout protocol adapter ctx data w)
  | outside {w w' : Chain} (h : Aside w w') : Bystander curve lawful owner w none w'

section Bystander

variable {curve : Curve} {layout : Layout ProgramState} {protocol : Callee ProgramState Event}
variable {owner adapterProgram : Pubkey} {bump : UInt8} {w w' : Chain}

/-- The Associated Token program creates an account for any wallet and mint, at anyone's
request, where there is none. -/
theorem aside_of_associated {wallet mint key : Pubkey} {bump : UInt8}
    (hderived : findProgramAddress curve associatedTokenProgramId
      (associatedTokenSeeds wallet mint) = some (key, bump))
    (hvacant : w.accounts key = none) :
    Aside w (w.put key ⟨tokenProgramId, false, .token ⟨mint, wallet, 0⟩⟩) where
  framed := Framed.put_vacant hvacant (by simp)
  standing := by
    refine Standing.put ?_ fun hexecutable => ?_
    · rintro ⟨_, _, hstored⟩
      simp [hvacant] at hstored
    · simp [World.executable, hvacant] at hexecutable
  spares program seeds bump' hsuite := by
    refine Spares.put ?_
    rintro rfl
    obtain ⟨rfl, -⟩ := Pubkey.pda.inj (findProgramAddress_eq_pda hderived)
    exact not_suite_associatedTokenProgramId hsuite

/-- Every instruction that an adapter completes was guarded. -/
theorem guarded_of_entry {adapter : Adapter} {ctx : Context} {data : Bytes}
    (h : adapter.entry curve protocol layout ctx data w = (.ok (), w')) :
    ctx.sysvar.programIds[ctx.sysvar.currentIndex]? = some dispatcherId := by
  obtain ⟨ix, -, hcompleted⟩ := Adapter.entry_completed h
  cases hcompleted with
  | initialized slots guarded => exact (guardCall_ok.mp guarded).2.2
  | deposited slots guarded => exact (guardCall_ok.mp guarded).2.2
  | withdrawn slots guarded => exact (guardCall_ok.mp guarded).2.2
  | valued slots guarded => exact (guardCall_ok.mp guarded).2.2

/-- Without the dispatcher nothing comes of an instruction sent to an adapter. -/
theorem send_eq {adapter : Adapter} {ctx : Context} {data : Bytes}
    (hprogram : ctx.programId = adapter.programId) (hexecuting : ctx.Executing)
    (houtermost : ctx.callers.head? ≠ some dispatcherId) :
    send curve layout protocol adapter ctx data w = w := by
  unfold send
  split
  · rename_i hrun
    have houter := guarded_of_entry hrun
    rw [hexecuting, Context.stack] at houter
    cases hcallers : ctx.callers with
    | nil =>
      rw [hcallers, hprogram] at houter
      exact absurd (Option.some.inj houter) adapter.programId_ne_dispatcherId
    | cons outermost rest =>
      rw [hcallers] at houter houtermost
      exact absurd houter houtermost
  · rfl

/-- Only a call carrying the adapters' first instruction initialises anything. -/
theorem not_initializes_of_decode {position : Pubkey} {instruction : Instruction} {data : Bytes}
    {ix : AdapterInstruction} (hdata : instruction.data = .bytes data)
    (hdecode : AdapterInstruction.decode data = .ok ix)
    (hix : ∀ adapterData, ix ≠ .init adapterData) : ¬ Initializes position instruction := by
  rintro ⟨⟨data', adapterData, hdata', hdecode'⟩, -⟩
  obtain rfl := InstructionData.bytes.inj (hdata.symm.trans hdata')
  exact hix adapterData (Except.ok.inj (hdecode.symm.trans hdecode'))

variable (adapterProgram bump) in
/-- A request that the owner of a position did not sign creates nothing at an address that is
the position's or no address of the dispatcher's, if its calls that do not initialise the
position create nothing there. -/
theorem spares_of_request {request : Request} {program : Pubkey} {seeds : Seeds} {bump' : UInt8}
    (hother : ¬ request.ctx.Signer owner) (hsuite : Suite program)
    (hseeds : program = dispatcherId → seeds = positionSeeds owner adapterProgram)
    (hcalled : ∀ instruction w₁ w₂,
      ¬ Initializes (positionAddress owner adapterProgram bump) instruction →
        request.exec ⟨request.ctx.sysvar, request.ctx.stack, instruction⟩ w₁ = some w₂ →
          Spares (.pda program seeds bump') w₁ w₂) :
    Spares (.pda program seeds bump') w (request.apply curve w) := by
  rcases request.apply_cases curve w with ⟨-, hunchanged⟩ | ⟨-, hcompleted⟩
  · rw [hunchanged]
    exact id
  have hprogram := request.program
  -- the dispatcher's own creations
  have hcreated : ∀ {payer info : AccountInfo} {seeds' : Seeds} {b : UInt8} {w₁ w₂ : Chain},
      seeds' ≠ positionSeeds owner adapterProgram →
      initState curve request.ctx payer seeds' info w₁ = (.ok b, w₂) →
        Spares (.pda program seeds bump') w₁ w₂ := by
    intro payer info seeds' b w₁ w₂ hne hrun
    refine (initState_spares fun b' hderived => ?_).of_ok hrun
    obtain ⟨rfl, rfl, -⟩ := Pubkey.pda.inj (findProgramAddress_eq_pda hderived)
    exact hne (hseeds hprogram)
  have hrouted : ∀ {instruction : Instruction} {signerSeeds onFailure} {w₁ w₂ : Chain},
      ¬ Initializes (positionAddress owner adapterProgram bump) instruction →
      invokeSigned curve request.exec request.ctx instruction signerSeeds onFailure w₁ =
        (.ok (), w₂) → Spares (.pda program seeds bump') w₁ w₂ :=
    fun hnot hrun => invokeSigned_within (fun _ _ => hcalled _ _ _ hnot) hrun
  have hwritten : ∀ {τ : Type} [AnchorState ProgramState τ] {key : Pubkey} {state : τ}
      {w₁ : Chain}, w₁.ownedBy request.ctx.programId key = true →
        Spares (.pda program seeds bump') w₁ (written request.ctx key state w₁) :=
    fun howned => Spares.put_owned howned
  intro hvacant
  replace hvacant : w.fresh.accounts (.pda program seeds bump') = none := hvacant
  generalize request.apply curve w = w' at hcompleted ⊢
  generalize request.ix = ix at hcompleted
  cases hcompleted with
  | initializeRegistry loaded created owned =>
    exact hwritten owned (hcreated (by simp [registrySeeds, positionSeeds]) created hvacant)
  | @whitelistAdapter name interfaceVersion b adapterCount addedAt accounts w₁ loaded passed
      created short version room counted ownedRegistry ownedEntry =>
    have hlisted := hcreated (by simp [entrySeeds, positionSeeds]) created hvacant
    exact hwritten ownedEntry (hwritten ownedRegistry hlisted)
  | pauseAdapter loaded passed owned => exact hwritten owned hvacant
  | @openPosition accounts b createdAt w₁ w₂ w₃ loaded gate version created pooled routed owned =>
    -- the position opened is the signer's
    have howner : accounts.owner.key ≠ owner := by
      rintro rfl
      exact hother loaded.signer
    have hopened : Spares (.pda program seeds bump') w.fresh w₁ :=
      hcreated (by simp [positionSeeds, howner]) created
    have hpooled : Spares (.pda program seeds bump') w₁ w₂ := by
      refine (initAssociatedToken_spares fun b' hderived => ?_).of_ok pooled
      obtain ⟨rfl, -⟩ := Pubkey.pda.inj (findProgramAddress_eq_pda hderived)
      exact not_suite_associatedTokenProgramId hsuite
    have hinitialized : Spares (.pda program seeds bump') w₂ w₃ := by
      refine hrouted ?_ routed
      rintro ⟨-, hposition⟩
      have hkey := findProgramAddress_eq_pda (initState_ok created).1
      rw [hprogram] at hkey
      simp only [initializeInstruction, forward, List.cons_append, List.getElem?_cons_succ,
        List.getElem?_cons_zero, Option.map_some, Option.some.injEq] at hposition
      exact howner (positionAddress_inj (hkey.symm.trans hposition)).1
    exact hwritten owned (hinitialized (hpooled (hopened hvacant)))
  | @deposit amount shares accounts w₁ w₂ accepted positive version funded routed returned owned =>
    have hfunded := hrouted (by rintro ⟨⟨_, _, hdata, -⟩, -⟩; cases hdata) funded hvacant
    have hmoved : Spares (.pda program seeds bump') w₁ w₂ := by
      refine hrouted ?_ routed
      exact not_initializes_of_decode rfl (decode_encodeDeposit amount (by simp)) (by simp)
    exact hwritten owned (hmoved hfunded)
  | @withdraw shares amountOut accounts w₁ w₂ accepted positive version routed returned paid
      owned =>
    have hmoved : Spares (.pda program seeds bump') w.fresh w₁ := by
      refine hrouted ?_ routed
      exact not_initializes_of_decode rfl (decode_encodeWithdraw shares (by simp)) (by simp)
    have hpaid : Spares (.pda program seeds bump') w₁ w₂ := by
      unfold payOut at paid
      split_ifs at paid
      · exact hrouted (by rintro ⟨⟨_, _, hdata, -⟩, -⟩; cases hdata) paid
      · obtain ⟨-, rfl⟩ := Exec.pure_ok.mp paid
        exact id
    exact hwritten owned (hpaid (hmoved hvacant))
  | @currentValue value accounts w₁ accepted version routed returned =>
    have hvalued : Spares (.pda program seeds bump') w.fresh w₁ := by
      refine hrouted ?_ routed
      exact not_initializes_of_decode rfl (decode_encodeCurrentValue (by simp)) (by simp)
    exact hvalued hvacant

variable {label : Option Request} {past : List (Chain × Option Request)}

/-- Bystanders undeploy no program and close no mint. -/
theorem Bystander.standing
    (h : Bystander curve (Reliable (· = dispatcherId)) owner w label w') : Standing Suite w w' := by
  cases h with
  | request request hexec hother =>
    have hpermits : Permits dispatcherId (Standing (σ := ProgramState) (η := Event) Suite) :=
      Standing.permits suite_dispatcherId (by decide)
    exact Request.apply_within fun _ _ _ _ => hexec.standing _ _ _
  | direct program executing outermost =>
    rw [send_eq program executing outermost]
    exact .refl _
  | outside haside => exact haside.standing

/-- Of what the dispatcher stores once they move at most an entry's switch. -/
theorem Bystander.kept (h : Bystander curve (Reliable (· = dispatcherId)) owner w label w') :
    Kept w w' := by
  cases h with
  | request request hexec hother => exact (enrolled_of_request hexec.lawful).kept
  | direct program executing outermost =>
    rw [send_eq program executing outermost]
    exact .refl _
  | outside haside =>
    have henrolled : Enrolled curve (fun _ => False) w w' :=
      .unchanged (haside.framed.typed?_eq suite_dispatcherId)
    exact henrolled.kept

/-- They open no position of the owner's. -/
theorem Bystander.spares_position
    (h : Bystander curve (Reliable (· = dispatcherId)) owner w label w') :
    Spares (positionAddress owner adapterProgram bump) w w' := by
  cases h with
  | request request hexec hother =>
    exact spares_of_request adapterProgram bump hother suite_dispatcherId (fun _ => rfl)
      fun _ _ _ _ hrun => hexec.spares _ _ _ hrun _ _ _ rfl
  | direct program executing outermost =>
    rw [send_eq program executing outermost]
    exact id
  | outside haside => exact haside.spares _ _ _ suite_dispatcherId

/-- Nor do they have a state account created for it, unless a program called by an adapter calls
the adapters in its turn. -/
theorem Bystander.spares_state {adapter : Adapter} {bump' : UInt8}
    (h : Bystander curve (Reliable (· = dispatcherId)) owner w label w')
    (hover : ∀ request, label = some request → OverReliable curve layout request.exec) :
    Spares (.pda adapter.programId (adapterStateSeeds adapter.programId
      (positionAddress owner adapterProgram bump)) bump') w w' := by
  cases h with
  | request request hexec hother =>
    obtain ⟨protocol, hprotocol, hcallee⟩ := hover request rfl
    refine spares_of_request adapterProgram bump hother adapter.suite
      (fun hsame => absurd hsame adapter.programId_ne_dispatcherId)
      fun instruction w₁ w₂ hnot hrun => ?_
    rw [hcallee] at hrun
    refine Adapter.callee_spares hprotocol adapter.suite (fun other position _ hseeds => ?_) hrun
    obtain rfl : positionAddress owner adapterProgram bump = position := by
      simp only [adapterStateSeeds, Seeds.text.injEq, Seeds.addr.injEq, and_true] at hseeds
      exact hseeds.2.2
    exact hnot
  | direct program executing outermost =>
    rw [send_eq program executing outermost]
    exact id
  | outside haside => exact haside.spares _ _ _ adapter.suite

/-- What is so along every run of bystanders. -/
theorem bystanders_keep
    (run : Run (· = w) (Bystander curve (Reliable (· = dispatcherId)) owner) past w') :
    Standing Suite w w' ∧ Kept w w' ∧
      Spares (positionAddress owner adapterProgram bump) w w' := by
  refine run.invariant (fun _ w' => Standing Suite w w' ∧ Kept w w' ∧
    Spares (positionAddress owner adapterProgram bump) w w') ?_ ?_
  · rintro _ rfl
    exact ⟨.refl _, .refl _, id⟩
  · rintro past w₁ label w₂ - ⟨hstanding, hkept, hspares⟩ hstep
    exact ⟨hstanding.trans hstep.standing, hkept.trans hstep.kept,
      trans_of _ hspares hstep.spares_position⟩

/-- And where no program below the adapters calls them back. -/
theorem bystanders_spare_state {adapter : Adapter} {bump' : UInt8}
    (run : Run (· = w) (Bystander curve (Reliable (· = dispatcherId)) owner) past w')
    (hover : ∀ w₁ request, (w₁, some request) ∈ past → OverReliable curve layout request.exec) :
    Spares (.pda adapter.programId (adapterStateSeeds adapter.programId
      (positionAddress owner adapterProgram bump)) bump') w w' := by
  induction run with
  | start h =>
    subst h
    exact id
  | @step past w₁ w₂ label run hstep ih =>
    have hlast : ∀ request, label = some request → OverReliable curve layout request.exec := by
      rintro request rfl
      exact hover w₁ request (List.mem_cons_self ..)
    exact trans_of _ (ih fun w₀ request hmem => hover w₀ request (List.mem_cons_of_mem _ hmem))
      (hstep.spares_state hlast)

end Bystander

/-! ### Opening again -/

/-- The address is handed in at one of these slots. -/
def HandedIn (ctx : Context) (slots : List Nat) (key : Pubkey) : Prop :=
  ∃ i ∈ slots, ctx.accounts[i]?.map (·.key) = some key

/-- Nothing is stored at the addresses handed in at these slots. -/
def Vacant (ctx : Context) (slots : List Nat) (w : Chain) : Prop :=
  ∀ key, HandedIn ctx slots key → w.accounts key = none

/-- The slots of the accounts an opening creates: the position, its pool, the adapter's state
for it, and the account its shares will be in. -/
def createdSlots (slot : Nat) : List Nat := [3, 5, 6, slot + 6]

section Again

variable {curve : Curve} {layout : Layout ProgramState} {protocol : Callee ProgramState Event}
variable {adapter : Adapter} {opening : Request} {ctx : Context} {slot : Nat} {w w' v : Chain}
variable {kept : Pubkey → Prop} {accounts : OpenPosition}

/-- The adapter finds at `slot` what the dispatcher was handed six slots further on. -/
theorem OpenPosition.Loadable.slot_eq (h : accounts.Loadable ctx w)
    (hslot : adapter.vaultSlot = some slot) :
    (initializeInstruction accounts.adapterProgram accounts.instructionsSysvar accounts.position
      accounts.adapterState accounts.owner accounts.systemProgram
      accounts.remainingAccounts).accounts[slot]?.map (·.pubkey) =
        ctx.accounts[slot + 6]?.map (·.key) := by
  obtain ⟨_, _, hslots⟩ := h.slots
  rw [hslots]
  cases adapter with
  | kaminoUsdc =>
    obtain rfl := Option.some.inj hslot
    simp [initializeInstruction, forward, Function.comp_def]
  | jupiterLp =>
    obtain rfl := Option.some.inj hslot
    simp [initializeInstruction, forward, Function.comp_def]
  | mapleSyrup =>
    obtain rfl := Option.some.inj hslot
    simp [initializeInstruction, forward, Function.comp_def]
  | marginfiUsdc => cases hslot
  | driftIf => cases hslot

/-- None of the accounts an opening creates was there before. -/
theorem vacant_of_done (hslot : adapter.vaultSlot = some slot)
    (hexec : opening.exec = Adapter.callee curve layout protocol) (hix : opening.ix = .openPosition)
    (hrouted : routedAdapter opening.ctx opening.ix = some adapter.programId)
    (hdone : opening.Done curve w) : Vacant opening.ctx (createdSlots slot) w := by
  have hcompleted := Request.completed_of_done hdone
  rw [hix, hexec] at hcompleted
  rw [hix] at hrouted
  generalize opening.apply curve w = w' at hcompleted
  cases hcompleted with
  | @openPosition accounts bump createdAt w₁ w₂ w₃ loaded gate version created pooled routed
      owned =>
    have hadapter : accounts.adapterProgram.key = adapter.programId :=
      Option.some.inj (loaded.routed.symm.trans hrouted)
    obtain ⟨v, v', hv, -, hentry⟩ := entry_of_routed hadapter rfl routed
    obtain ⟨⟨state, hstate, hvacantState⟩, vault, hvault, hvacantVault⟩ :=
      Adapter.vacant_of_entry hslot (decode_encodeInitialize (by simp)) hentry
    have hcreated : ∀ k, Remains k w.fresh w₁ := fun k => initState_leaves.of_ok created
    have hpooled : ∀ k, Remains k w₁ w₂ := fun k => initAssociatedToken_leaves.of_ok pooled
    -- what is vacant when the adapter is called was vacant at the start
    have hfirst : ∀ k, v.accounts k = none → w.accounts k = none := by
      intro k hk
      rw [hv] at hk
      exact hcreated k (hpooled k hk)
    obtain ⟨_, _, hslots⟩ := loaded.slots
    rintro key ⟨i, hi, hslotKey⟩
    simp only [createdSlots, List.mem_cons, List.not_mem_nil, or_false] at hi
    -- the position, its pool, the state account and the vault
    rcases hi with rfl | rfl | rfl | rfl
    · rw [hslots] at hslotKey
      obtain rfl := Option.some.inj hslotKey
      exact (initState_ok created).2.1
    · rw [hslots] at hslotKey
      obtain rfl := Option.some.inj hslotKey
      exact hcreated _ (initAssociatedToken_ok pooled).2.1
    · rw [hslots] at hslotKey
      obtain rfl := Option.some.inj hslotKey
      have hsame := congrArg (Option.map AccountInfo.key) hstate
      rw [Adapter.calledContext, Instruction.infos_key] at hsame
      obtain hsame := Option.some.inj hsame
      rw [← hsame] at hvacantState
      exact hfirst _ hvacantState
    · have hsame := congrArg (Option.map AccountInfo.key) hvault
      rw [Adapter.calledContext, Instruction.infos_key] at hsame
      have hlisted := (loaded.slot_eq hslot).symm.trans hsame
      obtain rfl := Option.some.inj (hslotKey.symm.trans hlisted)
      exact hfirst _ hvacantVault

/-- Loading the accounts in a world with the same programs, mints and entry gives the same
accounts, but for the mint's data. -/
theorem OpenPosition.load_again (h : Admits kept w v)
    (hentry : ∀ info, ctx.accounts[1]? = some info →
      v.state? AdapterEntry info.key = w.state? AdapterEntry info.key)
    (hload : OpenPosition.load ctx w = .ok accounts) :
    ∃ mint : Mint, OpenPosition.load ctx v =
      .ok { accounts with usdcMint := ⟨accounts.usdcMint.info, mint⟩ } := by
  unfold OpenPosition.load at hload ⊢
  split at hload
  · rename_i owner adapterEntry adapterProgram position usdcMint positionUsdcPool adapterState
      instructionsSysvar systemProgram tokenProgram associatedTokenProgram remainingAccounts hlist
    simp only [except_bind_ok, loadState_ok] at hload
    obtain ⟨_, hsigned, entry, ⟨rfl, hstored⟩, mint, hmint, _, hsystem, _, htoken, _, hassociated,
      hpure⟩ := hload
    obtain rfl := Except.ok.inj hpure
    obtain ⟨mint', hmint', hinfo⟩ := h.loadMint hmint
    have hentry' : loadState AdapterEntry v entry.info = .ok entry :=
      loadState_ok.mpr ⟨rfl, (hentry _ (by rw [hlist]; rfl)).trans hstored⟩
    refine ⟨mint'.data, ?_⟩
    simp only [hsigned, hentry', hmint', h.checkProgram hsystem, h.checkProgram htoken,
      h.checkProgram hassociated, except_ok_bind]
    rw [← hinfo]
    rfl
  · cases hload

theorem OpenPosition.constraints_again {mint : Loaded Mint} {u : Unit} (h : Admits kept w v)
    (hconstraints : accounts.constraints curve ctx w = .ok u) :
    OpenPosition.constraints curve ctx v { accounts with usdcMint := mint } = .ok u := by
  simp only [OpenPosition.constraints, except_bind_ok, checkExecutable_ok] at hconstraints ⊢
  obtain ⟨_, howner, _, hactive, _, hexecutable, hrest⟩ := hconstraints
  exact ⟨_, howner, _, hactive, (), h.programs _ hexecutable, hrest⟩

/-- An opening that completes also completes where the programs, the mints and the entry are
the same and its own addresses are as vacant. -/
theorem openPosition_follows (hslot : adapter.vaultSlot = some slot)
    (hrouted : routedAdapter ctx .openPosition = some adapter.programId) (h : Admits kept w v)
    (hentry : ∀ info, ctx.accounts[1]? = some info →
      v.state? AdapterEntry info.key = w.state? AdapterEntry info.key)
    (hkept : ∀ key, HandedIn ctx (createdSlots slot) key → kept key) :
    Exec.Follows (Admits kept) Eq
      (openPosition curve (Adapter.callee curve layout protocol) ctx)
      (openPosition curve (Adapter.callee curve layout protocol) ctx) w v := by
  refine Exec.Follows.read_bind (Exec.Follows.ofExcept_bind fun accounts hload => ?_)
  have loaded := OpenPosition.load_ok hload
  obtain ⟨_, _, hslots⟩ := loaded.slots
  have hprogram : accounts.adapterProgram.key = adapter.programId :=
    Option.some.inj (loaded.routed.symm.trans hrouted)
  have hlisted : ∀ i ∈ createdSlots slot, ∀ key, ctx.accounts[i]?.map (·.key) = some key →
      kept key := fun i hi key hkey => hkept key ⟨i, hi, hkey⟩
  have hposition : kept accounts.position.key :=
    hlisted 3 (by simp [createdSlots]) _ (by rw [hslots]; rfl)
  have hpool : kept accounts.positionUsdcPool.key :=
    hlisted 5 (by simp [createdSlots]) _ (by rw [hslots]; rfl)
  obtain ⟨mint, hload'⟩ := OpenPosition.load_again h hentry hload
  refine ⟨_, hload', ?_⟩
  refine Exec.Follows.bind (initState_follows h hposition) fun bump _ w₁ v₁ hsame h₁ => ?_
  obtain rfl := hsame
  refine Exec.Follows.bind (initAssociatedToken_follows h₁ hpool) fun _ _ w₂ v₂ _ h₂ => ?_
  refine Exec.Follows.ofExcept_bind fun _ hconstraints => ?_
  refine ⟨_, OpenPosition.constraints_again h hconstraints, ?_⟩
  refine Exec.Follows.bind (Exec.follows_require id h₂) fun _ _ w₃ v₃ _ h₃ => ?_
  refine Exec.Follows.bind (Exec.follows_read h₃) fun w₄ v₄ w₅ v₅ _ h₅ => ?_
  -- the adapter creates its two accounts in either world
  refine Exec.Follows.bind (invokeSigned_follows h₅ fun w₁ v₁ w₂ hadmits hrun => ?_)
    fun _ _ w₆ v₆ _ h₆ => ?_
  · refine Adapter.callee_follows hslot hprogram rfl (decode_encodeInitialize (by simp)) hadmits
      (fun key hkey => ?_) (fun key hkey => ?_) hrun
    · exact hlisted 6 (by simp [createdSlots]) key (by rw [hslots]; exact hkey)
    · exact hlisted (slot + 6) (by simp [createdSlots]) key ((loaded.slot_eq hslot).symm.trans hkey)
  · refine Exec.Follows.bind (Exec.follows_modify (h₆.congr rfl rfl)) fun _ _ w₇ v₇ _ h₇ => ?_
    exact store_follows h₇ hposition

/-- An opening that completes in one world completes in another with the same programs, mints
and entry where the addresses of its accounts are vacant. -/
theorem done_again (hslot : adapter.vaultSlot = some slot)
    (hexec : opening.exec = Adapter.callee curve layout protocol) (hix : opening.ix = .openPosition)
    (hrouted : routedAdapter opening.ctx opening.ix = some adapter.programId)
    (hdone : opening.Done curve w) (hprograms : ∀ key, w.executable key = true →
      v.executable key = true) (hmints : ∀ key, w.IsMint key → v.IsMint key)
    (hentry : ∀ info, opening.ctx.accounts[1]? = some info →
      v.state? AdapterEntry info.key = w.state? AdapterEntry info.key)
    (hvacant : Vacant opening.ctx (createdSlots slot) v) : opening.Done curve v := by
  have hbefore := vacant_of_done hslot hexec hix hrouted hdone
  -- at the addresses created the two worlds agree: nothing stands there in either
  have hadmits : Admits (HandedIn opening.ctx (createdSlots slot)) w.fresh v.fresh :=
    { programs := hprograms
      mints := hmints
      owners := fun key hkey => by
        rw [World.fresh_accounts, World.fresh_accounts, hbefore key hkey, hvacant key hkey] }
  rw [hix] at hrouted
  have hrun := Request.run_of_done hdone
  unfold Request.run at hrun
  rw [hix, hexec] at hrun
  obtain ⟨u', v', hrun', -, -⟩ :=
    openPosition_follows hslot hrouted hadmits hentry (fun _ => id) () _ hrun
  unfold Request.Done Request.run
  rw [hix, hexec]
  exact congrArg Prod.fst hrun'

/-- The position and the state account stand at the addresses derived for the owner. -/
theorem addresses_of_done {owner : Pubkey}
    (hexec : opening.exec = Adapter.callee curve layout protocol) (hix : opening.ix = .openPosition)
    (hrouted : routedAdapter opening.ctx opening.ix = some adapter.programId)
    (howner : opening.ctx.accounts[0]?.map (·.key) = some owner) (hdone : opening.Done curve w) :
    ∃ bump bump', opening.ctx.accounts[3]?.map (·.key) =
        some (positionAddress owner adapter.programId bump) ∧
      opening.ctx.accounts[6]?.map (·.key) = some (.pda adapter.programId
        (adapterStateSeeds adapter.programId (positionAddress owner adapter.programId bump))
          bump') := by
  have hcompleted := Request.completed_of_done hdone
  have hprogram := opening.program
  rw [hix, hexec] at hcompleted
  rw [hix] at hrouted
  generalize opening.apply curve w = w' at hcompleted
  cases hcompleted with
  | @openPosition accounts bump createdAt w₁ w₂ w₃ loaded gate version created pooled routed
      owned =>
    have hadapter : accounts.adapterProgram.key = adapter.programId :=
      Option.some.inj (loaded.routed.symm.trans hrouted)
    obtain ⟨_, _, hslots⟩ := loaded.slots
    rw [hslots] at howner ⊢
    obtain rfl := Option.some.inj howner
    have hposition := findProgramAddress_eq_pda (initState_ok created).1
    rw [hprogram, hadapter] at hposition
    -- the adapter derives its state account from the position it was handed
    obtain ⟨v, v', -, -, hentry⟩ := entry_of_routed hadapter rfl routed
    obtain ⟨ix, hdecode, hinit⟩ := Adapter.entry_completed hentry
    obtain rfl := Except.ok.inj ((decode_encodeInitialize (by simp)).symm.trans hdecode)
    obtain ⟨position, bump', hnamed, hstate⟩ := hinit.state_derived
    rw [Adapter.calledContext, Instruction.infos_key] at hnamed hstate
    obtain rfl := Option.some.inj hnamed
    refine ⟨bump, bump', congrArg some hposition, ?_⟩
    have hkey := Option.some.inj hstate
    simp only [Adapter.crateId_state, AccountMeta.newReadonly, hposition] at hkey
    exact congrArg some hkey

end Again

/-! ### When an opening can be blocked -/

section Blocked

variable {curve : Curve} {layout : Layout ProgramState} {protocol : Callee ProgramState Event}
variable {adapter : Adapter} {opening : Request} {slot : Nat} {owner entry : Pubkey}
variable {first last : Chain} {past : List (Chain × Option Request)}

/-- The programs of this repository own no program. -/
def Deployed (w : Chain) : Prop :=
  ∀ key program, w.executable key = true → Suite program → w.ownedBy program key = false

/-- The entry of an opening that completed once reads the same as long as it is active. -/
theorem entry_eq_of_kept (hexec : opening.exec = Adapter.callee curve layout protocol)
    (hix : opening.ix = .openPosition) (hdone : opening.Done curve first)
    (hentry : opening.ctx.accounts[1]?.map (·.key) = some entry) (hkept : Kept first last)
    (hactive : ∀ e, last.state? AdapterEntry entry = some e → e.isActive = true) :
    last.state? AdapterEntry entry = first.state? AdapterEntry entry := by
  have hcompleted := Request.completed_of_done hdone
  rw [hix, hexec] at hcompleted
  generalize opening.apply curve first = w' at hcompleted
  cases hcompleted with
  | @openPosition accounts bump createdAt w₁ w₂ w₃ loaded gate version created pooled routed
      owned =>
    obtain ⟨_, _, hslots⟩ := loaded.slots
    rw [hslots] at hentry
    obtain rfl := Option.some.inj hentry
    have hstored : first.state? AdapterEntry accounts.adapterEntry.key =
        some accounts.adapterEntry.data := gate.stored
    -- of an entry only the switch can have moved
    obtain ⟨isActive, hlast⟩ :=
      hkept.entry _ _ (World.state?_eq_some_iff_typed?.mp hstored)
    have hread : last.state? AdapterEntry accounts.adapterEntry.key =
        some { accounts.adapterEntry.data with isActive } :=
      World.state?_eq_some_iff_typed?.mpr hlast
    have hswitch : isActive = true := hactive _ hread
    rw [hread, hstored, hswitch, ← gate.active]

theorem Vacant.of_append {ctx : Context} {slots slots' : List Nat} (h : Vacant ctx slots last)
    (h' : Vacant ctx slots' last) : Vacant ctx (slots ++ slots') last := by
  rintro key ⟨i, hi, hkey⟩
  rcases List.mem_append.mp hi with hi | hi
  · exact h key ⟨i, hi, hkey⟩
  · exact h' key ⟨i, hi, hkey⟩

theorem Vacant.mono {ctx : Context} {slots slots' : List Nat} (h : Vacant ctx slots last)
    (hle : ∀ i ∈ slots', i ∈ slots) : Vacant ctx slots' last := by
  rintro key ⟨i, hi, hkey⟩
  exact h key ⟨i, hle i hi, hkey⟩

/-- An owner's opening of a position in one of the adapters that keep shares in a token account
goes through after any run of bystanders, as long as the adapter is active, exactly if none of
the adapter's state account and the two associated token accounts has been created meanwhile;
the position itself cannot have been. Where no program below the adapters calls back into this
repository, that leaves the two token accounts. -/
theorem opening_blocked_iff (hslot : adapter.vaultSlot = some slot)
    (hexec : opening.exec = Adapter.callee curve layout protocol) (hix : opening.ix = .openPosition)
    (hrouted : routedAdapter opening.ctx opening.ix = some adapter.programId)
    (howner : opening.ctx.accounts[0]?.map (·.key) = some owner)
    (hentry : opening.ctx.accounts[1]?.map (·.key) = some entry)
    (hdeployed : Deployed first) (hdone : opening.Done curve first)
    (run : Run (· = first) (Bystander curve (Reliable (· = dispatcherId)) owner) past last)
    (hactive : ∀ e, last.state? AdapterEntry entry = some e → e.isActive = true) :
    Vacant opening.ctx [3] last ∧
    (opening.Done curve last ↔ Vacant opening.ctx [5, 6, slot + 6] last) ∧
    ((∀ w request, (w, some request) ∈ past → OverReliable curve layout request.exec) →
      (opening.Done curve last ↔ Vacant opening.ctx [5, slot + 6] last)) := by
  obtain ⟨bump, bump', hposition, hstate⟩ :=
    addresses_of_done hexec hix hrouted howner hdone
  have hbefore := vacant_of_done hslot hexec hix hrouted hdone
  obtain ⟨hstanding, hkept, hspares⟩ :=
    @bystanders_keep curve owner adapter.programId bump first last past run
  -- only the owner's own request creates the position
  have hunopened : Vacant opening.ctx [3] last := by
    rintro key ⟨i, hi, hkey⟩
    obtain rfl := List.mem_singleton.mp hi
    obtain rfl := Option.some.inj (hposition.symm.trans hkey)
    exact hspares (hbefore _ ⟨3, by simp [createdSlots], hposition⟩)
  -- and the entry reads as it did
  have hread : ∀ info, opening.ctx.accounts[1]? = some info →
      last.state? AdapterEntry info.key = first.state? AdapterEntry info.key := by
    intro info hinfo
    rw [hinfo] at hentry
    obtain rfl := Option.some.inj hentry
    exact entry_eq_of_kept hexec hix hdone (by rw [hinfo]; rfl) hkept hactive
  have hiff : opening.Done curve last ↔ Vacant opening.ctx [5, 6, slot + 6] last := by
    constructor
    · intro hlast
      exact (vacant_of_done hslot hexec hix hrouted hlast).mono (by simp [createdSlots])
    · intro hvacant
      refine done_again hslot hexec hix hrouted hdone (fun key hkey => ?_) hstanding.minted hread
        (hunopened.of_append hvacant)
      exact (hstanding.deployed key hkey fun program => hdeployed key program hkey).1
  refine ⟨hunopened, hiff, fun hover => hiff.trans ?_⟩
  constructor
  · intro hvacant
    exact hvacant.mono (by simp)
  · intro hvacant
    -- the state account is created under the position's signature
    have hunstated : Vacant opening.ctx [6] last := by
      rintro key ⟨i, hi, hkey⟩
      obtain rfl := List.mem_singleton.mp hi
      obtain rfl := Option.some.inj (hstate.symm.trans hkey)
      exact bystanders_spare_state run hover (hbefore _ ⟨6, by simp [createdSlots], hstate⟩)
    exact (hunstated.of_append hvacant).mono (by simp)

end Blocked

/-! ### An opening left alone, and one blocked

Another user opens a position of their own, and the holder's opening goes through as before.
Someone creates one of the holder's two token accounts, and it does not. -/

namespace Sample

theorem idle_reliable : Reliable Suite idle where
  lawful _ _ _ h := by
    obtain rfl := Option.some.inj h
    exact .refl _
  standing _ _ _ h := by
    obtain rfl := Option.some.inj h
    exact .refl _
  spares _ _ _ h _ _ _ _ := by
    obtain rfl := Option.some.inj h
    exact id

theorem not_suite_default : ¬ Suite (default : Pubkey) := by
  rintro (h | ⟨adapter, h⟩)
  · revert h
    decide
  · revert h
    cases adapter <;> decide

/-- Nothing in these worlds is a program of the suite's making. -/
theorem funded_deployed {X : Pubkey} {accounts : List (Pubkey × Account ProgramState)}
    (howners : ∀ entry ∈ accounts, entry.2.executable = true → ¬ Suite entry.2.owner) :
    Deployed (funded X accounts) := by
  intro key owner hexecutable hsuite
  unfold World.executable World.ownedBy at *
  cases hstored : (funded X accounts).accounts key with
  | none => rfl
  | some account =>
    rw [hstored] at hexecutable
    simp only [Option.elim_some, decide_eq_false_iff_not]
    rintro rfl
    have hmem := World.mem_of_ofAccounts hstored
    simp only [listed, List.mem_append, List.mem_cons, Prod.mk.injEq] at hmem
    simp only [Option.elim_some] at hexecutable
    rcases hmem with (⟨-, rfl⟩ | ⟨-, rfl⟩ | ⟨-, rfl⟩ | ⟨-, rfl⟩ | ⟨-, rfl⟩ | ⟨-, rfl⟩ | hnil) |
      ⟨-, rfl⟩ | hmem
    · exact not_suite_default hsuite
    · exact not_suite_default hsuite
    · exact not_suite_default hsuite
    · exact not_suite_default hsuite
    · cases hexecutable
    · cases hexecutable
    · exact absurd hnil List.not_mem_nil
    · cases hexecutable
    · exact howners _ hmem hexecutable hsuite

theorem market_deployed : Deployed market := by
  refine funded_deployed fun entry hentry hexecutable => ?_
  simp only [List.mem_cons, List.not_mem_nil, or_false] at hentry
  rcases hentry with rfl | rfl | rfl | rfl | rfl | rfl
  · exact not_suite_default
  all_goals cases hexecutable

def bob : Pubkey := .key 60

def bobPosition : Pubkey := positionAddress bob MapleSyrup.programId 255

def bobState : Pubkey :=
  .pda MapleSyrup.programId (adapterStateSeeds MapleSyrup.programId bobPosition) 255

/-- An associated token account of Bob's position. -/
def bobToken (mint : Pubkey) : Pubkey :=
  .pda associatedTokenProgramId (associatedTokenSeeds bobPosition mint) 255

def bobOpens : Request :=
  request
    [signer bob, readonly (entryKey MapleSyrup.programId), readonly MapleSyrup.programId,
      writable bobPosition, readonly usdcMint, writable (bobToken usdcMint), writable bobState,
      readonly sysvarInstructionsId, readonly systemProgramId, readonly tokenProgramId,
      readonly associatedTokenProgramId, readonly syrupMint, writable (bobToken syrupMint),
      readonly whirlpool, readonly tokenProgramId, readonly associatedTokenProgramId]
    .openPosition (Adapter.callee curve layout idle) (by decide)

/-- The market once Bob's position is open. -/
def joined : Chain := bobOpens.apply curve market

theorem bob_run : Run (· = market) (Bystander curve (Reliable (· = dispatcherId)) alice)
    [(market, some bobOpens)] joined := by
  refine .step (.start rfl) (.request bobOpens (Adapter.callee_reliable idle_reliable) ?_)
  rintro ⟨info, hinfo, hkey, hsigner⟩
  have hsigners : bobOpens.ctx.accounts.all
      (fun info => !info.isSigner || decide (info.key ≠ alice)) = true := by decide
  have hthis := List.all_eq_true.mp hsigners info hinfo
  simp [hsigner, hkey] at hthis

theorem vacant_of_isNone {w : Chain} {key : Pubkey} (h : (w.accounts key).isNone = true) :
    w.accounts key = none := by
  simpa using h

/-- Bob's opening goes through, and then the holder's still does. -/
theorem opening_blocked_iff_joined :
    bobOpens.Done curve market ∧ holderOpens.Done curve joined := by
  refine ⟨by decide +kernel, ?_⟩
  have hdone : holderOpens.Done curve market := by decide +kernel
  have hactive : (joined.state? AdapterEntry (entryKey MapleSyrup.programId)).all
      (·.isActive) = true := by decide +kernel
  have hpool : (joined.accounts (poolKey MapleSyrup.programId)).isNone = true := by decide +kernel
  have hsyrup : (joined.accounts syrupKey).isNone = true := by decide +kernel
  refine ((@opening_blocked_iff curve layout trade .mapleSyrup holderOpens 6 alice
    (entryKey MapleSyrup.programId) market joined [(market, some bobOpens)] rfl rfl rfl rfl rfl rfl
    market_deployed hdone bob_run fun e he => ?_).2.2 fun w request hmem => ?_).mpr ?_
  · simpa [he] using hactive
  · obtain ⟨rfl, rfl⟩ : w = market ∧ request = bobOpens := by simpa using hmem
    exact ⟨idle, idle_reliable, rfl⟩
  · rintro key ⟨i, hi, hkey⟩
    simp only [List.mem_cons, List.not_mem_nil, or_false] at hi
    rcases hi with rfl | rfl
    · have hslot : holderOpens.ctx.accounts[5]?.map (·.key) =
          some (poolKey MapleSyrup.programId) := rfl
      obtain rfl := Option.some.inj (hslot.symm.trans hkey)
      exact vacant_of_isNone hpool
    · have hslot : holderOpens.ctx.accounts[12]?.map (·.key) = some syrupKey := rfl
      obtain rfl := Option.some.inj (hslot.symm.trans hkey)
      exact vacant_of_isNone hsyrup

/-- The market once someone had the account at `key` created for the holder's position. -/
def grabbed (mint key : Pubkey) : Chain :=
  market.put key ⟨tokenProgramId, false, .token ⟨mint, positionKey MapleSyrup.programId, 0⟩⟩

theorem grabbed_run {mint key : Pubkey}
    (hderived : findProgramAddress curve associatedTokenProgramId
      (associatedTokenSeeds (positionKey MapleSyrup.programId) mint) = some (key, 255))
    (hvacant : (market.accounts key).isNone = true) :
    Run (· = market) (Bystander curve (OverReliable curve layout) alice) [(market, none)]
      (grabbed mint key) :=
  .step (.start rfl) (.outside (aside_of_associated hderived (vacant_of_isNone hvacant)))

/-- Creating either of the two token accounts keeps the holder from opening the position, with
the adapter still active. -/
theorem opening_blocked : holderOpens.Done curve market ∧
    ∀ account ∈ [(usdcMint, poolKey MapleSyrup.programId), (syrupMint, syrupKey)],
      Run (· = market) (Bystander curve (OverReliable curve layout) alice) [(market, none)]
        (grabbed account.1 account.2) ∧
      ((grabbed account.1 account.2).state? AdapterEntry (entryKey MapleSyrup.programId)).any
        (·.isActive) = true ∧
      ¬ holderOpens.Done curve (grabbed account.1 account.2) := by
  refine ⟨by decide +kernel, fun account hmem => ?_⟩
  simp only [List.mem_cons, List.not_mem_nil, or_false] at hmem
  rcases hmem with rfl | rfl
  · exact ⟨grabbed_run (by decide +kernel) (by decide +kernel), by decide +kernel,
      by decide +kernel⟩
  · exact ⟨grabbed_run (by decide +kernel) (by decide +kernel), by decide +kernel,
      by decide +kernel⟩

end Sample

end YieldAdapter.Dispatcher

import YieldAdapter.Adapter.Programs
import YieldAdapter.Solana.Persistence

/-!
# What an adapter creates

An adapter creates accounts only when it initialises a position: its state account for the
position and, in three of the five, the associated token account that will hold the shares.
Whether an initialisation completes is decided by the programs and the mint it is handed and
by the vacancy of these two addresses, and by nothing else that is stored.
-/

set_option autoImplicit false

namespace YieldAdapter

open Solana

/-- What is relied on of programs called while the `guarded` ones cannot run: they leave the
accounts of those alone and create none at their addresses, and they neither undeploy a
program nor close a mint. -/
structure Reliable (guarded : Pubkey → Prop) (exec : Callee ProgramState Event) : Prop where
  lawful : Lawful guarded exec
  standing : ∀ call w w', exec call w = some w' → Standing Suite w w'
  spares : ∀ call w w', exec call w = some w' → ∀ program seeds bump, guarded program →
    Spares (.pda program seeds bump) w w'

/-- The instruction asks an adapter to initialise `position`. -/
def Initializes (position : Pubkey) (instruction : Instruction) : Prop :=
  (∃ data adapterData, instruction.data = .bytes data ∧
    AdapterInstruction.decode data = .ok (.init adapterData)) ∧
      instruction.accounts[1]?.map (·.pubkey) = some position

/-- The slot of the associated token account that `adapter_initialize` creates. -/
def Adapter.vaultSlot : Adapter → Option Nat
  | .kaminoUsdc => some 7
  | .jupiterLp | .mapleSyrup => some 6
  | .marginfiUsdc | .driftIf => none

theorem not_suite_associatedTokenProgramId : ¬ Suite associatedTokenProgramId := by
  rintro (h | ⟨adapter, h⟩)
  · revert h
    decide
  · revert h
    cases adapter <;> decide

section Callee

variable {curve : Curve} {layout : Layout ProgramState} {protocol : Callee ProgramState Event}
variable {call : Call} {w w' : Chain}

/-- Calls to the adapters leave programs and mints where they are. -/
theorem Adapter.callee_standing (hprotocol : Reliable Suite protocol)
    (h : Adapter.callee curve layout protocol call w = some w') : Standing Suite w w' := by
  cases hfound : Adapter.ofProgramId call.instruction.programId with
  | none =>
    rw [Adapter.callee, hfound] at h
    exact hprotocol.standing call w w' h
  | some adapter =>
    have hprogram := Adapter.ofProgramId_eq_some hfound
    obtain ⟨data, ix, -, -, hcompleted⟩ := Adapter.completed_of_callee hprogram h
    have hpermits : Permits (adapter.calledContext call).programId
        (Standing (σ := ProgramState) (η := Event) Suite) :=
      Standing.permits (.inr ⟨adapter, rfl⟩) adapter.programId_ne_tokenProgramId
    have hcleared : Standing Suite w w.fresh := Standing.of_accounts rfl
    exact hcleared.trans (hcompleted.within fun _ _ _ _ => hprotocol.standing _ _ _)

/-- A call to the adapters creates nothing at an address of this repository's programs, unless
it initialises the position whose state account belongs there. -/
theorem Adapter.callee_spares (hprotocol : Reliable Suite protocol) {program : Pubkey}
    {seeds : Seeds} {bump : UInt8} (hsuite : Suite program)
    (hother : ∀ (adapter : Adapter) (position : Pubkey), program = adapter.programId →
      seeds = adapterStateSeeds adapter.programId position →
        ¬ Initializes position call.instruction)
    (h : Adapter.callee curve layout protocol call w = some w') :
    Spares (.pda program seeds bump) w w' := by
  cases hfound : Adapter.ofProgramId call.instruction.programId with
  | none =>
    rw [Adapter.callee, hfound] at h
    exact hprotocol.spares call w w' h _ _ _ hsuite
  | some adapter =>
    have hprogram := Adapter.ofProgramId_eq_some hfound
    obtain ⟨data, hdata, hrun⟩ := Adapter.entry_of_callee hprogram h
    have hcleared : Spares (.pda program seeds bump) w w.fresh := Quiet.settled rfl rfl
    refine trans_of _ hcleared ((Adapter.entry_leaves ?_ fun adapterData hdecode => ?_).of_ok hrun)
    · exact fun _ _ _ _ hcalled => hprotocol.spares _ _ _ hcalled _ _ _ hsuite
    -- the two creations of an initialisation have addresses of their own
    · refine ⟨fun {_ position _ _} hposition => initState_spares fun bump' hderived => ?_,
        initAssociatedToken_spares fun bump' hderived => ?_⟩
      · have hslot := congrArg (Option.map AccountInfo.key) hposition
        rw [Adapter.calledContext, Instruction.infos_key] at hslot
        obtain ⟨rfl, rfl, -⟩ := Pubkey.pda.inj (findProgramAddress_eq_pda hderived)
        exact hother adapter position.key rfl rfl ⟨⟨data, adapterData, hdata, hdecode⟩, hslot⟩
      · obtain ⟨rfl, -⟩ := Pubkey.pda.inj (findProgramAddress_eq_pda hderived)
        exact not_suite_associatedTokenProgramId hsuite

/-- Over such protocols the adapters can be relied on, for the dispatcher's part. -/
theorem Adapter.callee_reliable (hprotocol : Reliable Suite protocol) :
    Reliable (· = dispatcherId) (Adapter.callee curve layout protocol) where
  lawful := Adapter.callee_lawful hprotocol.lawful
  standing _ _ _ h := Adapter.callee_standing hprotocol h
  spares call w w' h program seeds bump hprogram := by
    refine Adapter.callee_spares hprotocol (.inl hprogram) (fun adapter _ hadapter => ?_) h
    exact absurd (hadapter.symm.trans hprogram) adapter.programId_ne_dispatcherId

end Callee

/-! ### Initialising again -/

section Follows

variable {τ : Type} [AdapterAccount τ] {curve : Curve} {ctx : Context} {kept : Pubkey → Prop}
variable {w v : Chain}

/-- A check that reads nothing stored passes again. -/
theorem check_follows {α : Type} {x : Except Error α} (h : Admits kept w v) :
    Exec.Follows (Admits kept) Eq (Exec.ofExcept x) (Exec.ofExcept x) w v :=
  Exec.follows_ofExcept (fun a hok => ⟨a, hok, rfl⟩) h

theorem InitPrefix.create_follows {programId : Pubkey}
    {instructionsSysvar position adapterState rentPayer systemProgram : AccountInfo}
    (h : Admits kept w v) (hkept : kept adapterState.key) :
    Exec.Follows (Admits kept) (fun slots slots' => slots' = slots ∧ kept slots.adapterState.key)
      (InitPrefix.create curve ctx programId instructionsSysvar position adapterState rentPayer
        systemProgram)
      (InitPrefix.create curve ctx programId instructionsSysvar position adapterState rentPayer
        systemProgram) w v := by
  refine Exec.Follows.bind (initState_follows h hkept) fun bump _ w₁ v₁ hsame h₁ => ?_
  obtain rfl := hsame
  exact Exec.follows_pure ⟨rfl, hkept⟩ h₁

/-- What is written into the new account may differ. -/
theorem initializeWith_follows {accounts : InitPrefix} {adapterData : Bytes}
    {state state' : AdapterStateHeader → τ} (h : Admits kept w v)
    (hkept : kept accounts.adapterState.key) :
    Exec.Follows (Admits kept) Eq (initializeWith ctx accounts adapterData (pure ()) state)
      (initializeWith ctx accounts adapterData (pure ()) state') w v := by
  refine Exec.Follows.bind (check_follows h) fun _ _ w₁ v₁ _ h₁ => ?_
  refine Exec.Follows.bind (check_follows h₁) fun _ _ w₂ v₂ _ h₂ => ?_
  exact Exec.Follows.bind (Exec.follows_read h₂) fun _ _ w₃ v₃ _ h₃ => store_follows h₃ hkept

/-- A check of a program handed in passes again. -/
theorem checkProgram_follows {w₀ v₀ : Chain} {programId : Pubkey} {info : AccountInfo}
    (h₀ : Admits kept w₀ v₀) (h : Admits kept w v) :
    Exec.Follows (Admits kept) Eq (Exec.ofExcept (checkProgram w₀ programId info))
      (Exec.ofExcept (checkProgram v₀ programId info)) w v :=
  Exec.follows_ofExcept (fun u hok => ⟨u, h₀.checkProgram hok, rfl⟩) h

end Follows

/-! ### The three that keep shares in a token account -/

/-- How `adapter_initialize` comes by its accounts where it creates a token account `vault`. -/
def InitPrefix.createWithVault {α : Type} (curve : Curve) (ctx : Context) (programId : Pubkey)
    (instructionsSysvar position adapterState rentPayer systemProgram mint vault tokenProgram
      associatedTokenProgram : AccountInfo) (build : InitPrefix → Loaded Mint → α) :
    Exec Chain α := do
  let w ← Exec.read
  Exec.ofExcept (checkSigner rentPayer)
  Exec.ofExcept (checkProgram w systemProgramId systemProgram)
  let mint ← Exec.ofExcept (loadMint w mint)
  Exec.ofExcept (checkProgram w tokenProgramId tokenProgram)
  Exec.ofExcept (checkProgram w associatedTokenProgramId associatedTokenProgram)
  let slots ← InitPrefix.create curve ctx programId instructionsSysvar position adapterState
    rentPayer systemProgram
  initAssociatedToken curve ctx rentPayer position mint.info vault
  Exec.ofExcept slots.constraints
  pure (build slots mint)

/-- The token account is created once the position's own record is. -/
theorem InitPrefix.createWithVault_ok {α : Type} {curve : Curve} {ctx : Context}
    {programId : Pubkey} {instructionsSysvar position adapterState rentPayer systemProgram mint
      vault tokenProgram associatedTokenProgram : AccountInfo}
    {build : InitPrefix → Loaded Mint → α} {accounts : α} {w w' : Chain}
    (h : createWithVault curve ctx programId instructionsSysvar position adapterState rentPayer
      systemProgram mint vault tokenProgram associatedTokenProgram build w = (.ok accounts, w')) :
    ∃ slots mint' w₀,
      create curve ctx programId instructionsSysvar position adapterState rentPayer
        systemProgram w = (.ok slots, w₀) ∧
      initAssociatedToken curve ctx rentPayer position mint'.info vault w₀ = (.ok (), w') ∧
      accounts = build slots mint' := by
  simp only [createWithVault, Exec.bind_ok, Exec.read_ok, Exec.ofExcept_ok, Exec.pure_ok] at h
  obtain ⟨_, _, ⟨rfl, rfl⟩, _, _, ⟨-, rfl⟩, _, _, ⟨-, rfl⟩, mint', _, ⟨-, rfl⟩, _, _, ⟨-, rfl⟩,
    _, _, ⟨-, rfl⟩, slots, w₀, hslots, _, _, hcreated, _, _, ⟨-, rfl⟩, rfl, rfl⟩ := h
  exact ⟨slots, mint', w₀, hslots, hcreated, rfl⟩

/-- `x` loads the accounts of an `adapter_initialize` that creates the one in slot `slot`. -/
def CreatesVault {α : Type} (curve : Curve) (ctx : Context) (programId : Pubkey) (slot : Nat)
    (toPrefix : α → InitPrefix) (x : Exec Chain α) : Prop :=
  (∃ e, x = Exec.fail e) ∨
    ∃ instructionsSysvar position adapterState rentPayer systemProgram mint vault tokenProgram
        associatedTokenProgram build,
      ctx.accounts[1]? = some position ∧ ctx.accounts[2]? = some adapterState ∧
        ctx.accounts[slot]? = some vault ∧ (∀ slots mint, toPrefix (build slots mint) = slots) ∧
          x = InitPrefix.createWithVault curve ctx programId instructionsSysvar position
            adapterState rentPayer systemProgram mint vault tokenProgram associatedTokenProgram
            build

theorem KaminoUsdc.AdapterInitialize.createsVault (curve : Curve) (ctx : Context) :
    CreatesVault curve ctx programId 7 toInitPrefix (tryAccounts curve ctx) := by
  unfold tryAccounts
  split
  · rename_i instructionsSysvar position adapterState rentPayer systemProgram reserve
      reserveCollateralMint collateralVault tokenProgram associatedTokenProgram tail hlist
    exact .inr ⟨_, _, _, _, _, _, _, _, _,
      fun slots mint =>
        { toInitPrefix := slots, reserve, reserveCollateralMint := mint, collateralVault },
      by rw [hlist]; rfl, by rw [hlist]; rfl, by rw [hlist]; rfl, fun _ _ => rfl, rfl⟩
  · exact .inl ⟨_, rfl⟩

theorem JupiterLp.AdapterInitialize.createsVault (curve : Curve) (ctx : Context) :
    CreatesVault curve ctx programId 6 toInitPrefix (tryAccounts curve ctx) := by
  unfold tryAccounts
  split
  · rename_i instructionsSysvar position adapterState rentPayer systemProgram lpTokenMint
      lpTokenAccount pool custody tokenProgram associatedTokenProgram tail hlist
    exact .inr ⟨_, _, _, _, _, _, _, _, _,
      fun slots mint =>
        { toInitPrefix := slots, lpTokenMint := mint, lpTokenAccount, pool, custody },
      by rw [hlist]; rfl, by rw [hlist]; rfl, by rw [hlist]; rfl, fun _ _ => rfl, rfl⟩
  · exact .inl ⟨_, rfl⟩

theorem MapleSyrup.AdapterInitialize.createsVault (curve : Curve) (ctx : Context) :
    CreatesVault curve ctx programId 6 toInitPrefix (tryAccounts curve ctx) := by
  unfold tryAccounts
  split
  · rename_i instructionsSysvar position adapterState rentPayer systemProgram syrupMint
      syrupTokenAccount whirlpool tokenProgram associatedTokenProgram tail hlist
    exact .inr ⟨_, _, _, _, _, _, _, _, _,
      fun slots mint => { toInitPrefix := slots, syrupMint := mint, syrupTokenAccount, whirlpool },
      by rw [hlist]; rfl, by rw [hlist]; rfl, by rw [hlist]; rfl, fun _ _ => rfl, rfl⟩
  · exact .inl ⟨_, rfl⟩

section Vault

variable {α τ : Type} [AdapterAccount τ] {curve : Curve} {ctx : Context} {kept : Pubkey → Prop}
variable {programId : Pubkey} {slot : Nat} {toPrefix : α → InitPrefix} {x : Exec Chain α}
variable {w w' v : Chain}

theorem CreatesVault.follows (hx : CreatesVault curve ctx programId slot toPrefix x)
    (h : Admits kept w v) (hstate : ∀ info, ctx.accounts[2]? = some info → kept info.key)
    (hvault : ∀ info, ctx.accounts[slot]? = some info → kept info.key) :
    Exec.Follows (Admits kept) (fun accounts accounts' =>
      toPrefix accounts' = toPrefix accounts ∧ kept (toPrefix accounts).adapterState.key)
      x x w v := by
  obtain ⟨e, rfl⟩ | ⟨_, position, adapterState, _, _, _, vault, _, _, build, -, hslot, hlisted,
    hbuild, rfl⟩ := hx
  · intro accounts w₁ hrun
    exact (Exec.fail_ok hrun).elim
  refine Exec.Follows.bind (Exec.follows_read h) fun _ _ _ _ h₀ h₁ => ?_
  refine Exec.Follows.bind (check_follows h₁) fun _ _ _ _ _ h₂ => ?_
  refine Exec.Follows.bind (checkProgram_follows h₀ h₂) fun _ _ _ _ _ h₃ => ?_
  refine Exec.Follows.bind (Exec.follows_ofExcept (fun _ => h₀.loadMint) h₃)
    fun mint mint' _ _ hmint h₄ => ?_
  refine Exec.Follows.bind (checkProgram_follows h₀ h₄) fun _ _ _ _ _ h₅ => ?_
  refine Exec.Follows.bind (checkProgram_follows h₀ h₅) fun _ _ _ _ _ h₆ => ?_
  refine Exec.Follows.bind (InitPrefix.create_follows h₆ (hstate _ hslot))
    fun slots slots' _ _ hslots h₇ => ?_
  obtain ⟨rfl, hkept⟩ := hslots
  -- the two mints may hold different data, and only the address is used
  rw [hmint]
  refine Exec.Follows.bind (initAssociatedToken_follows h₇ (hvault _ hlisted))
    fun _ _ _ _ _ h₈ => ?_
  refine Exec.Follows.bind (check_follows h₈) fun _ _ _ _ _ h₉ => ?_
  refine Exec.follows_pure ⟨?_, ?_⟩ h₉
  · rw [hbuild, hbuild]
  · rw [hbuild]
    exact hkept

/-- The account created for the shares was vacant. -/
theorem CreatesVault.vacant (hx : CreatesVault curve ctx programId slot toPrefix x) {accounts : α}
    (h : x w = (.ok accounts, w')) :
    ∃ info, ctx.accounts[slot]? = some info ∧ w.accounts info.key = none := by
  obtain ⟨e, rfl⟩ | ⟨_, position, adapterState, _, _, _, vault, _, _, build, hposition, -, hlisted,
    -, rfl⟩ := hx
  · exact (Exec.fail_ok h).elim
  obtain ⟨slots, mint, w₀, hslots, hcreated, -⟩ := InitPrefix.createWithVault_ok h
  refine ⟨vault, hlisted, ?_⟩
  have hremains : Remains vault.key _ w₀ :=
    (InitPrefix.create_leaves .of_benign hposition).of_ok hslots
  exact hremains (initAssociatedToken_ok hcreated).2.1

/-- Where two worlds have programs, mints and vacancies in common, an initialisation that
completes in the one completes in the other. -/
theorem CreatesVault.initialize_follows (hx : CreatesVault curve ctx programId slot toPrefix x)
    (h : Admits kept w v) (hstate : ∀ info, ctx.accounts[2]? = some info → kept info.key)
    (hvault : ∀ info, ctx.accounts[slot]? = some info → kept info.key) {adapterData : Bytes}
    {state : α → AdapterStateHeader → τ} :
    Exec.Follows (Admits kept) Eq
      (x >>= fun accounts =>
        initializeWith ctx (toPrefix accounts) adapterData (pure ()) (state accounts))
      (x >>= fun accounts =>
        initializeWith ctx (toPrefix accounts) adapterData (pure ()) (state accounts)) w v := by
  refine Exec.Follows.bind (hx.follows h hstate hvault) fun accounts accounts' _ _ hsame h₁ => ?_
  rw [hsame.1]
  exact initializeWith_follows h₁ hsame.2

end Vault

namespace Adapter

section Initialize

variable {curve : Curve} {layout : Layout ProgramState} {protocol : Callee ProgramState Event}
variable {ctx : Context} {call : Call} {kept : Pubkey → Prop} {w w' v : Chain} {adapter : Adapter}
variable {slot : Nat} {data adapterData : Bytes}

/-- An initialisation that completes where the two addresses are vacant completes wherever they
are, given the programs and the mint. -/
theorem entry_follows (hslot : adapter.vaultSlot = some slot)
    (hdecode : AdapterInstruction.decode data = .ok (.init adapterData)) (h : Admits kept w v)
    (hstate : ∀ info, ctx.accounts[2]? = some info → kept info.key)
    (hvault : ∀ info, ctx.accounts[slot]? = some info → kept info.key) :
    Exec.Follows (Admits kept) Eq (adapter.entry curve protocol layout ctx data)
      (adapter.entry curve protocol layout ctx data) w v := by
  have hdecoded : Exec.Follows (Admits kept)
      (fun ix ix' => ix = .init adapterData ∧ ix' = .init adapterData)
      (Exec.ofExcept (AdapterInstruction.decode data))
      (Exec.ofExcept (AdapterInstruction.decode data)) w v := by
    refine Exec.follows_ofExcept (fun ix hix => ?_) h
    rw [hdecode] at hix
    exact ⟨ix, by rw [hdecode, hix], (Except.ok.inj hix).symm, (Except.ok.inj hix).symm⟩
  cases adapter with
  | kaminoUsdc =>
    obtain rfl := Option.some.inj hslot
    refine Exec.Follows.bind hdecoded fun ix ix' w₁ v₁ hinit h₁ => ?_
    obtain ⟨rfl, rfl⟩ := hinit
    exact (KaminoUsdc.AdapterInitialize.createsVault curve ctx).initialize_follows h₁ hstate hvault
  | jupiterLp =>
    obtain rfl := Option.some.inj hslot
    refine Exec.Follows.bind hdecoded fun ix ix' w₁ v₁ hinit h₁ => ?_
    obtain ⟨rfl, rfl⟩ := hinit
    exact (JupiterLp.AdapterInitialize.createsVault curve ctx).initialize_follows h₁ hstate hvault
  | mapleSyrup =>
    obtain rfl := Option.some.inj hslot
    refine Exec.Follows.bind hdecoded fun ix ix' w₁ v₁ hinit h₁ => ?_
    obtain ⟨rfl, rfl⟩ := hinit
    exact (MapleSyrup.AdapterInitialize.createsVault curve ctx).initialize_follows h₁ hstate hvault
  | marginfiUsdc => cases hslot
  | driftIf => cases hslot

/-- Both addresses were vacant when an initialisation completed. -/
theorem vacant_of_entry (hslot : adapter.vaultSlot = some slot)
    (hdecode : AdapterInstruction.decode data = .ok (.init adapterData))
    (h : adapter.entry curve protocol layout ctx data w = (.ok (), w')) :
    (∃ info, ctx.accounts[2]? = some info ∧ w.accounts info.key = none) ∧
      ∃ info, ctx.accounts[slot]? = some info ∧ w.accounts info.key = none := by
  constructor
  · obtain ⟨ix, hdecode', hcompleted⟩ := entry_completed h
    obtain rfl := Except.ok.inj (hdecode.symm.trans hdecode')
    cases hcompleted with
    | initialized slots guarded seeds vacant => exact ⟨_, by rw [slots]; rfl, vacant⟩
  · cases adapter with
    | kaminoUsdc =>
      obtain rfl := Option.some.inj hslot
      have hrun := Exec.run_of_ofExcept hdecode h
      obtain ⟨accounts, w₁, haccounts, -⟩ := Exec.bind_ok.mp hrun
      exact (KaminoUsdc.AdapterInitialize.createsVault curve ctx).vacant haccounts
    | jupiterLp =>
      obtain rfl := Option.some.inj hslot
      have hrun := Exec.run_of_ofExcept hdecode h
      obtain ⟨accounts, w₁, haccounts, -⟩ := Exec.bind_ok.mp hrun
      exact (JupiterLp.AdapterInitialize.createsVault curve ctx).vacant haccounts
    | mapleSyrup =>
      obtain rfl := Option.some.inj hslot
      have hrun := Exec.run_of_ofExcept hdecode h
      obtain ⟨accounts, w₁, haccounts, -⟩ := Exec.bind_ok.mp hrun
      exact (MapleSyrup.AdapterInitialize.createsVault curve ctx).vacant haccounts
    | marginfiUsdc => cases hslot
    | driftIf => cases hslot

/-- A run of the adapter's code that completes is a completed call. -/
theorem callee_of_entry (hprogram : call.instruction.programId = adapter.programId)
    (hdata : call.instruction.data = .bytes data)
    (h : adapter.entry curve protocol layout (adapter.calledContext call) data w.fresh =
      (.ok (), w')) :
    callee curve layout protocol call w = some w' := by
  unfold calledContext at h
  unfold callee
  rw [hprogram, ofProgramId_programId]
  unfold Callee.ofProgram
  simp only [hdata, h]

/-- So does the call that asks for it. -/
theorem callee_follows (hslot : adapter.vaultSlot = some slot)
    (hprogram : call.instruction.programId = adapter.programId)
    (hdata : call.instruction.data = .bytes data)
    (hdecode : AdapterInstruction.decode data = .ok (.init adapterData)) (h : Admits kept w v)
    (hstate : ∀ key, call.instruction.accounts[2]?.map (·.pubkey) = some key → kept key)
    (hvault : ∀ key, call.instruction.accounts[slot]?.map (·.pubkey) = some key → kept key)
    (hrun : callee curve layout protocol call w = some w') :
    ∃ v', callee curve layout protocol call v = some v' ∧ Admits kept w' v' := by
  obtain ⟨data', hdata', hentry⟩ := entry_of_callee hprogram hrun
  obtain rfl := InstructionData.bytes.inj (hdata'.symm.trans hdata)
  have hslots : ∀ {i : Nat} {info : AccountInfo},
      (adapter.calledContext call).accounts[i]? = some info →
        call.instruction.accounts[i]?.map (·.pubkey) = some info.key := by
    intro i info hinfo
    rw [← Instruction.infos_key]
    exact congrArg (Option.map AccountInfo.key) hinfo
  have hfresh : Admits kept w.fresh v.fresh := h.congr rfl rfl
  obtain ⟨u, v', hentry', -, h'⟩ := entry_follows hslot hdecode hfresh
    (fun info hinfo => hstate _ (hslots hinfo)) (fun info hinfo => hvault _ (hslots hinfo)) _ _
    hentry
  exact ⟨v', callee_of_entry hprogram hdata' hentry', h'⟩

end Initialize

end Adapter

end YieldAdapter

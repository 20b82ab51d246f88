import YieldAdapter.Solana.Anchor

/-!
# What lasts

Whether an instruction that succeeds in one world would succeed in a later one. Deployed
programs and mints are there to stay (`Standing`), and an address may still be vacant
(`Spares`). `Admits` is what the later world then has in common with the earlier one, and
each part of an instruction that returned in the one returns in the other.
-/

set_option autoImplicit false

namespace Solana

variable {σ η : Type}

/-- A mint of the Token program's is stored there. -/
def World.IsMint (w : World σ η) (key : Pubkey) : Prop :=
  ∃ executable m, w.accounts key = some ⟨tokenProgramId, executable, .mint m⟩

theorem loadMint_ok {w : World σ η} {info : AccountInfo} {account : Loaded Mint} :
    loadMint w info = .ok account ↔ account.info = info ∧
      ∃ executable,
        w.accounts info.key = some ⟨tokenProgramId, executable, .mint account.data⟩ := by
  obtain ⟨info', m⟩ := account
  unfold loadMint
  split
  · rename_i owner executable m' hstored
    by_cases howner : owner = tokenProgramId
    · simp [howner, hstored, eq_comm]
    · simp [howner, hstored]
  · rename_i hother
    constructor
    · intro h
      cases h
    · rintro ⟨-, executable, hstored⟩
      exact absurd hstored (hother _ _ _)

/-! ### Programs and mints -/

/-- Programs that the `locked` programs do not own stay deployed, and mints stay mints. -/
structure Standing (locked : Pubkey → Prop) (w w' : World σ η) : Prop where
  deployed : ∀ key, w.executable key = true → (∀ program, locked program →
    w.ownedBy program key = false) →
      w'.executable key = true ∧ ∀ program, locked program → w'.ownedBy program key = false
  minted : ∀ key, w.IsMint key → w'.IsMint key

namespace Standing

variable {locked : Pubkey → Prop} {w w' w'' : World σ η}

theorem refl (w : World σ η) : Standing locked w w := ⟨fun _ h h' => ⟨h, h'⟩, fun _ h => h⟩

theorem trans (h : Standing locked w w') (h' : Standing locked w' w'') : Standing locked w w'' where
  deployed key hexecutable hfree := by
    obtain ⟨hexecutable', hfree'⟩ := h.deployed key hexecutable hfree
    exact h'.deployed key hexecutable' hfree'
  minted key hmint := h'.minted key (h.minted key hmint)

/-- Nothing changes where a program or a mint is not. -/
theorem put {key : Pubkey} {account : Account σ} (hmint : ¬ w.IsMint key)
    (hother : w.executable key = true → ∃ program, locked program ∧ w.ownedBy program key = true) :
    Standing locked w (w.put key account) where
  deployed k hexecutable hfree := by
    have hne : k ≠ key := by
      rintro rfl
      obtain ⟨program, hlocked, howned⟩ := hother hexecutable
      simp [hfree program hlocked] at howned
    simpa [World.executable, World.ownedBy, hne] using And.intro hexecutable hfree
  minted k hk := by
    have hne : k ≠ key := by
      rintro rfl
      exact hmint hk
    simpa [World.IsMint, hne] using hk

theorem of_accounts (h : w'.accounts = w.accounts) : Standing locked w w' where
  deployed key hexecutable hfree := by
    simpa [World.executable, World.ownedBy, h] using And.intro hexecutable hfree
  minted key hmint := by simpa [World.IsMint, h] using hmint

/-- Whatever a locked program does by itself keeps programs and mints. -/
theorem permits {programId : Pubkey} (hlocked : locked programId)
    (htoken : programId ≠ tokenProgramId) :
    Permits programId (Standing (σ := σ) (η := η) locked) where
  refl := refl
  trans _ _ _ := trans
  settled haccounts _ := of_accounts haccounts
  created {w key account} hvacant _ := by
    refine put ?_ fun hexecutable => ?_
    · rintro ⟨_, _, hstored⟩
      simp [hvacant] at hstored
    · simp [World.executable, hvacant] at hexecutable
  written {w key s} howned := by
    refine put ?_ fun _ => ⟨programId, hlocked, howned⟩
    rintro ⟨_, _, hstored⟩
    exact htoken (World.owner_of_ownedBy howned hstored).symm
  emitted _ _ := of_accounts rfl

end Standing

/-! ### Vacant addresses -/

/-- If nothing is stored at `key`, nothing has been stored there. -/
def Spares (key : Pubkey) (w w' : World σ η) : Prop :=
  w.accounts key = none → w'.accounts key = none

section Spares

variable {curve : Curve} {ctx : Context} {w : World σ η} {key k : Pubkey}

instance : Quiet (Spares (σ := σ) (η := η) key) where
  refl _ h := h
  trans _ _ _ h h' hvacant := h' (h hvacant)
  settled haccounts _ hvacant := by rw [haccounts, hvacant]

theorem Spares.put {account : Account σ} (hne : key ≠ k) : Spares key w (w.put k account) := by
  intro hvacant
  rw [World.put_accounts, if_neg hne, hvacant]

/-- Writing an account that exists spares those that do not. -/
theorem Spares.put_owned {account : Account σ} {programId : Pubkey}
    (howned : w.ownedBy programId k = true) : Spares key w (w.put k account) := by
  intro hvacant
  have hne : key ≠ k := by
    rintro rfl
    simp [World.ownedBy, hvacant] at howned
  exact Spares.put hne hvacant

/-- A program that writes what it owns creates nothing. -/
instance Spares.writes {programId : Pubkey} :
    Writes programId (Spares (σ := σ) (η := η) key) where
  written howned := Spares.put_owned howned
  emitted _ _ hvacant := hvacant

/-- `init` creates no account but its own. -/
theorem initState_spares {payer info : AccountInfo} {seeds : Seeds}
    (hne : ∀ bump, findProgramAddress curve ctx.programId seeds ≠ some (key, bump)) :
    Exec.Leaves (Spares key) (initState curve ctx payer seeds info) w := by
  refine Exec.Leaves.bind_ofOption fun found hfound => ?_
  refine Exec.Leaves.bind_require fun hkey => ?_
  refine Exec.Leaves.bind issue_leaves fun call w₃ _ => ?_
  refine Exec.Leaves.bind_read ?_
  refine Exec.Leaves.bind_require fun _ => ?_
  refine Exec.Leaves.bind (Spares.put ?_) fun _ w₇ _ => Exec.leaves_pure _
  rintro rfl
  refine hne found.2 ?_
  rw [hfound, hkey]

/-- So does the creation of an associated token account. -/
theorem initAssociatedToken_spares {payer wallet mint info : AccountInfo}
    (hne : ∀ bump, findProgramAddress curve associatedTokenProgramId
      (associatedTokenSeeds wallet.key mint.key) ≠ some (key, bump)) :
    Exec.Leaves (Spares key) (initAssociatedToken curve ctx payer wallet mint info) w := by
  refine Exec.Leaves.bind issue_leaves fun call w₁ _ => ?_
  refine Exec.Leaves.bind_ofOption fun found hfound => ?_
  refine Exec.Leaves.bind_read ?_
  refine Exec.Leaves.bind_require fun hkey => ?_
  refine Spares.put ?_
  rintro rfl
  refine hne found.2 ?_
  rw [hfound, hkey.1]

end Spares

/-- If nothing is stored at `key` now, nothing was before. -/
def Remains (key : Pubkey) (w w' : World σ η) : Prop :=
  w'.accounts key = none → w.accounts key = none

section Remains

variable {w : World σ η} {key k : Pubkey}

/-- Storing an account removes none. -/
theorem Remains.put {account : Account σ} : Remains key w (w.put k account) := by
  intro hvacant
  by_cases hsame : key = k
  · simp [hsame] at hvacant
  · simpa [hsame] using hvacant

instance : Benign (Remains (σ := σ) (η := η) key) where
  refl _ h := h
  trans _ _ _ h h' hvacant := h (h' hvacant)
  settled haccounts _ hvacant := by rw [← haccounts, hvacant]
  created _ _ := Remains.put

end Remains

/-! ### Running again -/

/-- What an instruction that returns on `w` and creates accounts at most at `kept` addresses
needs of another world `v`: the same programs and mints, and vacancy where it is vacant. -/
structure Admits (kept : Pubkey → Prop) (w v : World σ η) : Prop where
  programs : ∀ key, w.executable key = true → v.executable key = true
  mints : ∀ key, w.IsMint key → v.IsMint key
  owners : ∀ key, kept key → (v.accounts key).map (·.owner) = (w.accounts key).map (·.owner)

section Admits

variable {curve : Curve} {exec : Callee σ η} {ctx : Context} {kept : Pubkey → Prop}
variable {w w' v v' : World σ η} {key : Pubkey} {info : AccountInfo}

theorem Admits.congr (h : Admits kept w v) (hw : w'.accounts = w.accounts)
    (hv : v'.accounts = v.accounts) : Admits kept w' v' where
  programs k := by simpa [World.executable, hw, hv] using h.programs k
  mints k := by simpa [World.IsMint, hw, hv] using h.mints k
  owners k hk := by rw [hw, hv, h.owners k hk]

/-- The same account, up to its contents, may be created or rewritten on both sides. -/
theorem Admits.put {account account' : Account σ} (h : Admits kept w v)
    (howner : account'.owner = account.owner) (hexecutable : account.executable = false)
    (hmint : ∀ m, account.data ≠ .mint m) :
    Admits kept (w.put key account) (v.put key account') where
  programs k hk := by
    by_cases hsame : k = key
    · simp [World.executable, hsame, hexecutable] at hk
    · have hk' : w.executable k = true := by simpa [World.executable, hsame] using hk
      simpa [World.executable, hsame] using h.programs k hk'
  mints k hk := by
    by_cases hsame : k = key
    · obtain ⟨_, m, hstored⟩ := hk
      rw [World.put_accounts, if_pos hsame, Option.some.injEq] at hstored
      exact absurd (congrArg Account.data hstored) (hmint m)
    · have hk' : w.IsMint k := by simpa [World.IsMint, hsame] using hk
      simpa [World.IsMint, hsame] using h.mints k hk'
  owners k hk := by
    by_cases hsame : k = key
    · simp [hsame, howner]
    · simpa [hsame] using h.owners k hk

theorem Admits.vacant (h : Admits kept w v) (hkept : kept key) (hvacant : w.accounts key = none) :
    v.accounts key = none := by
  have howners := h.owners key hkept
  rw [hvacant] at howners
  simpa using howners

theorem Admits.owned (h : Admits kept w v) (hkept : kept key) {programId : Pubkey}
    (howned : w.ownedBy programId key = true) : v.ownedBy programId key = true := by
  have howners := h.owners key hkept
  unfold World.ownedBy at *
  cases hw : w.accounts key with
  | none => simp [hw] at howned
  | some account =>
    cases hv : v.accounts key with
    | none => simp [hw, hv] at howners
    | some account' =>
      simp only [hw, hv, Option.map_some, Option.some.injEq, Option.elim_some,
        decide_eq_true_eq] at howners howned ⊢
      rw [howners, howned]

theorem Admits.checkProgram (h : Admits kept w v) {programId : Pubkey} {u : Unit}
    (hok : Solana.checkProgram w programId info = .ok u) :
    Solana.checkProgram v programId info = .ok u := by
  rw [checkProgram_ok] at *
  exact ⟨hok.1, h.programs _ hok.2⟩

theorem Admits.loadMint (h : Admits kept w v) {account : Loaded Mint}
    (hok : Solana.loadMint w info = .ok account) :
    ∃ account', Solana.loadMint v info = .ok account' ∧ account'.info = account.info := by
  obtain ⟨hinfo, executable, hstored⟩ := loadMint_ok.mp hok
  obtain ⟨executable', m, hstored'⟩ := h.mints info.key ⟨executable, _, hstored⟩
  exact ⟨⟨info, m⟩, loadMint_ok.mpr ⟨rfl, executable', hstored'⟩, hinfo.symm⟩

theorem issue_follows {instruction : Instruction} {signerSeeds : List (Seeds × UInt8)}
    (h : Admits kept w v) :
    Exec.Follows (Admits kept) Eq (issue curve ctx instruction signerSeeds)
      (issue curve ctx instruction signerSeeds) w v := by
  refine Exec.Follows.bind (Exec.follows_ofOption h) fun pdas _ w₁ v₁ hsame h₁ => ?_
  obtain rfl := hsame
  refine Exec.Follows.bind (Exec.follows_require id h₁) fun _ _ w₂ v₂ _ h₂ => ?_
  refine Exec.Follows.bind (Exec.follows_require id h₂) fun _ _ w₃ v₃ _ h₃ => ?_
  refine Exec.Follows.bind (Exec.follows_modify (h₃.congr rfl rfl)) fun _ _ w₄ v₄ _ h₄ => ?_
  exact Exec.follows_pure rfl h₄

theorem deliver_follows {call : Call} {onFailure : Error} (h : Admits kept w v)
    (hexec : ∀ w₁ v₁ w₂, Admits kept w₁ v₁ → exec call w₁ = some w₂ →
      ∃ v₂, exec call v₁ = some v₂ ∧ Admits kept w₂ v₂) :
    Exec.Follows (Admits kept) Eq (deliver exec call onFailure) (deliver exec call onFailure)
      w v := by
  intro u w' hrun
  unfold deliver at hrun
  split at hrun
  · cases hrun
  · rename_i w₁ hcalled
    obtain ⟨v₁, hcalled', h₁⟩ := hexec { w with returnData := (call.instruction.programId, []) }
      { v with returnData := (call.instruction.programId, []) } w₁ (h.congr rfl rfl) hcalled
    obtain ⟨-, rfl⟩ := Prod.mk.inj hrun
    refine ⟨u, { v₁ with calls := v.calls, clock := v.clock }, ?_, rfl, h₁.congr rfl rfl⟩
    unfold deliver
    rw [hcalled']

/-- A call that the programs called complete on both sides. -/
theorem invokeSigned_follows {instruction : Instruction} {signerSeeds : List (Seeds × UInt8)}
    {onFailure : Error} (h : Admits kept w v)
    (hexec : ∀ w₁ v₁ w₂, Admits kept w₁ v₁ →
      exec ⟨ctx.sysvar, ctx.stack, instruction⟩ w₁ = some w₂ →
        ∃ v₂, exec ⟨ctx.sysvar, ctx.stack, instruction⟩ v₁ = some v₂ ∧ Admits kept w₂ v₂) :
    Exec.Follows (Admits kept) Eq (invokeSigned curve exec ctx instruction signerSeeds onFailure)
      (invokeSigned curve exec ctx instruction signerSeeds onFailure) w v := by
  intro u w₂ hrun
  obtain ⟨call, w₁, hissue, hdeliver⟩ := Exec.bind_ok.mp hrun
  obtain ⟨call', v₁, hissue', rfl, h₁⟩ := issue_follows h _ _ hissue
  obtain ⟨_, -, -, hcall, -⟩ := issue_ok hissue
  obtain ⟨u', v₂, hdeliver', hsame, h₂⟩ := deliver_follows h₁ (hcall ▸ hexec) _ _ hdeliver
  exact ⟨u', v₂, Exec.bind_ok.mpr ⟨call, v₁, hissue', hdeliver'⟩, hsame, h₂⟩

theorem initState_follows {payer : AccountInfo} {seeds : Seeds} (h : Admits kept w v)
    (hkept : kept info.key) :
    Exec.Follows (Admits kept) Eq (initState curve ctx payer seeds info)
      (initState curve ctx payer seeds info) w v := by
  refine Exec.Follows.bind (Exec.follows_ofOption h) fun found _ w₁ v₁ hsame h₁ => ?_
  obtain rfl := hsame
  refine Exec.Follows.bind (Exec.follows_require id h₁) fun _ _ w₂ v₂ _ h₂ => ?_
  refine Exec.Follows.bind (issue_follows h₂) fun _ _ w₃ v₃ _ h₃ => ?_
  refine Exec.Follows.bind (Exec.follows_read h₃) fun w₄ v₄ w₅ v₅ h₄ h₅ => ?_
  refine Exec.Follows.bind (Exec.follows_require (fun hvacant => ?_) h₅) fun _ _ w₆ v₆ _ h₆ => ?_
  · rw [Option.isNone_iff_eq_none] at *
    exact h₄.vacant hkept hvacant
  · refine Exec.Follows.bind (Exec.follows_modify (h₆.put rfl rfl (by simp)))
      fun _ _ w₇ v₇ _ h₇ => ?_
    exact Exec.follows_pure rfl h₇

theorem initAssociatedToken_follows {payer wallet mint : AccountInfo} (h : Admits kept w v)
    (hkept : kept info.key) :
    Exec.Follows (Admits kept) Eq (initAssociatedToken curve ctx payer wallet mint info)
      (initAssociatedToken curve ctx payer wallet mint info) w v := by
  refine Exec.Follows.bind (issue_follows h) fun _ _ w₁ v₁ _ h₁ => ?_
  refine Exec.Follows.bind (Exec.follows_ofOption h₁) fun found _ w₂ v₂ hsame h₂ => ?_
  obtain rfl := hsame
  refine Exec.Follows.bind (Exec.follows_read h₂) fun w₃ v₃ w₄ v₄ h₃ h₄ => ?_
  refine Exec.Follows.bind (Exec.follows_require (fun hvacant => ?_) h₄) fun _ _ w₅ v₅ _ h₅ => ?_
  · rw [Option.isNone_iff_eq_none] at *
    exact ⟨hvacant.1, h₃.vacant hkept hvacant.2⟩
  · exact Exec.follows_modify (h₅.put rfl rfl (by simp))

/-- What is written back may differ. -/
theorem store_follows {τ : Type} [AnchorState σ τ] {s s' : τ} (h : Admits kept w v)
    (hkept : kept key) :
    Exec.Follows (Admits kept) Eq (store τ ctx key s) (store τ ctx key s') w v := by
  refine Exec.Follows.bind (Exec.follows_read h) fun w₁ v₁ w₂ v₂ h₁ h₂ => ?_
  refine Exec.Follows.bind (Exec.follows_require (fun howned => ?_) h₂) fun _ _ w₃ v₃ _ h₃ => ?_
  · exact h₁.owned hkept howned
  · exact Exec.follows_modify (h₃.put rfl rfl (by simp))

end Admits

end Solana

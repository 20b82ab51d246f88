import YieldAdapter.Solana.Invoke

/-!
# Token transfers

The Token program's `Transfer`, run on the decoded accounts: it wants the source's
authority as a signer, equal mints and enough tokens, does nothing when source and
destination are one account, and otherwise moves the amount. Moving tokens stays in
the frame of the authority it moved them for, so a callee put together from such
moves is lawful.
-/

set_option autoImplicit false

namespace Solana

variable {σ η : Type}

namespace World

/-- Store a token account. -/
def putToken (w : World σ η) (key : Pubkey) (t : TokenAccount) : World σ η :=
  w.put key ⟨tokenProgramId, false, .token t⟩

@[simp] theorem token?_putToken (w : World σ η) (key k : Pubkey) (t : TokenAccount) :
    (w.putToken key t).token? k = if k = key then some t else w.token? k := by
  by_cases hk : k = key <;> simp [putToken, token?, hk]

/-- The world with the given accounts, where nothing has happened yet. -/
def ofAccounts (accounts : List (Pubkey × Account σ)) : World σ η where
  accounts key := accounts.lookup key
  clock := ⟨0, 0⟩
  returnData := (default, [])
  events := []
  calls := []

theorem mem_of_ofAccounts {accounts : List (Pubkey × Account σ)} {key : Pubkey}
    {account : Account σ}
    (h : (ofAccounts accounts : World σ η).accounts key = some account) :
    (key, account) ∈ accounts := by
  obtain ⟨before, after, rfl, -⟩ := List.lookup_eq_some_iff.mp h
  simp

end World

/-- Move `amount` from one token account to another. -/
def moveTokens (source destination : Pubkey) (amount : UInt64) (w : World σ η) :
    Option (World σ η) := do
  let s ← w.token? source
  let d ← w.token? destination
  let left ← checkedSub s.amount amount
  if s.mint ≠ d.mint then none
  else if source = destination then some w
  else do
    let total ← checkedAdd d.amount amount
    some ((w.putToken source { s with amount := left }).putToken destination
      { d with amount := total })

/-- `Transfer`, with accounts source, destination and authority. -/
def tokenTransfer : Callee σ η := fun call w =>
  match call.instruction.data, call.instruction.accounts with
  | .transfer amount, [source, destination, authority] =>
      if (w.token? source.pubkey).map (·.authority) = some authority.pubkey ∧
          authority.isSigner = true then
        moveTokens source.pubkey destination.pubkey amount w
      else none
  | _, _ => none

/-- Transfers a callee completes are those of the Token program. -/
def Transfers (exec : Callee σ η) : Prop :=
  ∀ call amount w w', call.instruction.programId = tokenProgramId →
    call.instruction.data = .transfer amount → exec call w = some w' →
      tokenTransfer call w = some w'

section Rules

variable {locked signed : Pubkey → Prop} {source destination : Pubkey} {amount : UInt64}
variable {w w' : World σ η}

/-- A completed move between two accounts: what left one arrived at the other. -/
theorem moveTokens_ok (h : moveTokens source destination amount w = some w') :
    ∃ s d, w.token? source = some s ∧ w.token? destination = some d ∧ s.mint = d.mint ∧
      (source = destination ∧ w' = w ∨
        source ≠ destination ∧ ∃ left total : UInt64,
          s.amount.toNat = left.toNat + amount.toNat ∧
          total.toNat = d.amount.toNat + amount.toNat ∧
          w' = (w.putToken source { s with amount := left }).putToken destination
            { d with amount := total }) := by
  simp only [moveTokens, Option.bind_eq_bind, Option.bind_eq_some_iff, checkedSub_eq_some] at h
  obtain ⟨s, hs, d, hd, left, hleft, h⟩ := h
  refine ⟨s, d, hs, hd, ?_⟩
  split_ifs at h with hmint hsame
  · exact ⟨not_not.mp hmint, .inl ⟨hsame, (Option.some.inj h).symm⟩⟩
  · obtain ⟨total, htotal, hmoved⟩ := Option.bind_eq_some_iff.mp h
    exact ⟨not_not.mp hmint, .inr ⟨hsame, left, total, hleft, checkedAdd_eq_some.mp htotal,
      (Option.some.inj hmoved).symm⟩⟩

theorem tokenTransfer_ok {call : Call} (h : tokenTransfer call w = some w') :
    ∃ amount source destination authority, call.instruction.data = .transfer amount ∧
      call.instruction.accounts = [source, destination, authority] ∧
      (w.token? source.pubkey).map (·.authority) = some authority.pubkey ∧
      authority.isSigner = true ∧
      moveTokens source.pubkey destination.pubkey amount w = some w' := by
  unfold tokenTransfer at h
  split at h
  · rename_i amount source destination authority hdata haccounts
    split_ifs at h with hauthority
    exact ⟨amount, source, destination, authority, hdata, haccounts, hauthority.1, hauthority.2, h⟩
  · simp at h

/-- Rewriting a token account stays in the frame if its authority signed, or if it
keeps its mint and authority and loses nothing. -/
theorem Framed.putToken {key : Pubkey} {t t' : TokenAccount} (hstored : w.token? key = some t)
    (hallowed : signed t.authority ∨
      t'.mint = t.mint ∧ t'.authority = t.authority ∧ t.amount ≤ t'.amount)
    (hfree : ¬ locked tokenProgramId) : Framed locked signed w (w.putToken key t') where
  kept k other hother hlocked := by
    obtain ⟨_, haccount⟩ := World.token?_eq_some.mp hstored
    -- a locked program owns no token account
    have hne : k ≠ key := by
      rintro rfl
      obtain rfl := Option.some.inj (haccount.symm.trans hother)
      exact hfree hlocked
    simpa [World.putToken, hne] using hother
  made k other s hother hlocked hdata := by
    by_cases hk : k = key
    · simp only [World.putToken, World.put_accounts, hk, if_pos, Option.some.injEq] at hother
      exact absurd (hother ▸ hdata) (by simp)
    · simpa [World.putToken, hk] using hother
  debited k other hother hunsigned := by
    rw [World.token?_putToken]
    split_ifs with hk
    · subst hk
      obtain rfl := Option.some.inj (hstored.symm.trans hother)
      rcases hallowed with hsigned | hgrown
      · exact absurd hsigned hunsigned
      · exact ⟨t', rfl, hgrown⟩
    · exact ⟨other, hother, rfl, rfl, UInt64.le_refl _⟩
  emitted := ⟨[], rfl, by simp⟩

/-- Moving tokens needs the signature of the source's authority only. -/
theorem moveTokens_framed (h : moveTokens source destination amount w = some w')
    (hsigned : ∀ t, w.token? source = some t → signed t.authority)
    (hfree : ¬ locked tokenProgramId) : Framed locked signed w w' := by
  obtain ⟨s, d, hs, hd, -, ⟨-, rfl⟩ | ⟨hne, left, total, -, htotal, rfl⟩⟩ := moveTokens_ok h
  · exact .refl _
  -- the debit needs the signature, the credit does not
  have hdebit : Framed locked signed w (w.putToken source { s with amount := left }) :=
    .putToken hs (.inl (hsigned s hs)) hfree
  have hd' : (w.putToken source { s with amount := left }).token? destination = some d := by
    rw [World.token?_putToken, if_neg (Ne.symm hne), hd]
  have hle : d.amount ≤ total := by
    rw [UInt64.le_iff_toNat_le]
    omega
  exact hdebit.trans (.putToken hd' (.inr ⟨rfl, rfl, hle⟩) hfree)

/-- The Token program's transfers are lawful. -/
theorem tokenTransfer_lawful (hfree : ¬ locked tokenProgramId) :
    Lawful locked (tokenTransfer (σ := σ) (η := η)) := by
  intro call w w' h
  obtain ⟨amount, source, destination, authority, -, haccounts, hauthority, hsigner, hmoved⟩ :=
    tokenTransfer_ok h
  refine moveTokens_framed hmoved (fun t ht => .inl ?_) hfree
  have hsame : t.authority = authority.pubkey := by simpa [ht] using hauthority
  simp only [Call.signers, haccounts, hsame, List.mem_map, List.mem_filter]
  exact ⟨authority, ⟨by simp, hsigner⟩, rfl⟩

end Rules

/-! ### Token accounts keep their authority -/

/-- Every token account is still one, of the same mint and under the same authority. -/
def Tenure (w w' : World σ η) : Prop :=
  ∀ key t, w.token? key = some t →
    ∃ t', w'.token? key = some t' ∧ t'.mint = t.mint ∧ t'.authority = t.authority

/-- The programs called change the balances of token accounts and nothing else of them. -/
def Tenured (exec : Callee σ η) : Prop :=
  ∀ call w w', exec call w = some w' → Tenure w w'

section Tenure

variable {w w' w'' : World σ η} {key : Pubkey} {t : TokenAccount}

/-- What is not a token account's address can be written. -/
theorem Tenure.put {account : Account σ} (h : w.token? key = none) :
    Tenure w (w.put key account) := by
  intro k t ht
  have hne : k ≠ key := by
    rintro rfl
    simp [h] at ht
  exact ⟨t, by rw [World.token?_put_ne hne]; exact ht, rfl, rfl⟩

/-- So can a token account, as long as mint and authority stay. -/
theorem Tenure.putToken {t' : TokenAccount} (h : w.token? key = some t) (hmint : t'.mint = t.mint)
    (hauthority : t'.authority = t.authority) : Tenure w (w.putToken key t') := by
  intro k s hs
  rw [World.token?_putToken]
  by_cases hk : k = key
  · subst hk
    obtain rfl := Option.some.inj (h.symm.trans hs)
    exact ⟨t', if_pos rfl, hmint, hauthority⟩
  · exact ⟨s, by rw [if_neg hk]; exact hs, rfl, rfl⟩

theorem World.token?_of_vacant (h : w.accounts key = none) : w.token? key = none := by
  simp [World.token?, h]

instance Tenure.benign : Benign (Tenure (σ := σ) (η := η)) where
  refl _ _ t h := ⟨t, h, rfl, rfl⟩
  trans _ _ _ h h' key t ht := by
    obtain ⟨t₁, ht₁, hmint, hauthority⟩ := h key t ht
    obtain ⟨t₂, ht₂, hmint', hauthority'⟩ := h' key t₁ ht₁
    exact ⟨t₂, ht₂, hmint'.trans hmint, hauthority'.trans hauthority⟩
  settled haccounts _ key t ht := ⟨t, by rw [World.token?_congr haccounts]; exact ht, rfl, rfl⟩
  created hvacant _ := .put (World.token?_of_vacant hvacant)

/-- A program other than the Token program keeps them by itself. -/
theorem Tenure.permits {programId : Pubkey} (htoken : programId ≠ tokenProgramId) :
    Permits programId (Tenure (σ := σ) (η := η)) where
  written howned := .put (World.token?_of_ownedBy howned htoken)
  emitted _ _ _ t ht := ⟨t, ht, rfl, rfl⟩

theorem moveTokens_tenure {source destination : Pubkey} {amount : UInt64}
    (h : moveTokens source destination amount w = some w') : Tenure w w' := by
  obtain ⟨s, d, hs, hd, -, ⟨-, rfl⟩ | ⟨hne, left, total, -, -, rfl⟩⟩ := moveTokens_ok h
  · exact refl_of Tenure w'
  · have hd' : (w.putToken source { s with amount := left }).token? destination = some d := by
      rw [World.token?_putToken, if_neg (Ne.symm hne)]
      exact hd
    have hdebit : Tenure w (w.putToken source { s with amount := left }) := .putToken hs rfl rfl
    have hcredit : Tenure (w.putToken source { s with amount := left })
        ((w.putToken source { s with amount := left }).putToken destination
          { d with amount := total }) := .putToken hd' rfl rfl
    exact trans_of Tenure hdebit hcredit

end Tenure

/-! ### What a holder is sure of -/

/-- If `holder` has the token account at `key`, it still has, with what it held, less what was
`paid` and with what was `received`, at least. -/
def Assures (holder key : Pubkey) (paid received : Nat) (w w' : World σ η) : Prop :=
  ∀ t, w.token? key = some t → t.authority = holder →
    ∃ t', w'.token? key = some t' ∧ t'.mint = t.mint ∧ t'.authority = holder ∧
      t.amount.toNat + received ≤ t'.amount.toNat + paid

section Assures

variable {w w' w'' : World σ η} {holder key : Pubkey} {a b c d : Nat}

theorem Assures.refl (w : World σ η) : Assures holder key 0 0 w w :=
  fun t ht hholder => ⟨t, ht, rfl, hholder, Nat.le_refl _⟩

theorem Assures.trans (h : Assures holder key a b w w') (h' : Assures holder key c d w' w'') :
    Assures holder key (c + a) (d + b) w w'' := by
  intro t ht hholder
  obtain ⟨t', ht', hmint', hholder', hle⟩ := h t ht hholder
  obtain ⟨t'', ht'', hmint'', hholder'', hle'⟩ := h' t' ht' hholder'
  exact ⟨t'', ht'', hmint''.trans hmint', hholder'', by omega⟩

/-- Only the token accounts matter. -/
theorem Assures.congr {v v' : World σ η} (h : Assures holder key a b v v')
    (hbefore : ∀ k, v.token? k = w.token? k) (hafter : ∀ k, w'.token? k = v'.token? k) :
    Assures holder key a b w w' := by
  simpa only [Assures, hbefore, hafter] using h

/-- Nothing is lost without the holder's signature. -/
theorem Framed.assures {locked signed : Pubkey → Prop} (h : Framed locked signed w w')
    (hunsigned : ¬ signed holder) : Assures holder key 0 0 w w' := by
  intro t ht hholder
  obtain ⟨t', ht', hmint, hauthority, hle⟩ := h.debited key t ht (hholder ▸ hunsigned)
  exact ⟨t', ht', hmint, hauthority.trans hholder, UInt64.le_iff_toNat_le.mp hle⟩

section Moves

variable {source destination : Pubkey} {amount : UInt64}

/-- Moving tokens takes the amount from the source, and from no other account. -/
theorem moveTokens_takes (h : moveTokens source destination amount w = some w') :
    Assures holder key (if source = key then amount.toNat else 0) 0 w w' := by
  obtain ⟨s, d, hs, hd, -, ⟨-, rfl⟩ | ⟨hne, left, total, hleft, htotal, rfl⟩⟩ := moveTokens_ok h
  · exact fun t ht hholder => ⟨t, ht, rfl, hholder, Nat.le_add_right _ _⟩
  intro t ht hholder
  simp only [World.token?_putToken]
  by_cases hdestination : key = destination
  · subst hdestination
    obtain rfl := Option.some.inj (hd.symm.trans ht)
    exact ⟨_, if_pos rfl, rfl, hholder, by simp only; omega⟩
  rw [if_neg hdestination]
  by_cases hsource : key = source
  · subst hsource
    obtain rfl := Option.some.inj (hs.symm.trans ht)
    exact ⟨_, if_pos rfl, rfl, hholder, by simp only [if_pos]; omega⟩
  · exact ⟨t, (if_neg hsource).trans ht, rfl, hholder, Nat.le_add_right _ _⟩

/-- Moving another's tokens brings the amount to the destination, and takes from nobody else. -/
theorem moveTokens_brings (h : moveTokens source destination amount w = some w')
    (hother : ∀ s, w.token? source = some s → s.authority ≠ holder) :
    Assures holder key 0 (if destination = key then amount.toNat else 0) w w' := by
  obtain ⟨s, d, hs, hd, -, hmoved⟩ := moveTokens_ok h
  intro t ht hholder
  have hsource : key ≠ source := by
    rintro rfl
    exact hother t ht hholder
  rcases hmoved with ⟨hsame, rfl⟩ | ⟨hne, left, total, hleft, htotal, rfl⟩
  · rw [if_neg (hsame ▸ hsource.symm)]
    exact ⟨t, ht, rfl, hholder, Nat.le_refl _⟩
  simp only [World.token?_putToken]
  by_cases hdestination : key = destination
  · subst hdestination
    obtain rfl := Option.some.inj (hd.symm.trans ht)
    exact ⟨_, if_pos rfl, rfl, hholder, by simp only [if_pos]; omega⟩
  · rw [if_neg hdestination, if_neg hsource, if_neg (Ne.symm hdestination)]
    exact ⟨t, ht, rfl, hholder, Nat.le_refl _⟩

end Moves

end Assures

end Solana

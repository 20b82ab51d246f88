import YieldAdapter.Solana.Invoke

/-!
# Account constraints

The checks Anchor generates from an accounts struct: loading a typed account,
`Signer`, `Program`, `mut`, `executable`, `address`, `seeds` with a stored bump,
and the two forms of `init`. An `init` creates its account through a call to the
System or the Associated Token program, so it fails on an address in use; the
created account holds no typed data until the instruction writes it back.
-/

set_option autoImplicit false

namespace Solana

/-- An account of an instruction together with its deserialized contents. -/
structure Loaded (τ : Type) where
  info : AccountInfo
  data : τ

/-- The address of a loaded account. -/
abbrev Loaded.key {τ : Type} (account : Loaded τ) : Pubkey := account.info.key

section Checks

variable {σ η : Type}

/-- Why an account could not be loaded as one owned by `owner`. -/
def loadError (w : World σ η) (owner key : Pubkey) : Error :=
  match w.accounts key with
  | none => .anchor .accountNotInitialized
  | some account =>
      if account.owner = owner then .anchor .accountDiscriminatorMismatch
      else .anchor .accountOwnedByWrongProgram

/-- `Account<'info, TokenAccount>`. -/
def loadToken (w : World σ η) (info : AccountInfo) : Except Error (Loaded TokenAccount) :=
  match w.token? info.key with
  | some t => .ok ⟨info, t⟩
  | none => .error (loadError w tokenProgramId info.key)

/-- `Account<'info, Mint>`, of which only existence matters to the loader. -/
def loadMint (w : World σ η) (info : AccountInfo) : Except Error (Loaded Mint) :=
  match w.accounts info.key with
  | some ⟨owner, _, .mint m⟩ =>
      if owner = tokenProgramId then .ok ⟨info, m⟩
      else .error (loadError w tokenProgramId info.key)
  | _ => .error (loadError w tokenProgramId info.key)

/-- `Account<'info, τ>` of an Anchor program. -/
def loadState (τ : Type) [AnchorState σ τ] (w : World σ η) (info : AccountInfo) :
    Except Error (Loaded τ) :=
  match w.state? τ info.key with
  | some s => .ok ⟨info, s⟩
  | none => .error (loadError w (AnchorState.programId σ τ) info.key)

/-- `Signer<'info>`. -/
def checkSigner (info : AccountInfo) : Except Error Unit :=
  check (info.isSigner = true) (.anchor .accountNotSigner)

/-- `#[account(mut)]`. -/
def checkMut (info : AccountInfo) : Except Error Unit :=
  check (info.isWritable = true) (.anchor .constraintMut)

/-- `Program<'info, _>`. -/
def checkProgram (w : World σ η) (programId : Pubkey) (info : AccountInfo) : Except Error Unit := do
  check (info.key = programId) (.anchor .invalidProgramId)
  check (w.executable info.key = true) (.anchor .invalidProgramExecutable)

/-- `#[account(executable)]`. -/
def checkExecutable (w : World σ η) (info : AccountInfo) : Except Error Unit :=
  check (w.executable info.key = true) (.anchor .constraintExecutable)

/-- `#[account(address = … @ e)]`. -/
def checkAddress (address : Pubkey) (info : AccountInfo)
    (e : Error) : Except Error Unit :=
  check (info.key = address) e

/-- `#[account(seeds = …, bump = …)]` with a bump that was stored earlier. -/
def checkSeeds (curve : Curve) (programId : Pubkey) (seeds : Seeds) (bump : UInt8)
    (info : AccountInfo) : Except Error Unit :=
  check (createProgramAddress curve programId seeds bump = some info.key) (.anchor .constraintSeeds)

variable {w : World σ η} {info : AccountInfo} {u : Unit}

@[simp] theorem loadToken_ok {account : Loaded TokenAccount} :
    loadToken w info = .ok account ↔
      account.info = info ∧ w.token? info.key = some account.data := by
  obtain ⟨info', t⟩ := account
  unfold loadToken
  cases w.token? info.key <;> simp [eq_comm]

@[simp] theorem loadState_ok {τ : Type} [AnchorState σ τ] {account : Loaded τ} :
    loadState τ w info = .ok account ↔
      account.info = info ∧ w.state? τ info.key = some account.data := by
  obtain ⟨info', s⟩ := account
  unfold loadState
  cases w.state? τ info.key <;> simp [eq_comm]

theorem loadMint_info {account : Loaded Mint} (h : loadMint w info = .ok account) :
    account.info = info := by
  unfold loadMint at h
  split at h
  · split_ifs at h
    simp only [Except.ok.injEq] at h
    exact h ▸ rfl
  · simp at h

@[simp] theorem checkSigner_ok : checkSigner info = .ok u ↔ info.isSigner = true := check_ok

@[simp] theorem checkMut_ok : checkMut info = .ok u ↔ info.isWritable = true := check_ok

@[simp] theorem checkProgram_ok {programId : Pubkey} :
    checkProgram w programId info = .ok u ↔
      info.key = programId ∧ w.executable info.key = true := by
  simp [checkProgram, except_bind_ok]

@[simp] theorem checkExecutable_ok :
    checkExecutable w info = .ok u ↔ w.executable info.key = true := check_ok

@[simp] theorem checkAddress_ok {address : Pubkey} {e : Error} :
    checkAddress address info e = .ok u ↔ info.key = address := check_ok

@[simp] theorem checkSeeds_ok {curve : Curve} {programId : Pubkey} {seeds : Seeds} {bump : UInt8} :
    checkSeeds curve programId seeds bump info = .ok u ↔
      createProgramAddress curve programId seeds bump = some info.key := check_ok

end Checks

section Init

variable {σ η : Type}

/-- The seeds of a wallet's associated token account for a mint. -/
def associatedTokenSeeds (wallet mint : Pubkey) : Seeds :=
  .addr wallet (.addr tokenProgramId (.addr mint .nil))

/-- `#[account(init, payer, space, seeds, bump)]`: the created account's bump. -/
def initState (curve : Curve) (ctx : Context) (payer : AccountInfo) (seeds : Seeds)
    (info : AccountInfo) : Exec (World σ η) UInt8 := do
  let found ← Exec.ofOption (findProgramAddress curve ctx.programId seeds) .maxSeedLengthExceeded
  Exec.require (info.key = found.1) (.anchor .constraintSeeds)
  let _ ← issue curve ctx
    { programId := systemProgramId
      accounts := [.new payer.key true, .new info.key true]
      data := .createAccount ctx.programId }
    [(seeds, found.2)]
  let w ← Exec.read
  Exec.require ((w.accounts info.key).isNone = true) .accountAlreadyInUse
  Exec.modify fun w => w.put info.key ⟨ctx.programId, false, .raw []⟩
  pure found.2

/-- `#[account(init, payer, associated_token::mint, associated_token::authority)]`. -/
def initAssociatedToken (curve : Curve) (ctx : Context) (payer wallet mint info : AccountInfo) :
    Exec (World σ η) Unit := do
  let _ ← issue curve ctx
    { programId := associatedTokenProgramId
      accounts := [.new payer.key true, .new info.key false, .newReadonly wallet.key false,
        .newReadonly mint.key false, .newReadonly systemProgramId false,
        .newReadonly tokenProgramId false]
      data := .createAssociated }
    []
  let found ← Exec.ofOption
    (findProgramAddress curve associatedTokenProgramId (associatedTokenSeeds wallet.key mint.key))
    .calleeFailed
  let w ← Exec.read
  Exec.require (info.key = found.1 ∧ (w.accounts info.key).isNone = true) .calleeFailed
  Exec.modify fun w => w.put info.key
    ⟨tokenProgramId, false, .token { mint := mint.key, authority := wallet.key, amount := 0 }⟩

/-- Write a typed account back at the end of an instruction; the runtime lets a
program change only the accounts it owns. -/
def store (τ : Type) [AnchorState σ τ] (ctx : Context) (key : Pubkey) (state : τ) :
    Exec (World σ η) Unit := do
  let w ← Exec.read
  Exec.require (w.ownedBy ctx.programId key = true) .externalAccountDataModified
  Exec.modify fun w => w.put key ⟨ctx.programId, false, .anchor (AnchorState.encode state)⟩

/-- `reload()` of a token account. -/
def reloadToken (info : AccountInfo) : Exec (World σ η) TokenAccount := do
  let w ← Exec.read
  let account ← Exec.ofExcept (loadToken w info)
  pure account.data

end Init

/-! ### What creating and writing back do -/

section Rules

variable {σ η : Type} {curve : Curve} {ctx : Context} {w w' : World σ η}
variable {locked signed : Pubkey → Prop}

/-- The call by which `init` has the System program create an account. -/
def createAccountCall (ctx : Context) (payer info : AccountInfo) : Call :=
  { sysvar := ctx.sysvar
    stack := ctx.stack
    instruction :=
      { programId := systemProgramId
        accounts := [.new payer.key true, .new info.key true]
        data := .createAccount ctx.programId } }

/-- The call by which `init` has an associated token account created. -/
def createAssociatedCall (ctx : Context) (payer wallet mint info : AccountInfo) : Call :=
  { sysvar := ctx.sysvar
    stack := ctx.stack
    instruction :=
      { programId := associatedTokenProgramId
        accounts := [.new payer.key true, .new info.key false, .newReadonly wallet.key false,
          .newReadonly mint.key false, .newReadonly systemProgramId false,
          .newReadonly tokenProgramId false]
        data := .createAssociated } }

theorem initState_ok {payer info : AccountInfo} {seeds : Seeds} {bump : UInt8}
    (h : initState curve ctx payer seeds info w = (.ok bump, w')) :
    findProgramAddress curve ctx.programId seeds = some (info.key, bump) ∧
      w.accounts info.key = none ∧
      w' = ({ w with calls := createAccountCall ctx payer info :: w.calls } : World σ η).put
        info.key ⟨ctx.programId, false, .raw []⟩ := by
  simp only [initState, Exec.bind_ok, Exec.ofOption_ok, Exec.require_ok, Exec.read_ok,
    Exec.modify_ok, Exec.pure_ok, Option.isNone_iff_eq_none] at h
  obtain ⟨found, _, ⟨hfound, rfl⟩, _, _, ⟨hkey, rfl⟩, call, _, hissue, _, _, ⟨rfl, rfl⟩,
    _, _, ⟨hvacant, rfl⟩, _, _, rfl, rfl, rfl⟩ := h
  obtain ⟨_, -, -, rfl, rfl⟩ := issue_ok hissue
  refine ⟨?_, hvacant, rfl⟩
  rw [hkey, hfound]

/-- An account is created exactly when its address is the derived one and vacant, and the
System program may be called with the two signatures. -/
theorem initState_ok_iff {payer info : AccountInfo} {seeds : Seeds} {bump : UInt8} :
    initState curve ctx payer seeds info w = (.ok bump, w') ↔
      findProgramAddress curve ctx.programId seeds = some (info.key, bump) ∧
      (systemProgramId ∉ ctx.callers ∨ systemProgramId = ctx.programId) ∧
      ctx.allows [info.key] (.new payer.key true) = true ∧
      ctx.allows [info.key] (.new info.key true) = true ∧ w.accounts info.key = none ∧
      w' = ({ w with calls := createAccountCall ctx payer info :: w.calls } : World σ η).put
        info.key ⟨ctx.programId, false, .raw []⟩ := by
  simp only [initState, Exec.bind_ok, Exec.ofOption_ok, Exec.require_ok, Exec.read_ok,
    Exec.modify_ok, Exec.pure_ok, Option.isNone_iff_eq_none, issue_ok_iff]
  have hsigners : ∀ bump, findProgramAddress curve ctx.programId seeds = some (info.key, bump) →
      signerPdas curve ctx.programId [(seeds, bump)] = some [info.key] := by
    intro bump hfound
    simp [signerPdas, findProgramAddress_create hfound]
  constructor
  · rintro ⟨found, _, ⟨hfound, rfl⟩, _, _, ⟨hkey, rfl⟩, _, _,
      ⟨pdas, hpdas, hidle, hallowed, rfl, rfl⟩, _, _, ⟨rfl, rfl⟩, _, _, ⟨hvacant, rfl⟩, _, _, rfl,
      rfl, rfl⟩
    have hfound' : findProgramAddress curve ctx.programId seeds = some (info.key, found.2) := by
      rw [hkey, hfound]
    rw [hsigners _ hfound', Option.some_inj] at hpdas
    subst hpdas
    exact ⟨hfound', hidle, hallowed _ (by simp), hallowed _ (by simp), hvacant, rfl⟩
  · rintro ⟨hfound, hidle, hpayer, hinfo, hvacant, rfl⟩
    exact ⟨_, _, ⟨hfound, rfl⟩, (), _, ⟨rfl, rfl⟩, _, _,
      ⟨_, hsigners _ hfound, hidle, by simp [hpayer, hinfo], rfl, rfl⟩, _, _, ⟨rfl, rfl⟩, (), _,
      ⟨hvacant, rfl⟩, (), _, rfl, rfl, rfl⟩

theorem initAssociatedToken_ok {payer wallet mint info : AccountInfo}
    (h : initAssociatedToken curve ctx payer wallet mint info w = (.ok (), w')) :
    (∃ bump, findProgramAddress curve associatedTokenProgramId
        (associatedTokenSeeds wallet.key mint.key) = some (info.key, bump)) ∧
      w.accounts info.key = none ∧
      w' = ({ w with calls := createAssociatedCall ctx payer wallet mint info :: w.calls } :
          World σ η).put info.key
        ⟨tokenProgramId, false,
          .token { mint := mint.key, authority := wallet.key, amount := 0 }⟩ := by
  simp only [initAssociatedToken, Exec.bind_ok, Exec.ofOption_ok, Exec.require_ok, Exec.read_ok,
    Exec.modify_ok, Option.isNone_iff_eq_none] at h
  obtain ⟨call, _, hissue, found, _, ⟨hfound, rfl⟩, _, _, ⟨rfl, rfl⟩, _, _,
    ⟨⟨hkey, hvacant⟩, rfl⟩, rfl⟩ := h
  obtain ⟨_, -, -, rfl, rfl⟩ := issue_ok hissue
  refine ⟨⟨found.2, ?_⟩, hvacant, rfl⟩
  rw [hkey, hfound]

/-- So is a token account, which the Associated Token program creates without the wallet. -/
theorem initAssociatedToken_ok_iff {payer wallet mint info : AccountInfo} {u : Unit} :
    initAssociatedToken curve ctx payer wallet mint info w = (.ok u, w') ↔
      (∃ bump, findProgramAddress curve associatedTokenProgramId
        (associatedTokenSeeds wallet.key mint.key) = some (info.key, bump)) ∧
      (associatedTokenProgramId ∉ ctx.callers ∨ associatedTokenProgramId = ctx.programId) ∧
      (∀ account ∈ (createAssociatedCall ctx payer wallet mint info).instruction.accounts,
        ctx.allows [] account = true) ∧ w.accounts info.key = none ∧
      w' = ({ w with calls := createAssociatedCall ctx payer wallet mint info :: w.calls } :
          World σ η).put info.key
        ⟨tokenProgramId, false,
          .token { mint := mint.key, authority := wallet.key, amount := 0 }⟩ := by
  simp only [initAssociatedToken, Exec.bind_ok, Exec.ofOption_ok, Exec.require_ok, Exec.read_ok,
    Exec.modify_ok, Option.isNone_iff_eq_none, issue_ok_iff]
  constructor
  · rintro ⟨_, _, ⟨pdas, hpdas, hidle, hallowed, rfl, rfl⟩, found, _, ⟨hfound, rfl⟩, _, _,
      ⟨rfl, rfl⟩, _, _, ⟨⟨hkey, hvacant⟩, rfl⟩, rfl⟩
    obtain rfl := Option.some.inj hpdas
    exact ⟨⟨found.2, by rw [hkey, hfound]⟩, hidle, hallowed, hvacant, rfl⟩
  · rintro ⟨⟨bump, hfound⟩, hidle, hallowed, hvacant, rfl⟩
    exact ⟨_, _, ⟨[], rfl, hidle, hallowed, rfl, rfl⟩, _, _, ⟨hfound, rfl⟩, _, _, ⟨rfl, rfl⟩, (), _,
      ⟨⟨rfl, hvacant⟩, rfl⟩, rfl⟩

theorem store_ok {τ : Type} [AnchorState σ τ] {key : Pubkey} {state : τ} {u : Unit} :
    store τ ctx key state w = (.ok u, w') ↔
      w.ownedBy ctx.programId key = true ∧
        w' = w.put key ⟨ctx.programId, false, .anchor (AnchorState.encode state)⟩ := by
  simp only [store, Exec.bind_ok, Exec.require_ok, Exec.read_ok, Exec.modify_ok]
  constructor
  · rintro ⟨_, _, ⟨rfl, rfl⟩, _, _, ⟨howned, rfl⟩, rfl⟩
    exact ⟨howned, rfl⟩
  · rintro ⟨howned, rfl⟩
    exact ⟨_, _, ⟨rfl, rfl⟩, (), _, ⟨howned, rfl⟩, rfl⟩

section Leaves

variable {R : World σ η → World σ η → Prop} [Benign R]

theorem initState_leaves {payer info : AccountInfo} {seeds : Seeds} :
    Exec.Leaves R (initState curve ctx payer seeds info) w := by
  refine Exec.Leaves.bind_ofOption fun found _ => ?_
  refine Exec.Leaves.bind_require fun _ => ?_
  refine Exec.Leaves.bind issue_leaves fun call w₃ _ => ?_
  refine Exec.Leaves.bind_read ?_
  refine Exec.Leaves.bind_require fun hvacant => ?_
  refine Exec.Leaves.bind ?_ fun _ w₇ _ => Exec.leaves_pure _
  exact Benign.created (by simpa using hvacant) (by simp)

theorem initAssociatedToken_leaves {payer wallet mint info : AccountInfo} :
    Exec.Leaves R (initAssociatedToken curve ctx payer wallet mint info) w := by
  refine Exec.Leaves.bind issue_leaves fun call w₁ _ => ?_
  refine Exec.Leaves.bind_ofOption fun found _ => ?_
  refine Exec.Leaves.bind_read ?_
  refine Exec.Leaves.bind_require fun ⟨_, hvacant⟩ => ?_
  exact Benign.created (by simpa using hvacant) (by simp)

end Leaves

theorem store_leaves {τ : Type} [AnchorState σ τ] {R : World σ η → World σ η → Prop}
    [Writes ctx.programId R] {key : Pubkey} {state : τ} :
    Exec.Leaves R (store τ ctx key state) w := by
  refine Exec.Leaves.bind_read ?_
  refine Exec.Leaves.bind_require fun howned => ?_
  exact Writes.written howned

section Traced

variable {exec : Callee σ η} {P : Call → Prop}

theorem initState_traced {payer info : AccountInfo} {seeds : Seeds}
    (hcall : ∀ bump, findProgramAddress curve ctx.programId seeds = some (info.key, bump) →
      P (createAccountCall ctx payer info)) :
    Exec.Leaves (Traced exec ctx signed P) (initState curve ctx payer seeds info) w := by
  refine Exec.Leaves.bind_ofOption fun found hfound => ?_
  refine Exec.Leaves.bind_require fun hkey => ?_
  have hseeds : findProgramAddress curve ctx.programId seeds = some (info.key, found.2) := by
    rw [hkey, hfound]
  refine Exec.Leaves.bind (issue_traced fun _ _ _ => hcall found.2 hseeds) fun call w₃ _ => ?_
  refine Exec.Leaves.bind_read ?_
  refine Exec.Leaves.bind_require fun hvacant => ?_
  refine Exec.Leaves.bind ⟨fun R hR _ => ?_, fun _ => .inl⟩ fun _ w₇ _ => Exec.leaves_pure _
  exact hR.created (by simpa using hvacant) (by simp)

theorem initAssociatedToken_traced {payer wallet mint info : AccountInfo}
    (hcall : P (createAssociatedCall ctx payer wallet mint info)) :
    Exec.Leaves (Traced exec ctx signed P)
      (initAssociatedToken curve ctx payer wallet mint info) w := by
  refine Exec.Leaves.bind (issue_traced fun _ _ _ => hcall) fun call w₁ _ => ?_
  refine Exec.Leaves.bind_ofOption fun found _ => ?_
  refine Exec.Leaves.bind_read ?_
  refine Exec.Leaves.bind_require fun ⟨_, hvacant⟩ => ?_
  exact ⟨fun R hR _ => hR.created (by simpa using hvacant) (by simp), fun _ => .inl⟩

theorem store_traced {τ : Type} [AnchorState σ τ] {key : Pubkey} {state : τ} :
    Exec.Leaves (Traced exec ctx signed P) (store τ ctx key state) w := by
  refine Exec.Leaves.bind_read ?_
  refine Exec.Leaves.bind_require fun howned => ?_
  exact ⟨fun R hR _ => hR.written howned, fun _ => .inl⟩

end Traced

@[simp] theorem reloadToken_ok {info : AccountInfo} {t : TokenAccount} :
    reloadToken info w = (.ok t, w') ↔ w.token? info.key = some t ∧ w' = w := by
  simp only [reloadToken, Exec.bind_ok, Exec.read_ok, Exec.ofExcept_ok, loadToken_ok, Exec.pure_ok]
  constructor
  · rintro ⟨_, _, ⟨rfl, rfl⟩, account, _, ⟨⟨rfl, hstored⟩, rfl⟩, rfl, rfl⟩
    exact ⟨hstored, rfl⟩
  · rintro ⟨hstored, rfl⟩
    exact ⟨_, _, ⟨rfl, rfl⟩, ⟨info, t⟩, _, ⟨⟨rfl, hstored⟩, rfl⟩, rfl, rfl⟩

theorem reloadToken_leaves {R : World σ η → World σ η → Prop} [Quiet R]
    {info : AccountInfo} : Exec.Leaves R (reloadToken info) w := by
  refine Exec.Leaves.bind_read ?_
  exact Exec.Leaves.bind_ofExcept fun _ _ => Exec.leaves_pure _

end Rules

end Solana

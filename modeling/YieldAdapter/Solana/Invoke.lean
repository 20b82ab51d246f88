import YieldAdapter.Solana.Exec
import YieldAdapter.Solana.World

/-!
# Cross-program invocation

A program runs in a `Context`: its own id, the programs above it on the call
stack, the instructions sysvar and the accounts it was handed. It can issue an
instruction to another program. The runtime lets a signature or a write through
only if the program holds that privilege itself, or signs for an address derived
from its own id, and it refuses to re-enter a program that is already running.

The programs called are a parameter, `Callee`. A callee is `Lawful` for the
locked programs when every call it completes respects the frame.
-/

set_option autoImplicit false

namespace Solana

/-- The instructions sysvar. -/
def sysvarInstructionsId : Pubkey :=
  .key 0x06a7d517187bd16635dad40455fdc2c0c124c68f215675a5dbbacb5f08000000

/-- Where a program runs. -/
structure Context where
  programId : Pubkey
  callers : List Pubkey
  sysvar : InstructionsSysvar
  accounts : List AccountInfo
  deriving DecidableEq

namespace Context

/-- The programs executing, outermost first, ending with this one. -/
def stack (ctx : Context) : List Pubkey := ctx.callers ++ [ctx.programId]

/-- The sysvar describes the transaction this program runs in: the instruction at its
index is the outermost program's. -/
def Executing (ctx : Context) : Prop :=
  ctx.sysvar.programIds[ctx.sysvar.currentIndex]? = ctx.stack.head?

instance (ctx : Context) : Decidable ctx.Executing := inferInstanceAs (Decidable (_ = _))

/-- The account holds the signature of this address. -/
def Signer (ctx : Context) (key : Pubkey) : Prop :=
  ∃ info ∈ ctx.accounts, info.key = key ∧ info.isSigner = true

/-- The privileges the runtime checks on an account of an outgoing instruction,
`pdas` being the addresses this program signs for. -/
def allows (ctx : Context) (pdas : List Pubkey) (account : AccountMeta) : Bool :=
  ctx.accounts.any (fun info => decide (info.key = account.pubkey)) &&
    (!account.isSigner || decide (account.pubkey ∈ pdas) ||
      ctx.accounts.any fun info => decide (info.key = account.pubkey) && info.isSigner) &&
    (!account.isWritable ||
      ctx.accounts.any fun info => decide (info.key = account.pubkey) && info.isWritable)

/-- The account may be written under this address. -/
def Writable (ctx : Context) (key : Pubkey) : Prop :=
  ∃ info ∈ ctx.accounts, info.key = key ∧ info.isWritable = true

theorem allows_iff {ctx : Context} {pdas : List Pubkey} {account : AccountMeta} :
    ctx.allows pdas account = true ↔
      (∃ info ∈ ctx.accounts, info.key = account.pubkey) ∧
      (account.isSigner = true → account.pubkey ∈ pdas ∨ ctx.Signer account.pubkey) ∧
      (account.isWritable = true → ctx.Writable account.pubkey) := by
  cases hsigner : account.isSigner <;> cases hwritable : account.isWritable <;>
    simp [allows, Signer, Writable, hsigner, hwritable, and_assoc]

/-- A signature let through is one the program holds or derives. -/
theorem signer_of_allows {ctx : Context} {pdas : List Pubkey} {account : AccountMeta}
    (h : ctx.allows pdas account = true) (hsigner : account.isSigner = true) :
    account.pubkey ∈ pdas ∨ ctx.Signer account.pubkey := by
  simp only [allows, hsigner, Bool.not_true, Bool.false_or, Bool.and_eq_true, Bool.or_eq_true,
    decide_eq_true_eq, List.any_eq_true] at h
  rcases h.1.2 with hpda | ⟨info, hmem, hkey, hsigned⟩
  · exact Or.inl hpda
  · exact Or.inr ⟨info, hmem, hkey, hsigned⟩

/-- An account that the program was handed may be handed on with no more privileges. -/
theorem allows_of_mem {ctx : Context} {pdas : List Pubkey} {account : AccountMeta}
    {info : AccountInfo} (hmem : info ∈ ctx.accounts) (hkey : account.pubkey = info.key)
    (hsigner : account.isSigner = true → info.isSigner = true)
    (hwritable : account.isWritable = true → info.isWritable = true) :
    ctx.allows pdas account = true := by
  have hlisted : ctx.accounts.any (fun other => decide (other.key = account.pubkey)) = true :=
    List.any_eq_true.mpr ⟨info, hmem, by simp [hkey]⟩
  -- `allows` is a conjunction of three Booleans
  have hsigned : (!account.isSigner || decide (account.pubkey ∈ pdas) ||
      ctx.accounts.any fun other => decide (other.key = account.pubkey) && other.isSigner) =
        true := by
    by_cases h : account.isSigner = true
    · have hany : (ctx.accounts.any fun other =>
          decide (other.key = account.pubkey) && other.isSigner) = true :=
        List.any_eq_true.mpr ⟨info, hmem, by simp [hkey, hsigner h]⟩
      rw [hany, Bool.or_true]
    · simp [h]
  have hwritten : (!account.isWritable ||
      ctx.accounts.any fun other => decide (other.key = account.pubkey) && other.isWritable) =
        true := by
    by_cases h : account.isWritable = true
    · have hany : (ctx.accounts.any fun other =>
          decide (other.key = account.pubkey) && other.isWritable) = true :=
        List.any_eq_true.mpr ⟨info, hmem, by simp [hkey, hwritable h]⟩
      rw [hany, Bool.or_true]
    · simp [h]
  rw [allows, hlisted, hsigned, hwritten]
  rfl

end Context

/-- The accounts a callee is handed: an address listed twice gets the union of
its privileges. -/
def Instruction.infos (instruction : Instruction) : List AccountInfo :=
  instruction.accounts.map fun account =>
    { key := account.pubkey
      isSigner := instruction.accounts.any fun other =>
        decide (other.pubkey = account.pubkey) && other.isSigner
      isWritable := instruction.accounts.any fun other =>
        decide (other.pubkey = account.pubkey) && other.isWritable }

/-- A callee is handed the accounts in the order they were listed. -/
theorem Instruction.infos_key (instruction : Instruction) (i : Nat) :
    instruction.infos[i]?.map (·.key) = instruction.accounts[i]?.map (·.pubkey) := by
  simp [infos, Function.comp_def]

/-- What the other programs do with a call: the world they leave, or failure. -/
abbrev Callee (σ η : Type) := Call → World σ η → Option (World σ η)

/-- A program that is not running yet, and so may still be called, derives the address. -/
def SignedBelow (stack : List Pubkey) (key : Pubkey) : Prop :=
  ∃ program seeds bump, key = .pda program seeds bump ∧ program ∉ stack

/-- The signatures that can be used while a call runs: those it carries and those of
programs called further down. -/
def Call.Authorizes (call : Call) (key : Pubkey) : Prop :=
  key ∈ call.signers ∨ SignedBelow call.stack key

/-- Every completed call respects the frame of the locked programs and of the
signatures that could be used. -/
def Lawful {σ η : Type} (locked : Pubkey → Prop) (exec : Callee σ η) : Prop :=
  ∀ call w w', exec call w = some w' → Framed locked call.Authorizes w w'

section Invoke

variable {σ η : Type}

/-- The addresses derived from the signer seeds of a call. -/
def signerPdas (curve : Curve) (programId : Pubkey) (signerSeeds : List (Seeds × UInt8)) :
    Option (List Pubkey) :=
  signerSeeds.mapM fun seeds => createProgramAddress curve programId seeds.1 seeds.2

/-- The runtime's checks on an outgoing call; the call is then on record. -/
def issue (curve : Curve) (ctx : Context) (instruction : Instruction)
    (signerSeeds : List (Seeds × UInt8)) : Exec (World σ η) Call := do
  let pdas ← Exec.ofOption (signerPdas curve ctx.programId signerSeeds) .maxSeedLengthExceeded
  Exec.require
    (instruction.programId ∉ ctx.callers ∨ instruction.programId = ctx.programId)
    .reentrancyNotAllowed
  Exec.require (instruction.accounts.all (ctx.allows pdas) = true) .privilegeEscalation
  let call : Call := ⟨ctx.sysvar, ctx.stack, instruction⟩
  Exec.modify fun w => { w with calls := call :: w.calls }
  pure call

/-- The world a call starts in: the call is on record, and nothing is returned yet. -/
def World.called (ctx : Context) (instruction : Instruction) (w : World σ η) : World σ η :=
  { w with
    calls := ⟨ctx.sysvar, ctx.stack, instruction⟩ :: w.calls
    returnData := (instruction.programId, []) }

/-- The world a call leaves if the callee completes it. -/
def World.answered (exec : Callee σ η) (ctx : Context) (instruction : Instruction)
    (w : World σ η) : Option (World σ η) :=
  (exec ⟨ctx.sysvar, ctx.stack, instruction⟩ (w.called ctx instruction)).map fun w₁ =>
    { w₁ with calls := (w.called ctx instruction).calls, clock := w.clock }

/-- Let the callee run. It starts with empty return data, cannot change the
clock, and its own calls are not this program's. -/
def deliver (exec : Callee σ η) (call : Call) (onFailure : Error) : Exec (World σ η) Unit :=
  fun w =>
    match exec call { w with returnData := (call.instruction.programId, []) } with
    | none => (.error onFailure, w)
    | some w' => (.ok (), { w' with calls := w.calls, clock := w.clock })

/-- `invoke_signed`, with the error its failure is mapped to. -/
def invokeSigned (curve : Curve) (exec : Callee σ η) (ctx : Context) (instruction : Instruction)
    (signerSeeds : List (Seeds × UInt8)) (onFailure : Error) : Exec (World σ η) Unit := do
  let call ← issue curve ctx instruction signerSeeds
  deliver exec call onFailure

/-- `invoke`: no signature of the program's own. -/
def invoke (curve : Curve) (exec : Callee σ η) (ctx : Context) (instruction : Instruction)
    (onFailure : Error) : Exec (World σ η) Unit :=
  invokeSigned curve exec ctx instruction [] onFailure

/-- Append an event to the log, under the emitting program's name. -/
def emit (ctx : Context) (event : η) : Exec (World σ η) Unit :=
  Exec.modify fun w => { w with events := (ctx.programId, event) :: w.events }

/-- `set_return_data`. -/
def setReturnData (ctx : Context) (data : Bytes) : Exec (World σ η) Unit :=
  Exec.modify fun w => { w with returnData := (ctx.programId, data) }

/-- `get_return_data`: empty data counts as none. -/
def getReturnData : Exec (World σ η) (Option (Pubkey × Bytes)) := do
  let w ← Exec.read
  pure (if w.returnData.2 = [] then none else some w.returnData)

/-- Run a program as the callee of a call carrying instruction bytes. -/
def Callee.ofProgram (programId : Pubkey) (entry : Context → Bytes → Exec (World σ η) Unit) :
    Callee σ η := fun call w =>
  match call.instruction.data with
  | .bytes data =>
      match entry ⟨programId, call.stack, call.sysvar, call.instruction.infos⟩ data w.fresh with
      | (.ok _, w') => some w'
      | (.error _, _) => none
  | _ => none

/-! ### What an invocation does -/

section Rules

variable {curve : Curve} {exec : Callee σ η} {ctx : Context} {instruction : Instruction}
variable {signerSeeds : List (Seeds × UInt8)} {onFailure : Error} {w w' : World σ η}
variable {locked signed : Pubkey → Prop}

/-- A call on record passed the runtime's checks and changed nothing else. -/
theorem issue_ok {call : Call} (h : issue curve ctx instruction signerSeeds w = (.ok call, w')) :
    ∃ pdas, signerPdas curve ctx.programId signerSeeds = some pdas ∧
      (∀ account ∈ instruction.accounts, ctx.allows pdas account = true) ∧
      call = ⟨ctx.sysvar, ctx.stack, instruction⟩ ∧ w' = { w with calls := call :: w.calls } := by
  simp only [issue, Exec.bind_ok, Exec.ofOption_ok, Exec.require_ok, Exec.modify_ok,
    Exec.pure_ok] at h
  obtain ⟨pdas, _, ⟨hpdas, rfl⟩, _, _, ⟨-, rfl⟩, _, _, ⟨hallowed, rfl⟩, _, _, rfl, rfl, rfl⟩ := h
  exact ⟨pdas, hpdas, List.all_eq_true.mp hallowed, rfl, rfl⟩

/-- The signatures of a call are the program's own and those it derives. -/
theorem signers_of_allows {pdas : List Pubkey} {sysvar : InstructionsSysvar}
    {stack : List Pubkey}
    (h : ∀ account ∈ instruction.accounts, ctx.allows pdas account = true) {key : Pubkey}
    (hkey : key ∈ Call.signers ⟨sysvar, stack, instruction⟩) : key ∈ pdas ∨ ctx.Signer key := by
  obtain ⟨account, haccount, rfl⟩ := List.mem_map.mp hkey
  obtain ⟨hmem, hsigner⟩ := List.mem_filter.mp haccount
  exact Context.signer_of_allows (h account hmem) hsigner

/-- A completed invocation: the call on record, and the callee's world. -/
theorem invokeSigned_ok
    (h : invokeSigned curve exec ctx instruction signerSeeds onFailure w = (.ok (), w')) :
    ∃ pdas w₁, signerPdas curve ctx.programId signerSeeds = some pdas ∧
      (∀ account ∈ instruction.accounts, ctx.allows pdas account = true) ∧
      exec ⟨ctx.sysvar, ctx.stack, instruction⟩
        { w with
          calls := ⟨ctx.sysvar, ctx.stack, instruction⟩ :: w.calls
          returnData := (instruction.programId, []) } = some w₁ ∧
      w' = { w₁ with
        calls := ⟨ctx.sysvar, ctx.stack, instruction⟩ :: w.calls
        clock := w.clock } := by
  obtain ⟨call, wᵢ, hissue, hdeliver⟩ := Exec.bind_ok.mp h
  obtain ⟨pdas, hpdas, hallowed, rfl, rfl⟩ := issue_ok hissue
  unfold deliver at hdeliver
  split at hdeliver
  · simp at hdeliver
  · rename_i w₁ hexec
    refine ⟨pdas, w₁, hpdas, hallowed, hexec, ?_⟩
    simpa [eq_comm] using hdeliver

/-- A call goes on record exactly when the runtime lets it through. -/
theorem issue_ok_iff {call : Call} :
    issue curve ctx instruction signerSeeds w = (.ok call, w') ↔
      ∃ pdas, signerPdas curve ctx.programId signerSeeds = some pdas ∧
        (instruction.programId ∉ ctx.callers ∨ instruction.programId = ctx.programId) ∧
        (∀ account ∈ instruction.accounts, ctx.allows pdas account = true) ∧
        call = ⟨ctx.sysvar, ctx.stack, instruction⟩ ∧ w' = { w with calls := call :: w.calls } := by
  simp only [issue, Exec.bind_ok, Exec.ofOption_ok, Exec.require_ok, Exec.modify_ok, Exec.pure_ok]
  constructor
  · rintro ⟨pdas, _, ⟨hpdas, rfl⟩, _, _, ⟨hidle, rfl⟩, _, _, ⟨hallowed, rfl⟩, _, _, rfl, rfl, rfl⟩
    exact ⟨pdas, hpdas, hidle, List.all_eq_true.mp hallowed, rfl, rfl⟩
  · rintro ⟨pdas, hpdas, hidle, hallowed, rfl, rfl⟩
    exact ⟨pdas, _, ⟨hpdas, rfl⟩, (), _, ⟨hidle, rfl⟩, (), _,
      ⟨List.all_eq_true.mpr hallowed, rfl⟩, (), _, rfl, rfl, rfl⟩

/-- An invocation completes exactly when the runtime lets it through and the callee does. -/
theorem invokeSigned_ok_iff {u : Unit} :
    invokeSigned curve exec ctx instruction signerSeeds onFailure w = (.ok u, w') ↔
      ∃ pdas, signerPdas curve ctx.programId signerSeeds = some pdas ∧
        (instruction.programId ∉ ctx.callers ∨ instruction.programId = ctx.programId) ∧
        (∀ account ∈ instruction.accounts, ctx.allows pdas account = true) ∧
        w.answered exec ctx instruction = some w' := by
  -- the callee starts with no return data, and cannot touch trace or clock
  have hdeliver : ∀ call, call = ⟨ctx.sysvar, ctx.stack, instruction⟩ →
      (deliver exec call onFailure { w with calls := call :: w.calls } = (.ok u, w') ↔
        w.answered exec ctx instruction = some w') := by
    rintro _ rfl
    unfold deliver World.answered
    change (match exec _ (w.called ctx instruction) with
      | none => _
      | some w₁ => _) = _ ↔ _
    cases exec ⟨ctx.sysvar, ctx.stack, instruction⟩ (w.called ctx instruction) with
    | none => simp
    | some w₁ => simp [World.called]
  simp only [invokeSigned, Exec.bind_ok, issue_ok_iff]
  constructor
  · rintro ⟨call, _, ⟨pdas, hpdas, hidle, hallowed, hcall, rfl⟩, hrun⟩
    exact ⟨pdas, hpdas, hidle, hallowed, (hdeliver call hcall).mp hrun⟩
  · rintro ⟨pdas, hpdas, hidle, hallowed, hanswered⟩
    exact ⟨_, _, ⟨pdas, hpdas, hidle, hallowed, rfl, rfl⟩, (hdeliver _ rfl).mpr hanswered⟩

/-- So for one that signs for nothing of its own. -/
theorem invoke_ok_iff {u : Unit} :
    invoke curve exec ctx instruction onFailure w = (.ok u, w') ↔
      (instruction.programId ∉ ctx.callers ∨ instruction.programId = ctx.programId) ∧
      (∀ account ∈ instruction.accounts, ctx.allows [] account = true) ∧
      ∃ w₁, exec ⟨ctx.sysvar, ctx.stack, instruction⟩ (w.called ctx instruction) = some w₁ ∧
        w' = { w₁ with calls := (w.called ctx instruction).calls, clock := w.clock } := by
  have hpdas : signerPdas curve ctx.programId [] = some [] := rfl
  rw [invoke, invokeSigned_ok_iff, hpdas]
  constructor
  · rintro ⟨pdas, hsome, hidle, hallowed, hanswered⟩
    obtain rfl := Option.some.inj hsome
    obtain ⟨w₁, hrun, rfl⟩ := Option.map_eq_some_iff.mp hanswered
    exact ⟨hidle, hallowed, w₁, hrun, rfl⟩
  · rintro ⟨hidle, hallowed, w₁, hrun, rfl⟩
    exact ⟨[], rfl, hidle, hallowed, Option.map_eq_some_iff.mpr ⟨w₁, hrun, rfl⟩⟩

/-- A completed call ran the callee on the accounts there were. -/
theorem invoke_accounts (h : invoke curve exec ctx instruction onFailure w = (.ok (), w')) :
    ∃ wᵢ w₁, wᵢ.accounts = w.accounts ∧
      exec ⟨ctx.sysvar, ctx.stack, instruction⟩ wᵢ = some w₁ ∧ w'.accounts = w₁.accounts := by
  obtain ⟨-, -, w₁, hrun, rfl⟩ := invoke_ok_iff.mp h
  exact ⟨w.called ctx instruction, w₁, rfl, hrun, rfl⟩

/-- On the calls `ctx` can make with the signatures `signed`, `exec` moves along `R`. -/
def Respects (R : World σ η → World σ η → Prop) (ctx : Context) (signed : Pubkey → Prop)
    (exec : Callee σ η) : Prop :=
  ∀ instruction w w', (∀ key ∈ Call.signers ⟨ctx.sysvar, ctx.stack, instruction⟩, signed key) →
    exec ⟨ctx.sysvar, ctx.stack, instruction⟩ w = some w' → R w w'

/-- A lawful callee respects any frame that has the signatures it can be given and
those of the programs it can still call. -/
theorem Lawful.respects {locked' signed' : Pubkey → Prop} (hexec : Lawful locked exec)
    (hlocked : ∀ key, locked' key → locked key) (hsigned : ∀ key, signed key → signed' key)
    (hbelow : ∀ key, SignedBelow ctx.stack key → signed' key) :
    Respects (Framed locked' signed') ctx signed exec := by
  intro instruction w w' hsigners hrun
  refine (hexec _ w w' hrun).mono hlocked fun key hkey => ?_
  rcases hkey with hcarried | hfurther
  · exact hsigned key (hsigners key hcarried)
  · exact hbelow key hfurther

/-- Whatever can have happened by benign steps and calls of `exec`: the least
benign relation that `exec` respects. -/
def Foreign (exec : Callee σ η) (ctx : Context) (signed : Pubkey → Prop) (w w' : World σ η) :
    Prop :=
  ∀ R : World σ η → World σ η → Prop, Benign R → Respects R ctx signed exec → R w w'

instance : Benign (Foreign exec ctx signed) where
  refl w R _ _ := refl_of R w
  trans _ _ _ h h' R hR hexec := trans_of R (h R hR hexec) (h' R hR hexec)
  settled haccounts hevents _ hR _ := hR.settled haccounts hevents
  created hvacant huntyped _ hR _ := hR.created hvacant huntyped

theorem Foreign.respects : Respects (Foreign exec ctx signed) ctx signed exec :=
  fun instruction w w' hsigners hrun _ _ hexec => hexec instruction w w' hsigners hrun

/-- A completed invocation moves along whatever the call it made moves along. -/
theorem invokeSigned_within {R : World σ η → World σ η → Prop} [hR : Quiet R]
    (hexec : ∀ w w', exec ⟨ctx.sysvar, ctx.stack, instruction⟩ w = some w' → R w w')
    (h : invokeSigned curve exec ctx instruction signerSeeds onFailure w = (.ok (), w')) :
    R w w' := by
  obtain ⟨_, w₁, -, -, hrun, rfl⟩ := invokeSigned_ok h
  have hissued : R w
      { w with
        calls := ⟨ctx.sysvar, ctx.stack, instruction⟩ :: w.calls
        returnData := (instruction.programId, []) } := hR.settled rfl rfl
  have hsettled : R w₁
      { w₁ with
        calls := ⟨ctx.sysvar, ctx.stack, instruction⟩ :: w.calls
        clock := w.clock } := hR.settled rfl rfl
  exact trans_of R hissued (trans_of R (hexec _ _ hrun) hsettled)

/-- A completed call changed what the signatures it carried allow. -/
theorem invokeSigned_framed (hexec : Lawful locked exec)
    (h : invokeSigned curve exec ctx instruction signerSeeds onFailure w = (.ok (), w')) :
    Framed locked (Call.Authorizes ⟨ctx.sysvar, ctx.stack, instruction⟩) w w' :=
  invokeSigned_within (hexec _) h

/-- Foreign code stays in the frame if its callee is lawful. -/
theorem Foreign.framed (h : Foreign exec ctx signed w w') (hexec : Lawful locked exec) :
    Framed locked (fun key => signed key ∨ SignedBelow ctx.stack key) w w' :=
  h _ Framed.benign (hexec.respects (fun _ => id) (fun _ => .inl) fun _ => .inr)

section Leaves

variable {R : World σ η → World σ η → Prop} [Quiet R]

theorem issue_leaves : Exec.Leaves R (issue curve ctx instruction signerSeeds) w := by
  refine Exec.Leaves.bind_ofOption fun pdas _ => ?_
  refine Exec.Leaves.bind_require fun _ => ?_
  refine Exec.Leaves.bind_require fun _ => ?_
  exact Exec.Leaves.bind (Quiet.settled rfl rfl) fun _ w₄ _ => Exec.leaves_pure _

/-- An invocation, completed or failed, moves along what its callee respects,
given that the program's own signatures and those it derives are among `signed`. -/
theorem invokeSigned_leaves (hexec : Respects R ctx signed exec)
    (hown : ∀ key, ctx.Signer key → signed key)
    (hderived : ∀ pdas key, signerPdas curve ctx.programId signerSeeds = some pdas →
      key ∈ pdas → signed key) :
    Exec.Leaves R (invokeSigned curve exec ctx instruction signerSeeds onFailure) w := by
  refine Exec.Leaves.bind issue_leaves fun call w₁ hissue => ?_
  obtain ⟨pdas, hpdas, hallowed, rfl, -⟩ := issue_ok hissue
  unfold Exec.Leaves deliver
  split
  · exact refl_of R _
  · rename_i w₂ hrun
    have hsigners : ∀ key ∈ Call.signers ⟨ctx.sysvar, ctx.stack, instruction⟩, signed key := by
      intro key hkey
      rcases signers_of_allows hallowed hkey with hpda | hsigner
      · exact hderived pdas key hpdas hpda
      · exact hown key hsigner
    have hcleared : R w₁ { w₁ with returnData := (instruction.programId, []) } :=
      Quiet.settled rfl rfl
    have hcalled := hexec instruction _ _ hsigners hrun
    have hrestored : R w₂ { w₂ with calls := w₁.calls, clock := w₁.clock } :=
      Quiet.settled rfl rfl
    exact trans_of R hcleared (trans_of R hcalled hrestored)

theorem invoke_leaves (hexec : Respects R ctx signed exec)
    (hown : ∀ key, ctx.Signer key → signed key) :
    Exec.Leaves R (invoke curve exec ctx instruction onFailure) w := by
  refine invokeSigned_leaves hexec hown fun pdas key hpdas hmem => ?_
  obtain rfl : pdas = [] := by simpa [signerPdas] using hpdas.symm
  simp at hmem

theorem setReturnData_leaves {data : Bytes} : Exec.Leaves R (setReturnData ctx data) w :=
  Quiet.settled rfl rfl

theorem emit_leaves {R : World σ η → World σ η → Prop} [Writes ctx.programId R] {event : η} :
    Exec.Leaves R (emit ctx event) w :=
  Writes.emitted w event

end Leaves

/-! ### What a program did as a whole -/

/-- Between two worlds lie only steps the program may make by itself and calls of
`exec` with signatures among `signed`, and every call it issued satisfies `P`. -/
structure Traced (exec : Callee σ η) (ctx : Context) (signed : Pubkey → Prop) (P : Call → Prop)
    (w w' : World σ η) : Prop where
  within : ∀ R : World σ η → World σ η → Prop, Permits ctx.programId R →
    Respects R ctx signed exec → R w w'
  recorded : ∀ call ∈ w'.calls, call ∈ w.calls ∨ P call

section Traced

variable {P : Call → Prop}

instance : Std.Refl (Traced exec ctx signed P) where
  refl w := ⟨fun R _ _ => refl_of R w, fun _ => .inl⟩

instance : IsTrans (World σ η) (Traced exec ctx signed P) where
  trans _ _ _ h h' :=
    { within := fun R hR hexec => trans_of R (h.within R hR hexec) (h'.within R hR hexec)
      recorded := fun call hcall => (h'.recorded call hcall).elim (h.recorded call) .inr }

theorem issue_traced
    (hcall : ∀ pdas, signerPdas curve ctx.programId signerSeeds = some pdas →
      (∀ account ∈ instruction.accounts, ctx.allows pdas account = true) →
      P ⟨ctx.sysvar, ctx.stack, instruction⟩) :
    Exec.Leaves (Traced exec ctx signed P) (issue curve ctx instruction signerSeeds) w := by
  refine Exec.Leaves.bind_ofOption fun pdas hpdas => ?_
  refine Exec.Leaves.bind_require fun _ => ?_
  refine Exec.Leaves.bind_require fun hallowed => ?_
  refine Exec.Leaves.bind ⟨fun R hR _ => hR.settled rfl rfl, fun call hmem => ?_⟩ fun _ w₄ _ =>
    Exec.leaves_pure _
  have hissued := hcall pdas hpdas
    (List.all_eq_true.mp hallowed)
  rcases List.mem_cons.mp hmem with rfl | hearlier
  · exact .inr hissued
  · exact .inl hearlier

theorem deliver_traced {call : Call}
    (hrespects : ∀ R : World σ η → World σ η → Prop, Respects R ctx signed exec →
      ∀ w w', exec call w = some w' → R w w') :
    Exec.Leaves (Traced exec ctx signed P) (deliver exec call onFailure) w := by
  unfold Exec.Leaves deliver
  split
  · exact refl_of _ w
  · rename_i w₁ hrun
    refine ⟨fun R hR hexec => ?_, fun _ => .inl⟩
    have hcleared : R w { w with returnData := (call.instruction.programId, []) } :=
      hR.settled rfl rfl
    have hcalled := hrespects R hexec _ _ hrun
    have hrestored : R w₁ { w₁ with calls := w.calls, clock := w.clock } := hR.settled rfl rfl
    exact trans_of R hcleared (trans_of R hcalled hrestored)

theorem invokeSigned_traced
    (hown : ∀ key, ctx.Signer key → signed key)
    (hderived : ∀ pdas key, signerPdas curve ctx.programId signerSeeds = some pdas →
      key ∈ pdas → signed key)
    (hcall : ∀ pdas, signerPdas curve ctx.programId signerSeeds = some pdas →
      (∀ account ∈ instruction.accounts, ctx.allows pdas account = true) →
      P ⟨ctx.sysvar, ctx.stack, instruction⟩) :
    Exec.Leaves (Traced exec ctx signed P)
      (invokeSigned curve exec ctx instruction signerSeeds onFailure) w := by
  refine Exec.Leaves.bind (issue_traced hcall) fun call w₁ hissue => ?_
  obtain ⟨pdas, hpdas, hallowed, rfl, -⟩ := issue_ok hissue
  refine deliver_traced fun R hexec w₂ w₃ hrun => hexec instruction w₂ w₃ (fun key hkey => ?_) hrun
  rcases signers_of_allows hallowed hkey with hpda | hsigner
  · exact hderived pdas key hpdas hpda
  · exact hown key hsigner

theorem invoke_traced (hown : ∀ key, ctx.Signer key → signed key)
    (hcall : P ⟨ctx.sysvar, ctx.stack, instruction⟩) :
    Exec.Leaves (Traced exec ctx signed P) (invoke curve exec ctx instruction onFailure) w := by
  refine invokeSigned_traced hown (fun pdas key hpdas hmem => ?_) fun _ _ _ => hcall
  obtain rfl : pdas = [] := by simpa [signerPdas] using hpdas.symm
  simp at hmem

theorem emit_traced {event : η} : Exec.Leaves (Traced exec ctx signed P) (emit ctx event) w :=
  ⟨fun _ hR _ => hR.emitted w event, fun _ => .inl⟩

theorem setReturnData_traced {data : Bytes} :
    Exec.Leaves (Traced exec ctx signed P) (setReturnData ctx data) w :=
  ⟨fun _ hR _ => hR.settled rfl rfl, fun _ => .inl⟩

end Traced

end Rules

end Invoke

/-! ### The instructions sysvar -/

/-- `load_current_index_checked`. -/
def loadCurrentIndexChecked (ctx : Context) (info : AccountInfo) : Except Error Nat := do
  check (info.key = sysvarInstructionsId) .unsupportedSysvar
  pure ctx.sysvar.currentIndex

/-- `load_instruction_at_checked`, of which only the program id is used. -/
def loadInstructionAtChecked (ctx : Context) (index : Nat) (info : AccountInfo) :
    Except Error Pubkey := do
  check (info.key = sysvarInstructionsId) .unsupportedSysvar
  match ctx.sysvar.programIds[index]? with
  | some programId => pure programId
  | none => throw .invalidArgument

end Solana

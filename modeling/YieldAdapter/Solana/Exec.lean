import Mathlib.Data.List.Basic
import Mathlib.Order.Defs.Unbundled

/-!
# Programs that may fail

An `Exec` computation runs on a state and returns a value or an error; the state
it reached is kept in both cases, so that what a failing instruction attempted
can still be spoken about. Rolling a failure back is left to whoever runs the
instruction.

Three ways of reasoning are provided. Inversion lemmas split a successful run of a
`do` block into the runs of its parts. `Exec.Leaves` relates the first and the
last state of a run that may also have failed, by a transitive relation.
`Exec.Follows` carries the success of one run over to another, side by side.
-/

set_option autoImplicit false

namespace Solana

/-- Failures raised by Anchor's generated account checks. -/
inductive AnchorError where
  | instructionFallbackNotFound
  | instructionDidNotDeserialize
  | eventInstructionStub
  | constraintMut
  | constraintRaw
  | constraintExecutable
  | constraintSeeds
  | constraintTokenMint
  | constraintTokenOwner
  | constraintAddress
  | accountDiscriminatorMismatch
  | accountNotEnoughKeys
  | accountOwnedByWrongProgram
  | invalidProgramId
  | invalidProgramExecutable
  | accountNotSigner
  | accountNotInitialized
  deriving DecidableEq, Repr

/-- Failures of an instruction: a check of Anchor's, a program's own numbered
error, or one the runtime raises. -/
inductive Error where
  | anchor (error : AnchorError)
  | custom (code : Nat)
  | accountAlreadyInUse
  | maxSeedLengthExceeded
  | unsupportedSysvar
  | invalidArgument
  | privilegeEscalation
  | reentrancyNotAllowed
  | externalAccountDataModified
  | calleeFailed
  deriving DecidableEq, Repr

/-- A computation on `ω` that returns a value or fails, keeping the state it reached. -/
def Exec (ω α : Type) : Type := ω → Except Error α × ω

namespace Exec

variable {ω α β : Type}

instance : Monad (Exec ω) where
  pure a := fun w => (.ok a, w)
  bind x f := fun w =>
    match x w with
    | (.ok a, w') => f a w'
    | (.error e, w') => (.error e, w')

/-- The current state. -/
def read : Exec ω ω := fun w => (.ok w, w)

/-- Change the state. -/
def modify (f : ω → ω) : Exec ω Unit := fun w => (.ok (), f w)

/-- Raise an error. -/
def fail (e : Error) : Exec ω α := fun w => (.error e, w)

/-- Use the outcome of a computation that does not touch the state. -/
def ofExcept (result : Except Error α) : Exec ω α := fun w => (result, w)

/-- Use an optional value, failing with `e` when there is none. -/
def ofOption (value : Option α) (e : Error) : Exec ω α := ofExcept (value.elim (.error e) .ok)

/-- Continue only if `p` holds. -/
def require (p : Prop) [Decidable p] (e : Error) : Exec ω Unit :=
  ofExcept (if p then .ok () else .error e)

/-! ### Splitting a successful run -/

section Success

variable {x : Exec ω α} {f : α → Exec ω β} {a a' : α} {b : β} {w w' w'' : ω}
variable {e : Error} {p : Prop} [Decidable p]

theorem bind_ok :
    (x >>= f) w = (.ok b, w'') ↔ ∃ a w', x w = (.ok a, w') ∧ f a w' = (.ok b, w'') := by
  change (match x w with
    | (.ok a, w') => f a w'
    | (.error e, w') => (.error e, w')) = _ ↔ _
  rcases x w with ⟨_ | a, w'⟩ <;> simp

@[simp] theorem pure_ok : (pure a : Exec ω α) w = (.ok a', w') ↔ a' = a ∧ w' = w := by
  change (Except.ok a, w) = _ ↔ _
  simp [eq_comm]

@[simp] theorem read_ok {v : ω} : (read : Exec ω ω) w = (.ok v, w') ↔ v = w ∧ w' = w := by
  simp [read, eq_comm]

@[simp] theorem modify_ok {f : ω → ω} {u : Unit} : modify f w = (.ok u, w') ↔ w' = f w := by
  simp [modify, eq_comm]

@[simp] theorem fail_ok : ¬ (fail e : Exec ω α) w = (.ok a, w') := by
  simp [fail]

@[simp] theorem ofExcept_ok {result : Except Error α} :
    (ofExcept result : Exec ω α) w = (.ok a, w') ↔ result = .ok a ∧ w' = w := by
  simp [ofExcept, eq_comm]

/-- A computation that starts from a known result is the rest of it. -/
theorem ofExcept_bind {result : Except Error α} (h : result = .ok a) (f : α → Exec ω β) :
    (ofExcept result >>= f) = f a := by
  funext w
  rw [h]
  rfl

theorem run_of_ofExcept {result : Except Error α} (hresult : result = .ok a)
    (h : (ofExcept result >>= f) w = (.ok b, w')) : f a w = (.ok b, w') := by
  rw [ofExcept_bind hresult] at h
  exact h

@[simp] theorem ofOption_ok {value : Option α} :
    (ofOption value e : Exec ω α) w = (.ok a, w') ↔ value = some a ∧ w' = w := by
  cases value <;> simp [ofOption]

@[simp] theorem require_ok {u : Unit} :
    (require p e : Exec ω Unit) w = (.ok u, w') ↔ p ∧ w' = w := by
  by_cases hp : p <;> simp [require, hp]

end Success

/-! ### Runs that may fail -/

/-- The state left by `x`, whether it returned or failed, stands in `R` to the
state it started in. -/
def Leaves (R : ω → ω → Prop) (x : Exec ω α) (w : ω) : Prop := R w (x w).2

section Leaves

variable {R : ω → ω → Prop} {x : Exec ω α} {f : α → Exec ω β} {w : ω}

/-- The relation needs checking on each part only in the states that reach it. -/
theorem Leaves.bind [IsTrans ω R] (hx : Leaves R x w)
    (hf : ∀ a w', x w = (.ok a, w') → Leaves R (f a) w') : Leaves R (x >>= f) w := by
  unfold Leaves at *
  change R w (match x w with
    | (.ok a, w') => f a w'
    | (.error e, w') => (.error e, w')).2
  rcases hrun : x w with ⟨e | a, w'⟩
  · simpa [hrun] using hx
  · rw [hrun] at hx
    exact trans_of R hx (hf a w' hrun)

/-- What a run leaves is known of a run that returned. -/
theorem Leaves.of_ok {a : α} {w' : ω} (h : Leaves R x w) (hrun : x w = (.ok a, w')) : R w w' := by
  simpa [Leaves, hrun] using h

theorem leaves_pure [Std.Refl R] (a : α) : Leaves R (pure a) w := refl_of R w

theorem leaves_ofExcept [Std.Refl R] (result : Except Error α) :
    Leaves R (ofExcept result) w := refl_of R w

theorem leaves_ofOption [Std.Refl R] (value : Option α) (e : Error) :
    Leaves R (ofOption value e) w := refl_of R w

/-! The parts that do not touch the state leave it where it was, so the rest is checked there. -/

theorem Leaves.bind_read {f : ω → Exec ω β} (hf : Leaves R (f w) w) : Leaves R (read >>= f) w := hf

theorem Leaves.bind_ofExcept [Std.Refl R] {result : Except Error α}
    (hf : ∀ a, result = .ok a → Leaves R (f a) w) : Leaves R (ofExcept result >>= f) w := by
  cases result with
  | error e => exact refl_of R w
  | ok a => exact hf a rfl

theorem Leaves.of_ofExcept {result : Except Error α} {a : α} (hresult : result = .ok a)
    (hf : Leaves R (f a) w) : Leaves R (ofExcept result >>= f) w := by
  rw [ofExcept_bind hresult]
  exact hf

theorem Leaves.bind_ofOption [Std.Refl R] {value : Option α} {e : Error}
    (hf : ∀ a, value = some a → Leaves R (f a) w) : Leaves R (ofOption value e >>= f) w := by
  cases value with
  | none => exact refl_of R w
  | some a => exact hf a rfl

theorem Leaves.bind_require [Std.Refl R] {p : Prop} [Decidable p] {e : Error}
    {f : Unit → Exec ω β} (hf : p → Leaves R (f ()) w) : Leaves R (require p e >>= f) w := by
  unfold require
  refine Leaves.bind_ofExcept fun _ hresult => ?_
  by_cases hp : p
  · exact hf hp
  · rw [if_neg hp] at hresult
    cases hresult

end Leaves

/-! ### Two runs side by side -/

/-- If `x` returns on `w` then `y` returns on `v`, with values related by `Q` and states
by `R`. -/
def Follows (R : ω → ω → Prop) (Q : α → β → Prop) (x : Exec ω α) (y : Exec ω β) (w v : ω) :
    Prop :=
  ∀ a w', x w = (.ok a, w') → ∃ b v', y v = (.ok b, v') ∧ Q a b ∧ R w' v'

section Follows

variable {α' β' : Type} {R : ω → ω → Prop} {Q : α → α' → Prop} {w v : ω}

theorem Follows.bind {P : β → β' → Prop} {x : Exec ω α} {y : Exec ω α'} {f : α → Exec ω β}
    {g : α' → Exec ω β'} (hx : Follows R Q x y w v)
    (hf : ∀ a b w' v', Q a b → R w' v' → Follows R P (f a) (g b) w' v') :
    Follows R P (x >>= f) (y >>= g) w v := by
  intro b w'' hrun
  obtain ⟨a, w', hfirst, hrest⟩ := bind_ok.mp hrun
  obtain ⟨a', v', hfirst', hQ, hR⟩ := hx a w' hfirst
  obtain ⟨b', v'', hrest', hP, hR'⟩ := hf a a' w' v' hQ hR b w'' hrest
  exact ⟨b', v'', bind_ok.mpr ⟨a', v', hfirst', hrest'⟩, hP, hR'⟩

/-- Reading first, both sides go on with the state they are in. -/
theorem Follows.read_bind {P : β → β' → Prop} {f : ω → Exec ω β} {g : ω → Exec ω β'}
    (h : Follows R P (f w) (g v) w v) : Follows R P (read >>= f) (read >>= g) w v := by
  intro b w' hrun
  obtain ⟨_, _, hread, hrest⟩ := bind_ok.mp hrun
  obtain ⟨rfl, rfl⟩ := read_ok.mp hread
  obtain ⟨b', v', hrest', hP, hR⟩ := h b w' hrest
  exact ⟨b', v', bind_ok.mpr ⟨v, v, rfl, hrest'⟩, hP, hR⟩

/-- A check first, the rest is compared for what it returned. -/
theorem Follows.ofExcept_bind {P : β → β' → Prop} {x : Except Error α} {y : Except Error α'}
    {f : α → Exec ω β} {g : α' → Exec ω β'}
    (h : ∀ a, x = .ok a → ∃ b, y = .ok b ∧ Follows R P (f a) (g b) w v) :
    Follows R P (ofExcept x >>= f) (ofExcept y >>= g) w v := by
  intro b w' hrun
  obtain ⟨a, _, hcheck, hrest⟩ := bind_ok.mp hrun
  obtain ⟨hx, rfl⟩ := ofExcept_ok.mp hcheck
  obtain ⟨a', hy, hfollows⟩ := h a hx
  obtain ⟨b', v', hrest', hP, hR⟩ := hfollows b w' hrest
  exact ⟨b', v', bind_ok.mpr ⟨a', v, ofExcept_ok.mpr ⟨hy, rfl⟩, hrest'⟩, hP, hR⟩

theorem follows_pure {a : α} {a' : α'} (hQ : Q a a') (hR : R w v) :
    Follows R Q (pure a) (pure a') w v := by
  intro b w' hrun
  obtain ⟨rfl, rfl⟩ := pure_ok.mp hrun
  exact ⟨a', v, rfl, hQ, hR⟩

theorem follows_read (hR : R w v) : Follows R R read read w v := by
  intro b w' hrun
  obtain ⟨rfl, rfl⟩ := read_ok.mp hrun
  exact ⟨v, v, rfl, hR, hR⟩

theorem follows_ofExcept {x : Except Error α} {y : Except Error α'}
    (h : ∀ a, x = .ok a → ∃ b, y = .ok b ∧ Q a b) (hR : R w v) :
    Follows R Q (ofExcept x) (ofExcept y) w v := by
  intro a w' hrun
  obtain ⟨hx, rfl⟩ := ofExcept_ok.mp hrun
  obtain ⟨b, hy, hQ⟩ := h a hx
  exact ⟨b, v, ofExcept_ok.mpr ⟨hy, rfl⟩, hQ, hR⟩

theorem follows_ofOption {value : Option α} {e : Error} (hR : R w v) :
    Follows R Eq (ofOption value e) (ofOption value e) w v := by
  intro a w' hrun
  obtain ⟨hvalue, rfl⟩ := ofOption_ok.mp hrun
  exact ⟨a, v, ofOption_ok.mpr ⟨hvalue, rfl⟩, rfl, hR⟩

theorem follows_require {p q : Prop} [Decidable p] [Decidable q] {e : Error} (h : p → q)
    (hR : R w v) : Follows R Eq (require p e) (require q e) w v := by
  intro a w' hrun
  obtain ⟨hp, rfl⟩ := require_ok.mp hrun
  exact ⟨a, v, require_ok.mpr ⟨h hp, rfl⟩, rfl, hR⟩

theorem follows_modify {f g : ω → ω} (hR : R (f w) (g v)) :
    Follows R Eq (modify f) (modify g) w v := by
  intro a w' hrun
  obtain rfl := modify_ok.mp hrun
  exact ⟨a, g v, rfl, rfl, hR⟩

end Follows

/-! ### Errors that cannot occur -/

/-- Run on `w`, `x` does not fail with `e`. -/
def Avoids (e : Error) (x : Exec ω α) (w : ω) : Prop := (x w).1 ≠ .error e

section Avoids

variable {e e' : Error} {x : Exec ω α} {f : α → Exec ω β} {w : ω}

/-- The rest needs checking only in the states that reach it. -/
theorem Avoids.bind (hx : Avoids e x w) (hf : ∀ a w', x w = (.ok a, w') → Avoids e (f a) w') :
    Avoids e (x >>= f) w := by
  unfold Avoids at *
  change (match x w with
    | (.ok a, w') => f a w'
    | (.error e, w') => (.error e, w')).1 ≠ .error e
  rcases hrun : x w with ⟨raised | a, w'⟩
  · rw [hrun] at hx
    exact fun h => hx (congrArg Except.error (Except.error.inj h))
  · exact hf a w' hrun

theorem avoids_pure (a : α) : Avoids e (pure a : Exec ω α) w := fun h => nomatch h

theorem avoids_read : Avoids e (read : Exec ω ω) w := fun h => nomatch h

theorem avoids_modify (f : ω → ω) : Avoids e (modify f) w := fun h => nomatch h

theorem avoids_ofExcept {result : Except Error α} (h : result ≠ .error e) :
    Avoids e (ofExcept result : Exec ω α) w := h

theorem avoids_require (p : Prop) [Decidable p] (hne : e' ≠ e) :
    Avoids e (require p e' : Exec ω Unit) w := by
  unfold Avoids require ofExcept
  split_ifs
  · exact fun h => nomatch h
  · exact fun h => hne (Except.error.inj h)

theorem avoids_ofOption (value : Option α) (hne : e' ≠ e) :
    Avoids e (ofOption value e' : Exec ω α) w := by
  cases value with
  | none => exact fun h => hne (Except.error.inj h)
  | some a => exact fun h => nomatch h

end Avoids

end Exec

/-- A successful `Except` block splits into its successful parts. -/
theorem except_bind_ok {ε α β : Type} {x : Except ε α} {f : α → Except ε β} {b : β} :
    (x >>= f) = .ok b ↔ ∃ a, x = .ok a ∧ f a = .ok b := by
  cases x <;> simp [bind, Except.bind]

/-! What is asked of the result of a computation that may fail can be decided. -/

instance decidableExistsOk {ε α : Type} (x : Except ε α) (P : α → Prop) [DecidablePred P] :
    Decidable (∃ a, x = .ok a ∧ P a) :=
  match x with
  | .error _ => .isFalse fun ⟨_, h, _⟩ => nomatch h
  | .ok a => decidable_of_iff (P a) (by simp)

instance decidableForallOk {ε α : Type} (x : Except ε α) (P : α → Prop) [DecidablePred P] :
    Decidable (∀ a, x = .ok a → P a) :=
  match x with
  | .error _ => .isTrue fun _ h => nomatch h
  | .ok a => decidable_of_iff (P a) (by simp)

/-- `require` for computations without a state. -/
def check (p : Prop) [Decidable p] (e : Error) : Except Error Unit :=
  if p then .ok () else .error e

@[simp] theorem check_ok {p : Prop} [Decidable p] {e : Error} {u : Unit} :
    check p e = .ok u ↔ p := by
  by_cases hp : p <;> simp [check, hp]

theorem check_ne {p : Prop} [Decidable p] {e e' : Error} (hne : e' ≠ e) :
    check p e' ≠ .error e := by
  unfold check
  split_ifs
  · exact fun h => nomatch h
  · exact fun h => hne (Except.error.inj h)

/-- A block of checks raises no error that none of its checks raises. -/
theorem except_bind_ne {ε α β : Type} {x : Except ε α} {f : α → Except ε β} {e : ε}
    (hx : x ≠ .error e) (hf : ∀ a, f a ≠ .error e) : (x >>= f) ≠ .error e := by
  cases x with
  | error raised => exact fun h => hx (congrArg Except.error (Except.error.inj h))
  | ok a => exact hf a

theorem check_of {p : Prop} [Decidable p] {e : Error} (h : p) : check p e = .ok () := if_pos h

theorem check_of_not {p : Prop} [Decidable p] {e : Error} (h : ¬ p) : check p e = .error e :=
  if_neg h

@[simp] theorem except_ok_bind {ε α β : Type} (a : α) (f : α → Except ε β) :
    (Except.ok a >>= f) = f a := rfl

end Solana

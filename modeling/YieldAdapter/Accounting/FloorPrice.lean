import Mathlib.Data.Nat.ModEq
import Mathlib.Algebra.BigOperators.Group.List.Basic
import Mathlib.Algebra.Order.Floor.Div
import Mathlib.GroupTheory.GroupAction.Ring
import Mathlib.Tactic.Ring
import Mathlib.Tactic.Positivity

/-!
# Prices rounded down

A price that is computed in whole numbers rounds every division down. Such a price
never pays for cutting a holding into pieces: it is superadditive, and
superadditive prices are closed under the stages they are built from. Beside that
stand the estimates for the rounding itself, for a price with one division, for one
applied in two stages, and for one whose operands lose their low digits first.
-/

set_option autoImplicit false

namespace Accounting

/-! ### Superadditive prices -/

/-- The parts of a holding are worth no more than the whole. -/
def Superadditive (f : Nat → Nat) : Prop := ∀ a b, f a + f b ≤ f (a + b)

namespace Superadditive

variable {f g : Nat → Nat}

theorem monotone (h : Superadditive f) : Monotone f := by
  intro a b hab
  obtain ⟨c, rfl⟩ := Nat.exists_eq_add_of_le hab
  have hparts := h a c
  omega

theorem comp (hg : Superadditive g) (hf : Superadditive f) : Superadditive fun a => g (f a) := by
  intro a b
  calc
    g (f a) + g (f b) ≤ g (f a + f b) := hg _ _
    _ ≤ g (f (a + b)) := hg.monotone (hf a b)

theorem mul_const (k : Nat) : Superadditive fun a => a * k :=
  fun a b => (Nat.add_mul a b k).ge

theorem div_const (k : Nat) : Superadditive fun a => a / k :=
  fun a b => @Nat.div_add_div_le_add_div a b k

theorem proRata (k c : Nat) : Superadditive fun a => a * k / c :=
  (div_const c).comp (mul_const k)

/-- Any number of pieces is worth no more than the whole. -/
theorem sum_map_le (h : Superadditive f) (pieces : List Nat) :
    (pieces.map f).sum ≤ f pieces.sum := by
  induction pieces with
  | nil => simp
  | cons a rest ih =>
    have hparts := h a rest.sum
    rw [List.map_cons, List.sum_cons, List.sum_cons]
    omega

end Superadditive

/-- One rounded division loses at most one unit to a split in two. -/
theorem proRata_add_le (a b k c : Nat) : (a + b) * k / c ≤ a * k / c + b * k / c + 1 := by
  rw [Nat.add_mul]
  exact Nat.add_div_le_div_add_div_add_one _ _ _

/-! ### Prices that can fail -/

section Quoted

variable {α ε : Type} {holds : α → Nat → Prop} {price : α → Except ε UInt64}

/-- `price` values a holding of quantity `a` at `f a`, and does so as long as the
quantity `fits`. -/
structure Quoted (holds : α → Nat → Prop) (price : α → Except ε UInt64) (fits : Nat → Prop)
    (f : Nat → Nat) : Prop where
  quote : ∀ {s a v}, holds s a → (price s = .ok v ↔ fits a ∧ v.toNat = f a)
  fits_of_le : ∀ {a b}, a ≤ b → fits b → fits a
  superadditive : Superadditive f

/-- No part of a priced holding is out of range. -/
theorem Quoted.of_le {fits : Nat → Prop} {f : Nat → Nat} (h : Quoted holds price fits f)
    {s t : α} {a b : Nat} {v : UInt64} (hs : holds s a) (ht : holds t b) (hle : a ≤ b)
    (hprice : price t = .ok v) : ∃ x, price s = .ok x ∧ x.toNat = f a ∧ x ≤ v := by
  obtain ⟨hfits, hv⟩ := (h.quote ht).mp hprice
  have hmono := h.superadditive.monotone hle
  have hlt : f a < UInt64.size := by
    have := v.toNat_lt
    simp only [UInt64.size]
    omega
  refine ⟨UInt64.ofNat (f a), (h.quote hs).mpr ⟨h.fits_of_le hle hfits, ?_⟩, ?_, ?_⟩
  · exact UInt64.toNat_ofNat_of_lt' hlt
  · exact UInt64.toNat_ofNat_of_lt' hlt
  · rw [UInt64.le_iff_toNat_le, UInt64.toNat_ofNat_of_lt' hlt]
    omega

/-- What a price must satisfy not to reward a split: of a priced holding every part is
priced, at no more than the whole, and however many parts it is cut into, together they
are worth no more than the whole. -/
structure SplitProof (holds : α → Nat → Prop) (price : α → Except ε UInt64) : Prop where
  monotone : ∀ {part whole a b v}, holds part a → holds whole b → a ≤ b →
    price whole = .ok v → ∃ x, price part = .ok x ∧ x ≤ v
  halves : ∀ {whole left right a b v}, holds whole (a + b) → holds left a → holds right b →
    price whole = .ok v →
    ∃ x y, price left = .ok x ∧ price right = .ok y ∧ x ≤ v ∧ y ≤ v ∧
      x.toNat + y.toNat ≤ v.toNat
  pieces : ∀ {whole pieces quantities v}, holds whole (List.sum quantities) →
    List.Forall₂ holds pieces quantities → price whole = .ok v →
    ∃ values, List.Forall₂ (fun piece x => price piece = .ok x) pieces values ∧
      (values.map UInt64.toNat).sum ≤ v.toNat

/-- A split in two loses at most one unit. -/
def LosesUnit (holds : α → Nat → Prop) (price : α → Except ε UInt64) : Prop :=
  ∀ {whole left right a b v x y}, holds whole (a + b) → holds left a → holds right b →
    price whole = .ok v → price left = .ok x → price right = .ok y →
    v.toNat ≤ x.toNat + y.toNat + 1

variable {fits : Nat → Prop} {f : Nat → Nat}

theorem Quoted.splitProof (h : Quoted holds price fits f) : SplitProof holds price where
  monotone := by
    intro part whole a b v hpart hwhole hle hprice
    obtain ⟨x, hx, -, hxle⟩ := h.of_le hpart hwhole hle hprice
    exact ⟨x, hx, hxle⟩
  halves := by
    intro whole left right a b v hwhole hleft hright hprice
    obtain ⟨x, hx, hxval, hxle⟩ := h.of_le hleft hwhole (Nat.le_add_right a b) hprice
    obtain ⟨y, hy, hyval, hyle⟩ := h.of_le hright hwhole (Nat.le_add_left b a) hprice
    obtain ⟨-, hv⟩ := (h.quote hwhole).mp hprice
    have hparts := h.superadditive a b
    exact ⟨x, y, hx, hy, hxle, hyle, by omega⟩
  pieces := by
    intro whole pieces quantities v hwhole hpieces hprice
    obtain ⟨-, hv⟩ := (h.quote hwhole).mp hprice
    -- every piece is at most the whole, so each is priced by `f`
    have hvalues : ∀ {pieces : List α} {qs : List Nat}, List.Forall₂ holds pieces qs →
        qs.sum ≤ quantities.sum → ∃ values,
          List.Forall₂ (fun piece x => price piece = .ok x) pieces values ∧
          values.map UInt64.toNat = qs.map f := by
      intro pieces qs hpieces
      induction hpieces with
      | nil => exact fun _ => ⟨[], .nil, rfl⟩
      | @cons piece a pieces qs hpiece _ ih =>
        intro hsum
        rw [List.sum_cons] at hsum
        obtain ⟨values, hpriced, hmap⟩ := ih (by omega)
        obtain ⟨x, hx, hxval, -⟩ := h.of_le hpiece hwhole (by omega) hprice
        exact ⟨x :: values, .cons hx hpriced, by rw [List.map_cons, List.map_cons, hxval, hmap]⟩
    obtain ⟨values, hpriced, hmap⟩ := hvalues hpieces le_rfl
    have hsum := h.superadditive.sum_map_le quantities
    exact ⟨values, hpriced, by rw [hmap]; omega⟩

theorem Quoted.losesUnit {k c : Nat} (h : Quoted holds price fits fun a => a * k / c) :
    LosesUnit holds price := by
  intro whole left right a b v x y hwhole hleft hright hprice hx hy
  have hv := ((h.quote hwhole).mp hprice).2
  have hxval := ((h.quote hleft).mp hx).2
  have hyval := ((h.quote hright).mp hy).2
  have hloss := proRata_add_le a b k c
  omega

end Quoted

/-! ### Width of a quotient -/

/-- A product that outgrows `m * n` has a quotient of at least `n` by anything up to `m`. -/
theorem le_div_of_wide {p c m n : Nat} (hc : 0 < c) (hcm : c ≤ m) (hwide : m * n ≤ p) :
    n ≤ p / c := by
  rw [Nat.le_div_iff_mul_le hc]
  calc
    n * c ≤ n * m := Nat.mul_le_mul_left n hcm
    _ = m * n := Nat.mul_comm n m
    _ ≤ p := hwide

/-! ### Two stages -/

section Staged

variable {b p m : Nat}

/-- Multiplying by `p / m` twice, rounding down both times. -/
def staged (p m b : Nat) : Nat := b * p / m * p / m

theorem superadditive_staged (p m : Nat) : Superadditive (staged p m) :=
  (Superadditive.proRata p m).comp (Superadditive.proRata p m)

/-- The first stage, scaled up again, is no more than the exact product. -/
theorem stage_mul_le (b p m : Nat) : b * p / m * p * m ≤ b * p * p := by
  have hfloor := Nat.div_mul_le_self (b * p) m
  calc
    b * p / m * p * m = b * p / m * m * p := by ring
    _ ≤ b * p * p := Nat.mul_le_mul_right p hfloor

/-- Rounding after each stage does not gain on rounding once. -/
theorem staged_le (hm : 0 < m) : staged p m b ≤ b * p * p / (m * m) := by
  unfold staged
  rw [Nat.le_div_iff_mul_le (Nat.mul_pos hm hm)]
  have hlast := Nat.div_mul_le_self (b * p / m * p) m
  calc
    b * p / m * p / m * (m * m) = b * p / m * p / m * m * m := by ring
    _ ≤ b * p / m * p * m := Nat.mul_le_mul_right m hlast
    _ ≤ b * p * p := stage_mul_le b p m

/-- What the first rounding takes away is multiplied by the price once more. -/
theorem le_staged_add (hm : 0 < m) : b * p * p / (m * m) ≤ staged p m b + p ⌈/⌉ m := by
  have hceil : p ≤ m * (p ⌈/⌉ m) := by
    simpa using le_smul_ceilDiv hm (b := p)
  generalize p ⌈/⌉ m = c at hceil ⊢
  unfold staged
  have hfirst := Nat.div_add_mod (b * p) m
  have hr := Nat.mod_lt (b * p) hm
  generalize b * p / m = q at hfirst ⊢
  generalize b * p % m = r at hfirst hr
  have hlast := Nat.div_add_mod (q * p) m
  have ht := Nat.mod_lt (q * p) hm
  generalize q * p / m = v at hlast ⊢
  generalize q * p % m = t at hlast ht
  -- both remainders together stay below one unit and `c` more
  have hrp : r * p ≤ m * (m * c) := Nat.mul_le_mul hr.le hceil
  have htm : m * t < m * m := Nat.mul_lt_mul_of_pos_left ht hm
  have hexact : b * p * p = m * m * v + m * t + r * p := by
    rw [← hfirst, Nat.add_mul, Nat.mul_assoc m q p, ← hlast]
    ring
  rw [← Nat.lt_succ_iff, Nat.div_lt_iff_lt_mul (Nat.mul_pos hm hm), hexact]
  calc
    m * m * v + m * t + r * p < m * m * v + m * m + m * (m * c) := by omega
    _ = (v + c).succ * (m * m) := by
      rw [Nat.succ_eq_add_one]
      ring

/-- A first product too wide for `m * m` has an exact price too wide for `m`. -/
theorem le_exact_of_wide_first (hb : b < m) (hwide : m * m ≤ b * p) :
    m ≤ b * p * p / (m * m) := by
  have hm : 0 < m := by omega
  have hp : m ≤ p := by
    by_contra hsmall
    have hlt : b * p < m * m := Nat.mul_lt_mul'' hb (not_le.mp hsmall)
    omega
  rw [Nat.le_div_iff_mul_le (Nat.mul_pos hm hm)]
  calc
    m * (m * m) = m * m * m := Nat.mul_comm ..
    _ ≤ b * p * p := Nat.mul_le_mul hwide hp

/-- So has a second product too wide for it. -/
theorem le_exact_of_wide_second (hm : 0 < m) (hwide : m * m ≤ b * p / m * p) :
    m ≤ b * p * p / (m * m) := by
  rw [Nat.le_div_iff_mul_le (Nat.mul_pos hm hm)]
  calc
    m * (m * m) = m * m * m := Nat.mul_comm ..
    _ ≤ b * p / m * p * m := Nat.mul_le_mul_right m hwide
    _ ≤ b * p * p := stage_mul_le b p m

end Staged

/-! ### Operands cut first -/

section Truncated

variable {s v k d : Nat}

/-- The product of the operands without their digits below `k`, without its own digits
below `d`. -/
def truncated (k d v s : Nat) : Nat := s / k * (v / k) / d

/-- What the cuts drop from the exact product: the low digits of either operand times
the other, and the low digits of the product of the rest. -/
def dropped (k d v s : Nat) : Nat :=
  s % k * v + k * (s / k) * (v % k) + k * k * (s / k * (v / k) % d)

theorem superadditive_truncated (k d v : Nat) : Superadditive (truncated k d v) :=
  (Superadditive.proRata (v / k) d).comp (Superadditive.div_const k)

/-- Nothing else is dropped. -/
theorem truncated_add_dropped (k d v s : Nat) :
    k * k * d * truncated k d v s + dropped k d v s = s * v := by
  unfold truncated dropped
  have hs := Nat.div_add_mod s k
  have hv := Nat.div_add_mod v k
  have hprod := Nat.div_add_mod (s / k * (v / k)) d
  generalize s / k = sh at *
  generalize v / k = vh at *
  generalize s % k = sl at *
  generalize v % k = vl at *
  generalize sh * vh / d = q at *
  generalize sh * vh % d = r at *
  calc
    k * k * d * q + (sl * v + k * sh * vl + k * k * r)
      = k * k * (d * q + r) + sl * v + k * sh * vl := by ring
    _ = k * sh * (k * vh + vl) + sl * v := by rw [hprod]; ring
    _ = (k * sh + sl) * v := by rw [hv]; ring
    _ = s * v := by rw [hs]

theorem truncated_le (hk : 0 < k) (hd : 0 < d) :
    truncated k d v s ≤ s * v / (k * k * d) := by
  have hscale : 0 < k * k * d := by positivity
  rw [Nat.le_div_iff_mul_le hscale, Nat.mul_comm, ← truncated_add_dropped k d v s]
  exact Nat.le_add_right _ _

/-- The cuts cost at most `n` units exactly when less than `n + 1` units are dropped. -/
theorem le_truncated_add_iff (hk : 0 < k) (hd : 0 < d) (n : Nat) :
    s * v / (k * k * d) ≤ truncated k d v s + n ↔ dropped k d v s < (n + 1) * (k * k * d) := by
  have hscale : 0 < k * k * d := by positivity
  rw [← Nat.lt_succ_iff, Nat.div_lt_iff_lt_mul hscale, ← truncated_add_dropped k d v s]
  have hsplit : (truncated k d v s + n).succ * (k * k * d) =
      k * k * d * truncated k d v s + (n + 1) * (k * k * d) := by
    rw [Nat.succ_eq_add_one]
    ring
  rw [hsplit]
  exact Nat.add_lt_add_iff_left

/-- The product of the cut operands is far below the exact one. -/
theorem cut_mul_le (hk : 0 < k) : s / k * (v / k) ≤ s * v / (k * k) := by
  rw [Nat.le_div_iff_mul_le (Nat.mul_pos hk hk)]
  calc
    s / k * (v / k) * (k * k) = s / k * k * (v / k * k) := by ring
    _ ≤ s * v := Nat.mul_le_mul (Nat.div_mul_le_self s k) (Nat.div_mul_le_self v k)

end Truncated

end Accounting

import Mathlib.Data.List.Basic
import Mathlib.Tactic.Ring
import Mathlib.Algebra.Order.Ring.Nat

/-!
# Little-endian fields

Numbers laid out in account data and instruction data, least significant byte
first, and the bounds-checked read of such a field out of a byte string.
Encoding and reading invert each other on numbers that fit the width.
-/

set_option autoImplicit false

namespace Solana

/-- A byte string. -/
abbrev Bytes := List UInt8

/-- The low `width` bytes of a number, least significant first. -/
def leBytes : (width n : Nat) → Bytes
  | 0, _ => []
  | width + 1, n => UInt8.ofNat n :: leBytes width (n / 256)

/-- The number a little-endian byte string spells. -/
def leNat : Bytes → Nat
  | [] => 0
  | b :: rest => b.toNat + 256 * leNat rest

@[simp] theorem leBytes_length (width n : Nat) : (leBytes width n).length = width := by
  induction width generalizing n with
  | zero => rfl
  | succ width ih => simp [leBytes, ih]

/-- Reading back what was written keeps the bytes that fit. -/
theorem leNat_leBytes (width n : Nat) : leNat (leBytes width n) = n % 256 ^ width := by
  induction width generalizing n with
  | zero => simp [leBytes, leNat, Nat.mod_one]
  | succ width ih =>
    have hbyte : (UInt8.ofNat n).toNat = n % 256 := by simp
    rw [leBytes, leNat, ih, hbyte, pow_succ', Nat.mod_mul]

theorem leNat_leBytes_of_lt {width n : Nat} (h : n < 256 ^ width) :
    leNat (leBytes width n) = n := by
  rw [leNat_leBytes, Nat.mod_eq_of_lt h]

theorem leNat_lt (bytes : Bytes) : leNat bytes < 256 ^ bytes.length := by
  induction bytes with
  | nil => simp [leNat]
  | cons b rest ih =>
    have hb : b.toNat < 256 := b.toNat_lt
    rw [leNat, List.length_cons, pow_succ]
    omega

/-- Writing back what was read gives the same bytes. -/
theorem leBytes_leNat (bytes : Bytes) : leBytes bytes.length (leNat bytes) = bytes := by
  induction bytes with
  | nil => rfl
  | cons b rest ih =>
    have hb : b.toNat < 256 := b.toNat_lt
    have hdiv : (b.toNat + 256 * leNat rest) / 256 = leNat rest := by omega
    have hbyte : UInt8.ofNat (b.toNat + 256 * leNat rest) = b := by
      apply UInt8.toNat_inj.mp
      simp
    rw [List.length_cons, leBytes, leNat, hdiv, ih, hbyte]

/-- The field of `width` bytes at `offset`, if the data is long enough. -/
def readLE (width : Nat) (data : Bytes) (offset : Nat) : Option Nat :=
  if offset + width ≤ data.length then some (leNat ((data.drop offset).take width)) else none

theorem readLE_eq_some {width offset n : Nat} {data : Bytes} :
    readLE width data offset = some n ↔
      offset + width ≤ data.length ∧ n = leNat ((data.drop offset).take width) := by
  unfold readLE
  split_ifs with hlong <;> simp [hlong, eq_comm]

/-- A number of `width` bytes and what follows it. -/
theorem readLE_zero_eq_some {width n : Nat} {data : Bytes} :
    readLE width data 0 = some n ↔ n < 256 ^ width ∧ data = leBytes width n ++ data.drop width := by
  rw [readLE_eq_some, Nat.zero_add, List.drop_zero]
  constructor
  · rintro ⟨hlong, rfl⟩
    have hlength : (data.take width).length = width := List.length_take_of_le hlong
    have hlt := leNat_lt (data.take width)
    have hbytes := leBytes_leNat (data.take width)
    rw [hlength] at hlt hbytes
    refine ⟨hlt, ?_⟩
    rw [hbytes, List.take_append_drop]
  · rintro ⟨hlt, hdata⟩
    have hlong := congrArg List.length hdata
    rw [List.length_append, leBytes_length, List.length_drop] at hlong
    refine ⟨by omega, ?_⟩
    rw [hdata, List.take_left' (leBytes_length width n), leNat_leBytes_of_lt hlt]

/-! ### Machine words -/

/-- The eight bytes of a `u64`. -/
def leBytes64 (n : UInt64) : Bytes := leBytes 8 n.toNat

/-- The `u64` spelt by a byte string of exactly eight bytes. -/
def fromLeBytes64 (bytes : Bytes) : Option UInt64 :=
  if bytes.length = 8 then some (UInt64.ofNat (leNat bytes)) else none

@[simp] theorem leBytes64_length (n : UInt64) : (leBytes64 n).length = 8 := leBytes_length ..

@[simp] theorem leNat_leBytes64 (n : UInt64) : leNat (leBytes64 n) = n.toNat :=
  leNat_leBytes_of_lt (by have := n.toNat_lt; omega)

@[simp] theorem fromLeBytes64_leBytes64 (n : UInt64) : fromLeBytes64 (leBytes64 n) = some n := by
  simp [fromLeBytes64]

theorem leBytes64_inj {m n : UInt64} (h : leBytes64 m = leBytes64 n) : m = n := by
  have hread := congrArg fromLeBytes64 h
  simpa using hread

theorem fromLeBytes64_eq_some {bytes : Bytes} {n : UInt64} :
    fromLeBytes64 bytes = some n ↔ bytes = leBytes64 n := by
  constructor
  · intro h
    unfold fromLeBytes64 at h
    split_ifs at h with hlen
    obtain rfl := Option.some.inj h
    have hlt := leNat_lt bytes
    rw [hlen] at hlt
    rw [leBytes64, UInt64.toNat_ofNat_of_lt' (by simpa using hlt), ← hlen, leBytes_leNat]
  · rintro rfl
    exact fromLeBytes64_leBytes64 n

/-- `checked_add` on `u64`. -/
def checkedAdd (a b : UInt64) : Option UInt64 :=
  if a.toNat + b.toNat < 2 ^ 64 then some (a + b) else none

/-- `checked_add` on `u32`. -/
def checkedAddU32 (a b : UInt32) : Option UInt32 :=
  if a.toNat + b.toNat < 2 ^ 32 then some (a + b) else none

/-- `checked_sub` on `u64`. -/
def checkedSub (a b : UInt64) : Option UInt64 :=
  if b ≤ a then some (a - b) else none

/-- `u64::try_from` on a wider unsigned number. -/
def tryU64 (n : Nat) : Option UInt64 :=
  if n < 2 ^ 64 then some (UInt64.ofNat n) else none

theorem checkedAdd_eq_some {a b c : UInt64} :
    checkedAdd a b = some c ↔ c.toNat = a.toNat + b.toNat := by
  have hc := c.toNat_lt
  unfold checkedAdd
  split_ifs with hfits
  · rw [Option.some_inj, ← UInt64.toNat_inj, UInt64.toNat_add, Nat.mod_eq_of_lt hfits, eq_comm]
  · simp only [false_iff]
    omega

theorem checkedSub_eq_some {a b c : UInt64} :
    checkedSub a b = some c ↔ a.toNat = c.toNat + b.toNat := by
  unfold checkedSub
  split_ifs with hle
  · have hle' := UInt64.le_iff_toNat_le.mp hle
    rw [Option.some_inj, ← UInt64.toNat_inj, UInt64.toNat_sub_of_le _ _ hle]
    omega
  · have hlt := UInt64.le_iff_toNat_le.not.mp hle
    simp only [false_iff]
    omega

theorem tryU64_eq_some {n : Nat} {c : UInt64} : tryU64 n = some c ↔ c.toNat = n := by
  have hc := c.toNat_lt
  unfold tryU64
  split_ifs with hfits
  · rw [Option.some_inj, ← UInt64.toNat_inj, UInt64.toNat_ofNat_of_lt' hfits, eq_comm]
  · simp only [false_iff]
    omega

end Solana

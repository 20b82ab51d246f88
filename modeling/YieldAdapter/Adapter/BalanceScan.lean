import Mathlib.Data.List.Find
import Mathlib.Data.List.GetD
import YieldAdapter.Adapter.Valuation

/-!
# The balances of a MarginFi account

A MarginFi account keeps sixteen balances at a fixed stride, each with a byte that says
whether it is in use. The adapter walks them in order and stops at the first active one
of its bank. The walk is the search for that balance: what it returns is a field of it,
and nothing that an inactive balance holds has a part in it.
-/

set_option autoImplicit false

namespace YieldAdapter.MarginfiUsdc

open Solana

/-! ### The fields of a balance -/

/-- Where the `i`th balance begins: 72 bytes in, and 104 to each balance. -/
def balanceOff (i : Nat) : Nat := 72 + 104 * i

/-- The byte that says whether the balance is in use. -/
def activeByte (d : Bytes) (i : Nat) : UInt8 := d.getD (balanceOff i) 0

/-- The key of the bank that the balance is in. -/
def bankAt (d : Bytes) (i : Nat) : Bytes := (d.drop (balanceOff i + 1)).take 32

/-- The asset shares of the balance, an `i128` of 16 bytes. -/
def assetSharesAt (d : Bytes) (i : Nat) : Int :=
  (BitVec.ofNat 128 (leAt 16 d (balanceOff i + 40))).toInt

/-- The balance is in use, and in this bank. -/
def HeldIn (d bank : Bytes) (i : Nat) : Prop := activeByte d i ≠ 0 ∧ bankAt d i = bank

instance (d bank : Bytes) (i : Nat) : Decidable (HeldIn d bank i) :=
  inferInstanceAs (Decidable (_ ∧ _))

/-- The two strings say the same of the balance: both have it inactive, or both have it
active with the same shares of the same bank. -/
structure SameBalance (d d' : Bytes) (i : Nat) : Prop where
  active : activeByte d i = activeByte d' i
  bank : activeByte d i ≠ 0 → bankAt d i = bankAt d' i
  assetShares : activeByte d i ≠ 0 → assetSharesAt d i = assetSharesAt d' i

section Scan

variable {d d' bank : Bytes} {i : Nat} {slots : List Nat} {x : Int}

/-- The adapter's `i128` is the two's-complement reading of 128 bits. -/
theorem toI128_eq_toInt {n : Nat} (h : n < 2 ^ 128) : toI128 n = (BitVec.ofNat 128 n).toInt := by
  have hval : (BitVec.ofNat 128 n).toNat = n :=
    (BitVec.toNat_ofNat n 128).trans (Nat.mod_eq_of_lt h)
  rw [BitVec.toInt_eq_toNat_cond, hval, toI128]
  -- the sign bit decides on both sides
  by_cases hsign : n < 2 ^ 127
  · rw [if_pos hsign, if_pos (by omega)]
  · rw [if_neg hsign, if_neg (by omega)]
    rfl

theorem readI128_ok {off : Nat} :
    readI128 d off = .ok x ↔
      off + 16 ≤ d.length ∧ x = (BitVec.ofNat 128 (leAt 16 d off)).toInt := by
  have hlt : leAt 16 d off < 2 ^ 128 := leAt_lt 16 d off
  simp only [readI128, except_bind_ok, readField_ok]
  constructor
  · rintro ⟨n, ⟨hlong, rfl⟩, hpure⟩
    rw [← toI128_eq_toInt hlt]
    exact ⟨hlong, (Except.ok.inj hpure).symm⟩
  · rintro ⟨hlong, rfl⟩
    refine ⟨_, ⟨hlong, rfl⟩, ?_⟩
    rw [toI128_eq_toInt hlt]
    rfl

theorem leAt_one (d : Bytes) (off : Nat) : leAt 1 d off = (d.getD off 0).toNat := by
  by_cases hlong : off < d.length
  · rw [leAt, List.drop_eq_getElem_cons hlong, List.getD_eq_getElem _ _ hlong]
    simp only [List.take_succ_cons, List.take_zero, leNat, Nat.mul_zero, Nat.add_zero]
  · have hshort := Nat.not_lt.mp hlong
    rw [leAt, List.drop_eq_nil_of_le hshort, List.getD_eq_default _ _ hshort]
    rfl

/-- One turn of the walk: an inactive balance is passed over, one of another bank is read
as far as its key, and the one looked for ends the walk. -/
theorem scanBalances_cons_ok :
    scanBalances d bank (i :: slots) = .ok x ↔
      balanceOff i + 1 ≤ d.length ∧
        if activeByte d i = 0 then scanBalances d bank slots = .ok x
        else balanceOff i + 33 ≤ d.length ∧
          if bankAt d i = bank then balanceOff i + 56 ≤ d.length ∧ x = assetSharesAt d i
          else scanBalances d bank slots = .ok x := by
  -- the offsets of the source are those of the layout
  have hoff : balancesOff + i * balanceSize = balanceOff i := by
    unfold balancesOff balanceSize balanceOff
    omega
  have hactive : leAt 1 d (balanceOff i + balActive) = 0 ↔ activeByte d i = 0 := by
    rw [leAt_one, ← UInt8.toNat_inj]
    rfl
  have hkey : (d.drop (balanceOff i + balBankPk)).take 32 = bankAt d i := rfl
  simp only [scanBalances, hoff, hkey, except_bind_ok, readField_ok, and_assoc, exists_and_left,
    exists_eq_left, hactive]
  refine and_congr_right fun _ => ?_
  by_cases hidle : activeByte d i = 0
  · rw [if_pos hidle, if_pos hidle]
  rw [if_neg hidle, if_neg hidle]
  simp only [except_bind_ok, check_ok, exists_and_left, exists_const]
  refine and_congr_right fun _ => ?_
  by_cases hbank : bankAt d i = bank
  · rw [if_pos hbank, if_pos hbank]
    exact readI128_ok
  · rw [if_neg hbank, if_neg hbank]

/-- What a walk that ends has found: the shares of the first balance of the bank, all of
them in the data, or no such balance among the ones it looked at. -/
theorem scanBalances_sound (h : scanBalances d bank slots = .ok x) :
    (slots.find? fun i => HeldIn d bank i).elim
      ((∀ i ∈ slots, balanceOff i < d.length) ∧ x = 0)
      fun i => balanceOff i + 56 ≤ d.length ∧ x = assetSharesAt d i := by
  induction slots with
  | nil => exact ⟨by simp, (Except.ok.inj h).symm⟩
  | cons i slots ih =>
    obtain ⟨hlong, hrest⟩ := scanBalances_cons_ok.mp h
    -- a balance that is not the one looked for leaves the search where it was
    have hpassed : ¬ HeldIn d bank i → scanBalances d bank slots = .ok x →
        ((i :: slots).find? fun i => HeldIn d bank i).elim
          ((∀ j ∈ i :: slots, balanceOff j < d.length) ∧ x = 0)
          fun i => balanceOff i + 56 ≤ d.length ∧ x = assetSharesAt d i := by
      intro hother hscan
      have htail := ih hscan
      rw [List.find?_cons_of_neg (by simpa using hother)]
      cases hfound : slots.find? fun i => HeldIn d bank i with
      | none =>
        rw [hfound] at htail
        exact ⟨List.forall_mem_cons.mpr ⟨hlong, htail.1⟩, htail.2⟩
      | some j =>
        rw [hfound] at htail
        exact htail
    by_cases hidle : activeByte d i = 0
    · rw [if_pos hidle] at hrest
      exact hpassed (fun hheld => hheld.1 hidle) hrest
    · rw [if_neg hidle] at hrest
      by_cases hbank : bankAt d i = bank
      · rw [if_pos hbank] at hrest
        have hheld : HeldIn d bank i := ⟨hidle, hbank⟩
        rw [List.find?_cons_of_pos (by simpa using hheld)]
        exact hrest.2
      · rw [if_neg hbank] at hrest
        exact hpassed (fun hheld => hbank hheld.2) hrest.2

/-- Where all the balances are there the walk ends. -/
theorem scanBalances_total (h : ∀ i ∈ slots, balanceOff i + 56 ≤ d.length) :
    ∃ x, scanBalances d bank slots = .ok x := by
  induction slots with
  | nil => exact ⟨0, rfl⟩
  | cons i slots ih =>
    obtain ⟨hlong, hrest⟩ := List.forall_mem_cons.mp h
    obtain ⟨x, hscan⟩ := ih hrest
    simp only [scanBalances_cons_ok]
    -- whatever the balance is, all that is read of it is there
    by_cases hidle : activeByte d i = 0
    · exact ⟨x, by omega, by rwa [if_pos hidle]⟩
    · by_cases hbank : bankAt d i = bank
      · refine ⟨assetSharesAt d i, by omega, ?_⟩
        rw [if_neg hidle, if_pos hbank]
        exact ⟨by omega, hlong, rfl⟩
      · refine ⟨x, by omega, ?_⟩
        rw [if_neg hidle, if_neg hbank]
        exact ⟨by omega, hscan⟩

/-- The balance that the adapter prices. -/
def firstHeld (d bank : Bytes) : Option Nat := (List.range 16).find? fun i => HeldIn d bank i

theorem accountAssetShares_eq (hlong : 72 + 16 * 104 ≤ d.length) :
    accountAssetShares d bank = .ok ((firstHeld d bank).elim 0 (assetSharesAt d)) := by
  have hpresent : ∀ i ∈ List.range 16, balanceOff i + 56 ≤ d.length := by
    intro i hmem
    have hlt := List.mem_range.mp hmem
    unfold balanceOff
    omega
  obtain ⟨x, hscan⟩ := @scanBalances_total d bank _ hpresent
  have hsound := scanBalances_sound hscan
  change (firstHeld d bank).elim _ _ at hsound
  rw [accountAssetShares, hscan]
  cases hfound : firstHeld d bank with
  | none =>
    rw [hfound] at hsound
    rw [hsound.2]
    rfl
  | some i =>
    rw [hfound] at hsound
    rw [hsound.2]
    rfl

theorem firstHeld_eq_some :
    firstHeld d bank = some i ↔ i < 16 ∧ HeldIn d bank i ∧ ∀ j < i, ¬ HeldIn d bank j := by
  unfold firstHeld
  rw [List.find?_range_eq_some, List.mem_range, decide_eq_true_iff]
  simp only [Bool.not_eq_true', decide_eq_false_iff_not]
  tauto

theorem firstHeld_eq_none : firstHeld d bank = none ↔ ∀ i < 16, ¬ HeldIn d bank i := by
  unfold firstHeld
  rw [List.find?_range_eq_none]
  simp only [Bool.not_eq_true', decide_eq_false_iff_not]

/-- Strings that say the same of every balance have the same balance first. -/
theorem firstHeld_congr (hsame : ∀ i < 16, SameBalance d d' i) :
    firstHeld d bank = firstHeld d' bank := by
  refine List.find?_congr fun i hmem => ?_
  obtain ⟨hactive, hbank, -⟩ := hsame i (List.mem_range.mp hmem)
  rw [decide_eq_decide]
  unfold HeldIn
  rw [← hactive]
  -- the key counts only where the balance is active
  refine and_congr_right fun hheld => ?_
  rw [hbank hheld]

theorem accountAssetShares_congr (hlong : 72 + 16 * 104 ≤ d.length)
    (hlong' : 72 + 16 * 104 ≤ d'.length) (hsame : ∀ i < 16, SameBalance d d' i) :
    accountAssetShares d bank = accountAssetShares d' bank := by
  rw [accountAssetShares_eq hlong, accountAssetShares_eq hlong', ← firstHeld_congr hsame]
  cases hfound : firstHeld d bank with
  | none => rw [Option.elim_none, Option.elim_none]
  | some i =>
    obtain ⟨hlt, hheld, -⟩ := firstHeld_eq_some.mp hfound
    rw [Option.elim_some, Option.elim_some, (hsame i hlt).assetShares hheld.1]

/-- The value reported is the same while the active balances and the bank are. -/
theorem AdapterState.value_congr {layout : Layout ProgramState} {w w' : Chain} {s : AdapterState}
    (hlong : 72 + 16 * 104 ≤ (w.bytes layout s.marginfiAccount).length)
    (hlong' : 72 + 16 * 104 ≤ (w'.bytes layout s.marginfiAccount).length)
    (hsame : ∀ i < 16,
      SameBalance (w.bytes layout s.marginfiAccount) (w'.bytes layout s.marginfiAccount) i)
    (hbank : w.bytes layout s.bank = w'.bytes layout s.bank) :
    s.value layout w = s.value layout w' := by
  unfold AdapterState.value
  rw [accountAssetShares_congr hlong hlong' hsame, hbank]

/-- The scan finds the first active balance of the bank, never fails on a whole account, and
looks at nothing but the active balances. -/
theorem accountAssetShares_lookup (d bank : Bytes) :
    (∀ x, accountAssetShares d bank = .ok x →
      (∃ i < 16, HeldIn d bank i ∧ (∀ j < i, ¬ HeldIn d bank j) ∧
        balanceOff i + 56 ≤ d.length ∧ x = assetSharesAt d i) ∨
      (∀ i < 16, balanceOff i < d.length ∧ ¬ HeldIn d bank i) ∧ x = 0) ∧
    (72 + 16 * 104 ≤ d.length → ∃ x, accountAssetShares d bank = .ok x) ∧
    ∀ d' : Bytes, 72 + 16 * 104 ≤ d.length → 72 + 16 * 104 ≤ d'.length →
      (∀ i < 16, SameBalance d d' i) →
        accountAssetShares d bank = accountAssetShares d' bank := by
  refine ⟨?_, ?_, ?_⟩
  · intro x hscan
    -- the walk is the search: one case where it finds a balance, one where it finds none
    have hsound := scanBalances_sound hscan
    change (firstHeld d bank).elim _ _ at hsound
    cases hfound : firstHeld d bank with
    | none =>
      rw [hfound] at hsound
      obtain ⟨hpresent, hzero⟩ := hsound
      have hother := firstHeld_eq_none.mp hfound
      exact .inr ⟨fun i hlt => ⟨hpresent i (List.mem_range.mpr hlt), hother i hlt⟩, hzero⟩
    | some i =>
      rw [hfound] at hsound
      obtain ⟨hlt, hheld, hfirst⟩ := firstHeld_eq_some.mp hfound
      exact .inl ⟨i, hlt, hheld, hfirst, hsound⟩
  · intro hlong
    exact ⟨_, accountAssetShares_eq hlong⟩
  · intro d' hlong hlong' hsame
    exact accountAssetShares_congr hlong hlong' hsame

end Scan

/-! ### An account with a closed balance -/

namespace Sample

/-- A balance of `shares` in `bank`. -/
def balanceOf (active : UInt8) (bank : Bytes) (shares : Nat) : Bytes :=
  active :: bank ++ List.replicate 7 0 ++ leBytes 16 shares ++ List.replicate 48 0

def bankKey (n : UInt8) : Bytes := List.replicate 32 n

/-- A closed balance that still spells bank 7 and `stale` shares, one in bank 9, and 5 shares
in bank 7. -/
def threeBalances (stale : Nat) : Bytes :=
  List.replicate 72 0 ++ balanceOf 0 (bankKey 7) stale ++ balanceOf 1 (bankKey 9) 3 ++
    balanceOf 1 (bankKey 7) 5 ++ List.replicate (13 * 104) 0

theorem threeBalances_same :
    ∀ i < 16, SameBalance (threeBalances 4) (threeBalances 1000) i := by
  have hactive : ∀ i < 16, activeByte (threeBalances 4) i = activeByte (threeBalances 1000) i := by
    decide +kernel
  have hfields : ∀ i < 16, activeByte (threeBalances 4) i ≠ 0 →
      bankAt (threeBalances 4) i = bankAt (threeBalances 1000) i ∧
        assetSharesAt (threeBalances 4) i = assetSharesAt (threeBalances 1000) i := by
    decide +kernel
  intro i hlt
  exact ⟨hactive i hlt, fun h => (hfields i hlt h).1, fun h => (hfields i hlt h).2⟩

/-- The closed balance is passed over, and what it still spells makes no difference. -/
theorem accountAssetShares_lookup_closed :
    (∃ i < 16, HeldIn (threeBalances 4) (bankKey 7) i ∧ (5 : Int) =
      assetSharesAt (threeBalances 4) i) ∧
    accountAssetShares (threeBalances 4) (bankKey 7) =
      accountAssetShares (threeBalances 1000) (bankKey 7) := by
  obtain ⟨hfound, -, hsame⟩ := accountAssetShares_lookup (threeBalances 4) (bankKey 7)
  have hscan : accountAssetShares (threeBalances 4) (bankKey 7) = .ok 5 := by decide +kernel
  constructor
  · rcases hfound 5 hscan with ⟨i, hlt, hheld, -, -, hshares⟩ | ⟨-, hzero⟩
    · exact ⟨i, hlt, hheld, hshares⟩
    · exact absurd hzero (by decide)
  · exact hsame (threeBalances 1000) (by decide +kernel) (by decide +kernel) threeBalances_same

end Sample

end YieldAdapter.MarginfiUsdc

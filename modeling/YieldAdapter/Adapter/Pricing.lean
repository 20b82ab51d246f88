import Mathlib.Data.UInt
import YieldAdapter.Accounting.FloorPrice
import YieldAdapter.Adapter.KaminoUsdc
import YieldAdapter.Adapter.MarginfiUsdc
import YieldAdapter.Adapter.JupiterLp
import YieldAdapter.Adapter.MapleSyrup
import YieldAdapter.Adapter.DriftIf

/-!
# What the adapters report a holding to be worth

Each adapter prices its shares from the bytes of protocol accounts, in unsigned
integers of 64 and 128 bits. Kamino, Jupiter and Drift divide once; Maple multiplies
by a square-root price in two stages; MarginFi cuts both operands first. The results
are compared with the exact quotient, and with each other when a holding is split.
-/

set_option autoImplicit false

namespace YieldAdapter

open Solana Accounting

/-! ### Pro-rata prices -/

/-- `shares × amount / supply` rounded down, where it is defined and fits. -/
def proRataPrice (shares : UInt64) (amount supply : Nat) : Except Error UInt64 :=
  if shares = 0 then .ok 0
  else if 0 < supply ∧ shares.toNat * amount / supply < 2 ^ 64 then
    .ok (UInt64.ofNat (shares.toNat * amount / supply))
  else .error AdapterError.mathOverflow

/-- The word computed is the value reported. -/
theorem ok_ofNat_iff {n : Nat} {v : UInt64} (hfits : n < 2 ^ 64) :
    (.ok (UInt64.ofNat n) : Except Error UInt64) = .ok v ↔ v.toNat = n := by
  have hval := UInt64.toNat_ofNat_of_lt' hfits
  constructor
  · intro h
    rw [← Except.ok.inj h]
    exact hval
  · intro h
    exact congrArg Except.ok (UInt64.toNat_inj.mp (hval.trans h.symm))

theorem ok_zero_iff {v : UInt64} : (.ok 0 : Except Error UInt64) = .ok v ↔ v.toNat = 0 :=
  ok_ofNat_iff (by decide)

theorem proRataPrice_ok {shares v : UInt64} {amount supply : Nat} :
    proRataPrice shares amount supply = .ok v ↔
      (shares.toNat = 0 ∨ 0 < supply ∧ shares.toNat * amount / supply < 2 ^ 64) ∧
        v.toNat = shares.toNat * amount / supply := by
  have hnone : shares = 0 ↔ shares.toNat = 0 := UInt64.toNat_inj.symm
  unfold proRataPrice
  split_ifs with hzero hfits
  · rw [ok_zero_iff, hnone.mp hzero, Nat.zero_mul, Nat.zero_div]
    simp only [true_or, true_and]
  · rw [ok_ofNat_iff hfits.2, and_iff_right (.inr hfits)]
  · have hrefused := not_or.mpr ⟨hnone.not.mp hzero, hfits⟩
    constructor
    · intro h
      cases h
    · intro h
      exact absurd h.1 hrefused

/-- Under a divisor of 64 bits the product overflows only where the quotient does. -/
theorem mulDivU64_eq {a b c : Nat} (hc : c < 2 ^ 64) :
    mulDivU64 a b c =
      if 0 < c ∧ a * b / c < 2 ^ 64 then .ok (UInt64.ofNat (a * b / c))
      else .error AdapterError.mathOverflow := by
  unfold mulDivU64
  rcases Nat.eq_zero_or_pos c with rfl | hpos
  · rw [if_neg (by omega), check_of_not (by omega : ¬ (0 ≠ 0))]
    by_cases hproduct : a * b < 2 ^ 128
    · rw [check_of hproduct]
      rfl
    · rw [check_of_not hproduct]
      rfl
  rw [check_of (Nat.ne_of_gt hpos)]
  by_cases hproduct : a * b < 2 ^ 128
  · rw [check_of hproduct, except_ok_bind, except_ok_bind]
    unfold tryU64
    by_cases hfits : a * b / c < 2 ^ 64
    · rw [if_pos hfits, if_pos ⟨hpos, hfits⟩]
      rfl
    · rw [if_neg hfits, if_neg (fun h => hfits h.2)]
      rfl
  · have hwide : 2 ^ 64 ≤ a * b / c := by
      apply le_div_of_wide hpos hc.le
      omega
    rw [check_of_not hproduct, if_neg (by omega)]
    rfl

/-- The liquidity a reserve stands for: what is available and what is lent out. -/
def totalLiquidity (reserveData : Bytes) : Nat :=
  leAt 8 reserveData 224 + leAt 16 reserveData 232 >>> 60

theorem totalLiquidity_lt (reserveData : Bytes) : totalLiquidity reserveData < 2 ^ 128 := by
  have havailable := leAt_lt 8 reserveData 224
  have hborrowed := leAt_lt 16 reserveData 232
  unfold totalLiquidity
  rw [Nat.shiftRight_eq_div_pow]
  omega

theorem collateralValueUsdc_eq {reserveData : Bytes} (hlong : 2600 ≤ reserveData.length)
    (shares : UInt64) :
    KaminoUsdc.collateralValueUsdc reserveData shares =
      proRataPrice shares (totalLiquidity reserveData) (leAt 8 reserveData 2592) := by
  have havailable : KaminoUsdc.readU64 reserveData KaminoUsdc.offTotalAvailable = .ok _ :=
    readField_of_le (le_trans (by decide) hlong)
  have hborrowed : KaminoUsdc.readU128 reserveData KaminoUsdc.offBorrowedSf = .ok _ :=
    readField_of_le (le_trans (by decide) hlong)
  have hsupply : KaminoUsdc.readU64 reserveData KaminoUsdc.offCollateralSupply = .ok _ :=
    readField_of_le (le_trans (by decide) hlong)
  -- the sum of a word and a shifted double word cannot overflow
  have hsum : leAt 8 reserveData KaminoUsdc.offTotalAvailable +
      leAt 16 reserveData KaminoUsdc.offBorrowedSf >>> KaminoUsdc.sfShift < 2 ^ 128 :=
    totalLiquidity_lt reserveData
  have hsupplyLt := leAt_lt 8 reserveData KaminoUsdc.offCollateralSupply
  unfold KaminoUsdc.collateralValueUsdc proRataPrice
  rw [havailable, hborrowed, hsupply]
  simp only [except_ok_bind]
  -- the source tests the shares before the supply
  by_cases hzero : shares = 0
  · rw [if_pos hzero, if_pos hzero]
    rfl
  rw [if_neg hzero, if_neg hzero]
  by_cases hempty : leAt 8 reserveData KaminoUsdc.offCollateralSupply = 0
  · rw [check_of_not (not_not.mpr hempty), if_neg (fun h => (Nat.ne_of_gt h.1) hempty)]
    rfl
  · rw [check_of hempty, except_ok_bind, check_of hsum, except_ok_bind,
      mulDivU64_eq (by omega)]
    rfl

theorem lpValueUsdc_eq {poolData lpMintData : Bytes} (hpool : 196 ≤ poolData.length)
    (hmint : 44 ≤ lpMintData.length) (lpBalance : UInt64) :
    JupiterLp.lpValueUsdc poolData lpMintData lpBalance =
      proRataPrice lpBalance (leAt 16 poolData 180) (leAt 8 lpMintData 36) := by
  have haum : JupiterLp.readU128 poolData JupiterLp.poolAumUsd = .ok _ :=
    readField_of_le (le_trans (by decide) hpool)
  have hsupply : JupiterLp.readU64 lpMintData JupiterLp.mintSupply = .ok _ :=
    readField_of_le (le_trans (by decide) hmint)
  have hsupplyLt := leAt_lt 8 lpMintData JupiterLp.mintSupply
  unfold JupiterLp.lpValueUsdc proRataPrice
  rw [haum, except_ok_bind, hsupply, except_ok_bind]
  -- here too the balance is tested before the supply
  by_cases hzero : lpBalance = 0
  · rw [if_pos hzero, if_pos hzero]
    rfl
  rw [if_neg hzero, if_neg hzero]
  by_cases hempty : leAt 8 lpMintData JupiterLp.mintSupply = 0
  · rw [check_of_not (not_not.mpr hempty), if_neg (fun h => (Nat.ne_of_gt h.1) hempty)]
    rfl
  · rw [check_of hempty, except_ok_bind, mulDivU64_eq (by omega)]
    rfl

/-- The two byte strings agree on the field of `width` bytes at `off`. -/
def SameField (width off : Nat) (data data' : Bytes) : Prop :=
  (data.drop off).take width = (data'.drop off).take width

theorem SameField.leAt_eq {width off : Nat} {data data' : Bytes}
    (h : SameField width off data data') : leAt width data off = leAt width data' off :=
  congrArg leNat h

/-- Kamino and Jupiter report the exact quotient rounded down whenever it is defined and
fits a `u64`, and read nothing but the fields it is made of. -/
theorem pro_rata_pricing_exact (reserveData poolData lpMintData : Bytes)
    (shares lpBalance : UInt64) (hreserve : 2600 ≤ reserveData.length)
    (hpool : 196 ≤ poolData.length) (hmint : 44 ≤ lpMintData.length) :
    (KaminoUsdc.collateralValueUsdc reserveData shares =
        proRataPrice shares (leAt 8 reserveData 224 + leAt 16 reserveData 232 >>> 60)
          (leAt 8 reserveData 2592) ∧
      JupiterLp.lpValueUsdc poolData lpMintData lpBalance =
        proRataPrice lpBalance (leAt 16 poolData 180) (leAt 8 lpMintData 36)) ∧
    (∀ other : Bytes, 2600 ≤ other.length → SameField 8 224 reserveData other →
      SameField 16 232 reserveData other → SameField 8 2592 reserveData other →
      KaminoUsdc.collateralValueUsdc other shares =
        KaminoUsdc.collateralValueUsdc reserveData shares) ∧
    ∀ other otherMint : Bytes, 196 ≤ other.length → 44 ≤ otherMint.length →
      SameField 16 180 poolData other → SameField 8 36 lpMintData otherMint →
      JupiterLp.lpValueUsdc other otherMint lpBalance =
        JupiterLp.lpValueUsdc poolData lpMintData lpBalance := by
  refine ⟨⟨collateralValueUsdc_eq hreserve shares, lpValueUsdc_eq hpool hmint lpBalance⟩, ?_, ?_⟩
  · intro other hother havailable hborrowed hsupply
    rw [collateralValueUsdc_eq hother, collateralValueUsdc_eq hreserve]
    unfold totalLiquidity
    rw [havailable.leAt_eq, hborrowed.leAt_eq, hsupply.leAt_eq]
  · intro other otherMint hother hotherMint haum hsupply
    rw [lpValueUsdc_eq hother hotherMint, lpValueUsdc_eq hpool hmint, haum.leAt_eq,
      hsupply.leAt_eq]

/-- A reserve of 1000 available and 500 lent out against a collateral supply of 1200. -/
def sampleReserve : Bytes :=
  List.replicate 224 0 ++ (leBytes 8 1000 ++ (leBytes 16 (500 * 2 ^ 60) ++
    (List.replicate 2344 0 ++ leBytes 8 1200)))

/-- A pool of 900 dollars. -/
def samplePool : Bytes := List.replicate 180 0 ++ leBytes 16 900

/-- A mint of 300 tokens. -/
def sampleMint : Bytes := List.replicate 36 0 ++ leBytes 8 300

theorem pro_rata_pricing_sample :
    KaminoUsdc.collateralValueUsdc sampleReserve 600 = .ok 750 ∧
      JupiterLp.lpValueUsdc samplePool sampleMint 100 = .ok 300 := by
  obtain ⟨⟨hkamino, hjupiter⟩, -⟩ := pro_rata_pricing_exact sampleReserve samplePool sampleMint
    600 100 (by decide +kernel) (by decide +kernel) (by decide +kernel)
  rw [hkamino, hjupiter]
  decide +kernel

/-! ### Drift -/

/-- The `if_shares` a stake account holds. -/
abbrev ifShares (ifStakeData : Bytes) : Nat := leAt 16 ifStakeData 40

/-- The `total_shares` of a spot market's insurance fund. -/
abbrev fundShares (spotMarketData : Bytes) : Nat := leAt 16 spotMarketData 336

/-- The `amount` of a token account. -/
abbrev vaultBalance (ifVaultData : Bytes) : Nat := leAt 8 ifVaultData 64

section Drift

variable {ifStakeData spotMarketData ifVaultData : Bytes}

theorem stakeValueUsdc_zero (hstake : 56 ≤ ifStakeData.length) (hzero : ifShares ifStakeData = 0) :
    DriftIf.stakeValueUsdc ifStakeData spotMarketData ifVaultData = .ok 0 := by
  have hread : DriftIf.readU128 ifStakeData DriftIf.ifStakeShares = .ok (ifShares ifStakeData) :=
    readField_of_le hstake
  unfold DriftIf.stakeValueUsdc
  rw [hread, except_ok_bind, if_pos hzero]
  rfl

theorem stakeValueUsdc_eq (hstake : 56 ≤ ifStakeData.length)
    (hspot : 352 ≤ spotMarketData.length) (hvault : 72 ≤ ifVaultData.length)
    (hshares : ifShares ifStakeData ≠ 0) (hfund : fundShares spotMarketData ≠ 0) :
    DriftIf.stakeValueUsdc ifStakeData spotMarketData ifVaultData =
      mulDivU64 (ifShares ifStakeData) (vaultBalance ifVaultData) (fundShares spotMarketData) := by
  have hread : DriftIf.readU128 ifStakeData DriftIf.ifStakeShares = .ok (ifShares ifStakeData) :=
    readField_of_le hstake
  have htotal : DriftIf.readU128 spotMarketData DriftIf.smIfTotalShares =
      .ok (fundShares spotMarketData) := readField_of_le hspot
  have hbalance : DriftIf.readU64 ifVaultData DriftIf.tokenAmountOff =
      .ok (vaultBalance ifVaultData) := readField_of_le hvault
  unfold DriftIf.stakeValueUsdc
  rw [hread, except_ok_bind, if_neg hshares, htotal, except_ok_bind, check_of hfund,
    except_ok_bind, hbalance, except_ok_bind]

theorem stakeValueUsdc_ok {v : UInt64} :
    DriftIf.stakeValueUsdc ifStakeData spotMarketData ifVaultData = .ok v ↔
      56 ≤ ifStakeData.length ∧ (ifShares ifStakeData = 0 ∧ v = 0 ∨
        ifShares ifStakeData ≠ 0 ∧ 352 ≤ spotMarketData.length ∧ fundShares spotMarketData ≠ 0 ∧
          72 ≤ ifVaultData.length ∧ ifShares ifStakeData * vaultBalance ifVaultData < 2 ^ 128 ∧
          v.toNat =
            ifShares ifStakeData * vaultBalance ifVaultData / fundShares spotMarketData) := by
  constructor
  · intro h
    unfold DriftIf.stakeValueUsdc DriftIf.readU128 DriftIf.readU64 at h
    rw [except_bind_ok] at h
    obtain ⟨shares, hshares, hrun⟩ := h
    obtain ⟨hstake, rfl⟩ := readField_ok.mp hshares
    refine ⟨hstake, ?_⟩
    split_ifs at hrun with hzero
    -- no shares: neither market nor vault is read
    · exact .inl ⟨hzero, (Except.ok.inj hrun).symm⟩
    · simp only [except_bind_ok, check_ok, exists_and_left, exists_const, readField_ok,
        mulDivU64_ok] at hrun
      obtain ⟨total, ⟨hspot, rfl⟩, hempty, vault, ⟨hvault, rfl⟩, hproduct, -, hv⟩ := hrun
      exact .inr ⟨hzero, hspot, hempty, hvault, hproduct, hv⟩
  · rintro ⟨hstake, ⟨hzero, rfl⟩ | ⟨hzero, hspot, hempty, hvault, hproduct, hv⟩⟩
    · exact stakeValueUsdc_zero hstake hzero
    · rw [stakeValueUsdc_eq hstake hspot hvault hzero hempty]
      exact mulDivU64_ok.mpr ⟨hproduct, hempty, hv⟩

/-- On a consistent fund the price exists exactly while the product of the shares and the
vault fits a `u128`, and is then the exact quotient rounded down. -/
theorem stakeValueUsdc_of_consistent (hstake : 56 ≤ ifStakeData.length)
    (hspot : 352 ≤ spotMarketData.length) (hvault : 72 ≤ ifVaultData.length)
    (hshares : ifShares ifStakeData ≤ fundShares spotMarketData)
    (hfund : 0 < fundShares spotMarketData) :
    DriftIf.stakeValueUsdc ifStakeData spotMarketData ifVaultData =
        (if ifShares ifStakeData * vaultBalance ifVaultData < 2 ^ 128 then
          .ok (UInt64.ofNat
            (ifShares ifStakeData * vaultBalance ifVaultData / fundShares spotMarketData))
        else .error AdapterError.mathOverflow) ∧
      ifShares ifStakeData * vaultBalance ifVaultData / fundShares spotMarketData ≤
        vaultBalance ifVaultData := by
  -- a part of the fund is priced at no more than the vault
  have hle : ifShares ifStakeData * vaultBalance ifVaultData / fundShares spotMarketData ≤
      vaultBalance ifVaultData := by
    apply Nat.div_le_of_le_mul
    exact Nat.mul_le_mul_right _ hshares
  have hword : vaultBalance ifVaultData < 2 ^ 64 := leAt_lt 8 ifVaultData 64
  refine ⟨?_, hle⟩
  by_cases hzero : ifShares ifStakeData = 0
  · rw [stakeValueUsdc_zero hstake hzero, hzero]
    simp
  rw [stakeValueUsdc_eq hstake hspot hvault hzero hfund.ne']
  by_cases hproduct : ifShares ifStakeData * vaultBalance ifVaultData < 2 ^ 128
  · rw [if_pos hproduct, mulDivU64_ok]
    exact ⟨hproduct, hfund.ne', UInt64.toNat_ofNat_of_lt' (lt_of_le_of_lt hle hword)⟩
  · rw [if_neg hproduct, mulDivU64, check_of_not hproduct]
    rfl

end Drift

/-- A stake of `shares`, in the layout Drift gives it. -/
def stakeOf (shares : Nat) : Bytes := List.replicate 40 0 ++ leBytes 16 shares

/-- A spot market whose insurance fund has `shares`. -/
def spotMarketOf (shares : Nat) : Bytes := List.replicate 336 0 ++ leBytes 16 shares

/-- A token account of `amount`. -/
def vaultOf (amount : Nat) : Bytes := List.replicate 64 0 ++ leBytes 8 amount

theorem stakeValueUsdc_sample :
    DriftIf.stakeValueUsdc (stakeOf 30) (spotMarketOf 120) (vaultOf 500) = .ok 125 := by
  obtain ⟨hprice, -⟩ := @stakeValueUsdc_of_consistent (stakeOf 30) (spotMarketOf 120) (vaultOf 500)
    (by decide +kernel) (by decide +kernel) (by decide +kernel) (by decide +kernel)
    (by decide +kernel)
  rw [hprice]
  decide +kernel

/-- The sole staker of a fund of 2^127 shares and two base units is not priced. -/
theorem stakeValueUsdc_wide :
    (ifShares (stakeOf (2 ^ 127)) = 2 ^ 127 ∧ fundShares (spotMarketOf (2 ^ 127)) = 2 ^ 127 ∧
      vaultBalance (vaultOf 2) = 2) ∧
    (56 ≤ (stakeOf (2 ^ 127)).length ∧ 352 ≤ (spotMarketOf (2 ^ 127)).length ∧
      72 ≤ (vaultOf 2).length) ∧
    DriftIf.stakeValueUsdc (stakeOf (2 ^ 127)) (spotMarketOf (2 ^ 127)) (vaultOf 2) =
      .error AdapterError.mathOverflow := by
  decide +kernel

/-! ### Whirlpool -/

section Whirlpool

variable {wpData : Bytes} {syrupBalance : UInt64}

/-- The `sqrt_price` of a whirlpool, in units of 2^-64. -/
abbrev sqrtPrice (wpData : Bytes) : Nat := leAt 16 wpData 65

theorem whirlpoolValueUsdc_ok {v : UInt64} :
    MapleSyrup.whirlpoolValueUsdc wpData syrupBalance = .ok v ↔
      (syrupBalance = 0 ∨ 81 ≤ wpData.length ∧
        syrupBalance.toNat * sqrtPrice wpData < 2 ^ 128 ∧
        syrupBalance.toNat * sqrtPrice wpData / 2 ^ 64 * sqrtPrice wpData < 2 ^ 128) ∧
      v.toNat = staged (sqrtPrice wpData) (2 ^ 64) syrupBalance.toNat := by
  unfold MapleSyrup.whirlpoolValueUsdc MapleSyrup.readU128
  split_ifs with hzero
  · subst hzero
    simp only [true_or, true_and, staged, UInt64.toNat_zero, Nat.zero_mul, Nat.zero_div]
    exact ok_zero_iff
  · simp only [except_bind_ok, check_ok, exists_and_left, exists_const, readField_ok, hzero,
      false_or, Nat.shiftRight_eq_div_pow, and_assoc, exists_eq_left]
    refine and_congr_right fun _ => and_congr_right fun _ => and_congr_right fun _ => ?_
    rw [← tryU64_eq_some]
    exact tryU64_elim_ok

/-- The price rounds down by at most the price of one unit, and is refused only where the
exact value does not fit a `u64`. -/
theorem whirlpool_pricing (hlong : 81 ≤ wpData.length) (syrupBalance : UInt64) :
    (syrupBalance.toNat * sqrtPrice wpData ^ 2 / 2 ^ 128 < 2 ^ 64 →
      ∃ v, MapleSyrup.whirlpoolValueUsdc wpData syrupBalance = .ok v ∧
        v.toNat ≤ syrupBalance.toNat * sqrtPrice wpData ^ 2 / 2 ^ 128 ∧
        syrupBalance.toNat * sqrtPrice wpData ^ 2 / 2 ^ 128 - v.toNat ≤
          sqrtPrice wpData ⌈/⌉ 2 ^ 64 ∧
        (sqrtPrice wpData ≤ 2 ^ 64 →
          syrupBalance.toNat * sqrtPrice wpData ^ 2 / 2 ^ 128 - v.toNat ≤ 1)) ∧
    (MapleSyrup.whirlpoolValueUsdc wpData syrupBalance = .error AdapterError.mathOverflow →
      2 ^ 64 ≤ syrupBalance.toNat * sqrtPrice wpData ^ 2 / 2 ^ 128) := by
  have hexact : syrupBalance.toNat * sqrtPrice wpData ^ 2 / 2 ^ 128 =
      syrupBalance.toNat * sqrtPrice wpData * sqrtPrice wpData / (2 ^ 64 * 2 ^ 64) := by
    rw [pow_two, Nat.mul_assoc]
    rfl
  rw [hexact]
  generalize hsp : sqrtPrice wpData = sp
  have hword := syrupBalance.toNat_lt
  have hm : (0 : Nat) < 2 ^ 64 := by decide
  have hfloor := @staged_le syrupBalance.toNat sp (2 ^ 64) hm
  have hceil := @le_staged_add syrupBalance.toNat sp (2 ^ 64) hm
  -- the price exists wherever the exact value fits
  have hpriced : syrupBalance.toNat * sp * sp / (2 ^ 64 * 2 ^ 64) < 2 ^ 64 →
      MapleSyrup.whirlpoolValueUsdc wpData syrupBalance =
        .ok (UInt64.ofNat (staged sp (2 ^ 64) syrupBalance.toNat)) := by
    intro hfits
    rw [whirlpoolValueUsdc_ok, hsp]
    refine ⟨.inr ⟨hlong, ?_, ?_⟩, ?_⟩
    · by_contra hwide
      have := @le_exact_of_wide_first syrupBalance.toNat sp (2 ^ 64) hword (by omega)
      omega
    · by_contra hwide
      have := @le_exact_of_wide_second syrupBalance.toNat sp (2 ^ 64) hm (by omega)
      omega
    · exact UInt64.toNat_ofNat_of_lt' (lt_of_le_of_lt hfloor hfits)
  constructor
  · intro hfits
    have hval : (UInt64.ofNat (staged sp (2 ^ 64) syrupBalance.toNat)).toNat =
        staged sp (2 ^ 64) syrupBalance.toNat :=
      UInt64.toNat_ofNat_of_lt' (lt_of_le_of_lt hfloor hfits)
    refine ⟨_, hpriced hfits, ?_, ?_, ?_⟩
    · rw [hval]
      exact hfloor
    · rw [hval]
      omega
    · intro hone
      have hunit : sp ⌈/⌉ 2 ^ 64 ≤ 1 := by
        rw [ceilDiv_le_iff_le_smul hm]
        simpa using hone
      rw [hval]
      omega
  · intro hfailed
    by_contra hsmall
    rw [hpriced (not_le.mp hsmall)] at hfailed
    cases hfailed

end Whirlpool

/-- A whirlpool at a square-root price of `sp / 2^64`. -/
def whirlpoolOf (sp : Nat) : Bytes := List.replicate 65 0 ++ leBytes 16 sp

/-- At a square-root price of 3/2, seven units are worth 15.75 and are reported as 15. -/
theorem whirlpool_pricing_sample :
    ∃ v, MapleSyrup.whirlpoolValueUsdc (whirlpoolOf (3 * 2 ^ 63)) 7 = .ok v ∧
      v.toNat ≤ 15 ∧ 15 - v.toNat ≤ 2 := by
  obtain ⟨hpriced, -⟩ := @whirlpool_pricing (whirlpoolOf (3 * 2 ^ 63)) (by decide +kernel) 7
  have hsp : sqrtPrice (whirlpoolOf (3 * 2 ^ 63)) = 3 * 2 ^ 63 := by decide +kernel
  rw [hsp] at hpriced
  obtain ⟨v, hv, hle, hgap, -⟩ := hpriced (by decide)
  have hunits : 3 * 2 ^ 63 ⌈/⌉ 2 ^ 64 ≤ 2 := by
    rw [ceilDiv_le_iff_le_smul (by decide)]
    decide
  exact ⟨v, hv, hle, hgap.trans hunits⟩

/-! ### MarginFi -/

section Marginfi

variable {assetShares shareValue : Int}

/-- Both operands lose 16 bits and the product another 64. -/
def usdcOfShares (shareValue : Int) (shares : Nat) : Nat :=
  truncated (2 ^ 16) (2 ^ 64) shareValue.toNat shares

theorem sharesToUsdc_ok {v : UInt64} :
    MarginfiUsdc.sharesToUsdc assetShares shareValue = .ok v ↔
      assetShares.toNat / 2 ^ 16 * (shareValue.toNat / 2 ^ 16) < 2 ^ 128 ∧
        v.toNat = usdcOfShares shareValue assetShares.toNat := by
  unfold MarginfiUsdc.sharesToUsdc usdcOfShares truncated
  split_ifs with hnone
  · have hzero : assetShares.toNat / 2 ^ 16 * (shareValue.toNat / 2 ^ 16) = 0 := by
      rcases hnone with hshares | hvalue
      · simp [Int.toNat_of_nonpos hshares]
      · simp [Int.toNat_of_nonpos hvalue]
    rw [hzero]
    simp only [Nat.zero_div, Nat.two_pow_pos, true_and]
    exact ok_zero_iff
  · simp only [except_bind_ok, check_ok, exists_and_left, exists_const, Nat.shiftRight_eq_div_pow]
    refine and_congr_right fun hproduct => ?_
    -- a product of 128 bits leaves 64 after the shift, so the last cast loses nothing
    have hword : assetShares.toNat / 2 ^ 16 * (shareValue.toNat / 2 ^ 16) / 2 ^ 64 < 2 ^ 64 := by
      omega
    exact ok_ofNat_iff hword

/-- The shares' worth in base units, exactly, rounded down once. -/
abbrev exactUsdc (assetShares shareValue : Int) : Nat :=
  assetShares.toNat * shareValue.toNat / 2 ^ 96

/-- Less than two base units' worth is cut off: the low 16 bits of the shares times the
share value, the low 16 bits of the share value times the rest of the shares, and the
low 64 bits of the product of what remains. -/
def CutsLessThanTwo (assetShares shareValue : Int) : Prop :=
  dropped (2 ^ 16) (2 ^ 64) shareValue.toNat assetShares.toNat < 2 * 2 ^ 96

instance (assetShares shareValue : Int) : Decidable (CutsLessThanTwo assetShares shareValue) :=
  inferInstanceAs (Decidable (_ < _))

/-- Where the exact value fits, a value is reported, never above it, and it is within one
base unit exactly when less than two units' worth is cut off. -/
theorem sharesToUsdc_precise_iff
    (hfits : exactUsdc assetShares shareValue < 2 ^ 64) :
    (∃ v, MarginfiUsdc.sharesToUsdc assetShares shareValue = .ok v ∧
        v.toNat ≤ exactUsdc assetShares shareValue ∧
        exactUsdc assetShares shareValue - v.toNat ≤ 1) ↔
      CutsLessThanTwo assetShares shareValue := by
  have hk : (0 : Nat) < 2 ^ 16 := by decide
  have hd : (0 : Nat) < 2 ^ 64 := by decide
  have hfloor := @truncated_le assetShares.toNat shareValue.toNat _ _ hk hd
  have hgap := @le_truncated_add_iff assetShares.toNat shareValue.toNat _ _ hk hd 1
  have hcut := @cut_mul_le assetShares.toNat shareValue.toNat _ hk
  -- what is cut off only lowers the product
  have hproduct : assetShares.toNat / 2 ^ 16 * (shareValue.toNat / 2 ^ 16) < 2 ^ 128 := by
    unfold exactUsdc at hfits
    omega
  have hword : usdcOfShares shareValue assetShares.toNat < 2 ^ 64 := lt_of_le_of_lt hfloor hfits
  unfold CutsLessThanTwo
  refine Iff.trans ?_ hgap
  -- both sides speak of the distance between the two quotients
  constructor
  · rintro ⟨v, hv, -, hclose⟩
    have hval := (sharesToUsdc_ok.mp hv).2
    unfold usdcOfShares at hval
    unfold exactUsdc at hclose
    omega
  · intro hclose
    have hval : (UInt64.ofNat (usdcOfShares shareValue assetShares.toNat)).toNat =
        usdcOfShares shareValue assetShares.toNat := UInt64.toNat_ofNat_of_lt' hword
    refine ⟨_, sharesToUsdc_ok.mpr ⟨hproduct, hval⟩, ?_, ?_⟩
    · rw [hval]
      exact hfloor
    · rw [hval, Nat.sub_le_iff_le_add']
      exact hclose

end Marginfi

/-- A hundred dollars of shares at one share a unit are reported in full. -/
theorem sharesToUsdc_precise_sample :
    ∃ v, MarginfiUsdc.sharesToUsdc (100000000 * 2 ^ 48) (2 ^ 48) = .ok v ∧
      v.toNat ≤ 100000000 ∧ 100000000 - v.toNat ≤ 1 :=
  (@sharesToUsdc_precise_iff (100000000 * 2 ^ 48) (2 ^ 48) (by decide)).mpr (by decide)

/-- Shares of 2^40 units at a share value of 1 + 65535 · 2^-48 are reported 255 units short. -/
theorem sharesToUsdc_short :
    MarginfiUsdc.sharesToUsdc (2 ^ 88) (2 ^ 48 + 65535) = .ok (2 ^ 40) ∧
      exactUsdc (2 ^ 88) (2 ^ 48 + 65535) = 2 ^ 40 + 255 := by
  decide +kernel

/-! ### Splitting a holding -/

/-- Shares held as a `u64`. -/
def wordHolds (shares : UInt64) (quantity : Nat) : Prop := shares.toNat = quantity

/-- Shares held in the bytes of a Drift stake. -/
def stakeHolds (ifStakeData : Bytes) (quantity : Nat) : Prop :=
  DriftIf.stakeShares ifStakeData = .ok quantity

/-- Shares held as a non-negative `i128`. -/
def assetHolds (shares : Int) (quantity : Nat) : Prop := shares = quantity ∧ quantity < 2 ^ 127

/-- The quantities a pro-rata price is defined for and fits its word. -/
def proRataFits (amount supply quantity : Nat) : Prop :=
  quantity = 0 ∨ 0 < supply ∧ quantity * amount / supply < 2 ^ 64

theorem proRataFits_of_le {amount supply a b : Nat} (hle : a ≤ b)
    (h : proRataFits amount supply b) : proRataFits amount supply a := by
  by_cases hzero : a = 0
  · exact .inl hzero
  · rcases h with hnone | ⟨hsupply, hfits⟩
    · omega
    · have hquotient : a * amount / supply ≤ b * amount / supply :=
        Nat.div_le_div_right (Nat.mul_le_mul_right amount hle)
      exact .inr ⟨hsupply, lt_of_le_of_lt hquotient hfits⟩

theorem quoted_collateralValueUsdc (reserveData : Bytes) :
    Quoted wordHolds (KaminoUsdc.collateralValueUsdc reserveData)
      (fun a => 2600 ≤ reserveData.length ∧
        proRataFits (totalLiquidity reserveData) (leAt 8 reserveData 2592) a)
      fun a => a * totalLiquidity reserveData / leAt 8 reserveData 2592 where
  quote := by
    rintro shares _ v rfl
    rw [and_assoc]
    constructor
    · intro h
      -- the supply is the last field read
      have hlong : 2600 ≤ reserveData.length := by
        have hread := h
        simp only [KaminoUsdc.collateralValueUsdc, except_bind_ok] at hread
        obtain ⟨_, -, _, -, _, hsupply, -⟩ := hread
        exact (readField_ok.mp hsupply).1
      rw [collateralValueUsdc_eq hlong] at h
      exact ⟨hlong, proRataPrice_ok.mp h⟩
    · rintro ⟨hlong, hpriced⟩
      rw [collateralValueUsdc_eq hlong]
      exact proRataPrice_ok.mpr hpriced
  fits_of_le hle := And.imp_right (proRataFits_of_le hle)
  superadditive := .proRata _ _

theorem quoted_lpValueUsdc (poolData lpMintData : Bytes) :
    Quoted wordHolds (JupiterLp.lpValueUsdc poolData lpMintData)
      (fun a => a = 0 ∨ (196 ≤ poolData.length ∧ 44 ≤ lpMintData.length) ∧
        proRataFits (leAt 16 poolData 180) (leAt 8 lpMintData 36) a)
      fun a => a * leAt 16 poolData 180 / leAt 8 lpMintData 36 where
  quote := by
    rintro shares _ v rfl
    by_cases hzero : shares.toNat = 0
    · -- nothing is read for an empty balance
      obtain rfl : shares = 0 := UInt64.toNat_inj.mp hzero
      simp only [UInt64.toNat_zero, Nat.zero_mul, Nat.zero_div, true_or, true_and]
      exact ok_zero_iff
    rw [or_iff_right hzero, and_assoc]
    constructor
    · intro h
      have hlong : 196 ≤ poolData.length ∧ 44 ≤ lpMintData.length := by
        have hread := h
        unfold JupiterLp.lpValueUsdc at hread
        rw [if_neg (fun h => hzero (by rw [h]; rfl))] at hread
        simp only [except_bind_ok] at hread
        obtain ⟨_, haum, _, hsupply, -⟩ := hread
        exact ⟨(readField_ok.mp haum).1, (readField_ok.mp hsupply).1⟩
      rw [lpValueUsdc_eq hlong.1 hlong.2] at h
      exact ⟨hlong, proRataPrice_ok.mp h⟩
    · rintro ⟨hlong, hpriced⟩
      rw [lpValueUsdc_eq hlong.1 hlong.2]
      exact proRataPrice_ok.mpr hpriced
  fits_of_le := by
    rintro a b hle (hnone | ⟨hlong, hfits⟩)
    · exact .inl (by omega)
    · exact .inr ⟨hlong, proRataFits_of_le hle hfits⟩
  superadditive := .proRata _ _

theorem quoted_stakeValueUsdc (spotMarketData ifVaultData : Bytes) :
    Quoted stakeHolds (fun stake => DriftIf.stakeValueUsdc stake spotMarketData ifVaultData)
      (fun a => a = 0 ∨ 352 ≤ spotMarketData.length ∧ fundShares spotMarketData ≠ 0 ∧
        72 ≤ ifVaultData.length ∧ a * vaultBalance ifVaultData < 2 ^ 128)
      fun a => a * vaultBalance ifVaultData / fundShares spotMarketData where
  quote := by
    intro stake a v hstake
    obtain ⟨(hlong : 56 ≤ stake.length), ha⟩ := readField_ok.mp hstake
    obtain rfl : a = ifShares stake := ha
    rw [stakeValueUsdc_ok, and_iff_right hlong]
    by_cases hzero : ifShares stake = 0
    · simp [hzero, ← UInt64.toNat_inj]
    · simp [hzero, and_assoc]
  fits_of_le := by
    rintro a b hle (hnone | ⟨hspot, hfund, hvault, hproduct⟩)
    · exact .inl (by omega)
    · exact .inr ⟨hspot, hfund, hvault,
        lt_of_le_of_lt (Nat.mul_le_mul_right _ hle) hproduct⟩
  superadditive := .proRata _ _

theorem quoted_sharesToUsdc (shareValue : Int) :
    Quoted assetHolds (fun shares => MarginfiUsdc.sharesToUsdc shares shareValue)
      (fun a => a / 2 ^ 16 * (shareValue.toNat / 2 ^ 16) < 2 ^ 128) (usdcOfShares shareValue) where
  quote := by
    rintro shares a v ⟨rfl, -⟩
    rw [sharesToUsdc_ok, Int.toNat_natCast]
  fits_of_le hle hproduct :=
    lt_of_le_of_lt (Nat.mul_le_mul_right _ (Nat.div_le_div_right hle)) hproduct
  superadditive := superadditive_truncated _ _ _

theorem quoted_whirlpoolValueUsdc (wpData : Bytes) :
    Quoted wordHolds (MapleSyrup.whirlpoolValueUsdc wpData)
      (fun a => a = 0 ∨ 81 ≤ wpData.length ∧ a * sqrtPrice wpData < 2 ^ 128 ∧
        a * sqrtPrice wpData / 2 ^ 64 * sqrtPrice wpData < 2 ^ 128)
      (staged (sqrtPrice wpData) (2 ^ 64)) where
  quote := by
    rintro shares _ v rfl
    rw [whirlpoolValueUsdc_ok, ← UInt64.toNat_inj, UInt64.toNat_zero]
  fits_of_le := by
    rintro a b hle (hnone | ⟨hlong, hfirst, hsecond⟩)
    · exact .inl (by omega)
    · have hstage := Nat.mul_le_mul_right (sqrtPrice wpData) hle
      refine .inr ⟨hlong, lt_of_le_of_lt hstage hfirst, lt_of_le_of_lt ?_ hsecond⟩
      exact Nat.mul_le_mul_right _ (Nat.div_le_div_right hstage)
  superadditive := superadditive_staged _ _

/-- With the protocol's data held fixed, no pricing function rewards cutting a holding into
pieces, and the three that divide once lose at most one unit to a cut in two. -/
theorem splitting_never_creates_value (reserveData poolData lpMintData spotMarketData ifVaultData
    wpData : Bytes) (shareValue : Int) :
    (SplitProof wordHolds (KaminoUsdc.collateralValueUsdc reserveData) ∧
      SplitProof wordHolds (JupiterLp.lpValueUsdc poolData lpMintData) ∧
      SplitProof stakeHolds (fun stake =>
        DriftIf.stakeValueUsdc stake spotMarketData ifVaultData) ∧
      SplitProof assetHolds (fun shares => MarginfiUsdc.sharesToUsdc shares shareValue) ∧
      SplitProof wordHolds (MapleSyrup.whirlpoolValueUsdc wpData)) ∧
    LosesUnit wordHolds (KaminoUsdc.collateralValueUsdc reserveData) ∧
    LosesUnit wordHolds (JupiterLp.lpValueUsdc poolData lpMintData) ∧
    LosesUnit stakeHolds (fun stake =>
      DriftIf.stakeValueUsdc stake spotMarketData ifVaultData) :=
  ⟨⟨(quoted_collateralValueUsdc reserveData).splitProof,
      (quoted_lpValueUsdc poolData lpMintData).splitProof,
      (quoted_stakeValueUsdc spotMarketData ifVaultData).splitProof,
      (quoted_sharesToUsdc shareValue).splitProof,
      (quoted_whirlpoolValueUsdc wpData).splitProof⟩,
    (quoted_collateralValueUsdc reserveData).losesUnit,
    (quoted_lpValueUsdc poolData lpMintData).losesUnit,
    (quoted_stakeValueUsdc spotMarketData ifVaultData).losesUnit⟩

end YieldAdapter

import ChannelSurvey.Decimal.Nearest
import ChannelSurvey.Proofs.Binary.Arithmetic

/-!
# The share of a count grows with the share

A count is turned into a float, multiplied by a share, and the product is turned into the nearest count:
three roundings. None of them turns the order of two shares around.

**The laws**: of two shares between zero and one, the greater one has at least as great a share of every count
(`nearestCount_mul_mono`); and no share of a count with at most 53 digits exceeds it (`nearestCount_mul_le`).
Both follow from what the product stands for (`reads_product`), since the nearest float and the nearest count keep
the order of numbers.
-/

namespace ChannelSurvey.Binary

open Decimal (nearestNat nearestCount)
open Float.Model (UnpackedFloat)
open Float.Model.UnpackedFloat (Sign)

variable {x y : Float} {a b : ℚ}

/-! ## The nearest count -/

theorem floor_natCast_add_half (n : ℕ) : ⌊(n : ℚ) + 1 / 2⌋₊ = n := by
  rw [Nat.floor_eq_iff (by positivity)]
  constructor
  · exact le_add_of_nonneg_right (by norm_num)
  · exact add_lt_add_of_le_of_lt le_rfl (by norm_num)

/-- The nearest whole number is the whole part of what is a half more. -/
theorem nearestNat_eq (m : ℕ) (e : ℤ) : nearestNat m e = ⌊(m : ℚ) * 2 ^ e + 1 / 2⌋₊ := by
  match e with
  | .ofNat up =>
    have hvalue : (m : ℚ) * 2 ^ (Int.ofNat up) = (m * 2 ^ up : ℕ) := by
      push_cast
      rfl
    rw [hvalue, floor_natCast_add_half]
    rfl
  | .negSucc down =>
    have hvalue : (m : ℚ) * 2 ^ (Int.negSucc down) + 1 / 2 = (m + 2 ^ down : ℕ) / (2 ^ (down + 1) : ℕ) := by
      rw [zpow_negSucc]
      push_cast
      rw [pow_succ]
      field_simp
    rw [hvalue, Nat.floor_div_eq_div]
    rfl

/-- The count nearest to what a float stands for. -/
theorem nearestCount_of_reads (h : Reads x a) :
    nearestCount x = UInt64.ofNat (min ⌊a + 1 / 2⌋₊ (UInt64.size - 1)) := by
  unfold Reads at h
  unfold nearestCount
  generalize x.toModel.unpack = u at h
  cases h with
  | zero s =>
    have hnone : ⌊(0 : ℚ) + 1 / 2⌋₊ = 0 := floor_natCast_add_half 0
    rw [hnone]
    rfl
  | @finite m e pos kept => rw [← nearestNat_eq]

/-- A count that is too large is the largest there is, which keeps the order too. -/
theorem ofNat_min_le {k l : Nat} (h : k ≤ l) :
    UInt64.ofNat (min k (UInt64.size - 1)) ≤ UInt64.ofNat (min l (UInt64.size - 1)) := by
  have hfits (n : Nat) : min n (UInt64.size - 1) < UInt64.size :=
    Nat.lt_of_le_of_lt (Nat.min_le_right ..) (by decide)
  rw [UInt64.le_iff_toNat_le, UInt64.toNat_ofNat_of_lt' (hfits k), UInt64.toNat_ofNat_of_lt' (hfits l)]
  omega

theorem nearestCount_mono (hx : Reads x a) (hy : Reads y b) (h : a ≤ b) : nearestCount x ≤ nearestCount y := by
  rw [nearestCount_of_reads hx, nearestCount_of_reads hy]
  exact ofNat_min_le (Nat.floor_mono (add_le_add_left h _))

/-- A float that stands for a count is nearest to it. -/
theorem nearestCount_of_count {n : UInt64} (h : Reads x n.toNat) : nearestCount x = n := by
  rw [nearestCount_of_reads h, floor_natCast_add_half, min_eq_left (Nat.le_sub_one_of_lt n.toNat_lt)]
  exact UInt64.ofNat_toNat

/-! ## Shares -/

/-- A share stands for a number between zero and one. -/
theorem reads_share (low : 0.0 ≤ x) (high : x ≤ 1.0) : ∃ a, Reads x a ∧ a ≤ 1 := by
  have hnumber := (numbers_of_le low).2
  have hreads : ∃ a, Reads x a := by
    unfold Reads
    rw [le_iff_place (by decide) hnumber, place, place, unpack_zero] at low
    rw [le_iff_place hnumber (by decide), place, place, unpack_one] at high
    cases hparts : x.toModel.unpack with
    | notANumber =>
      have hnan : x.toModel.unpack.isNaN = false := hnumber
      rw [hparts] at hnan
      cases hnan
    | infinity s =>
      rw [hparts] at low high
      cases s
      · exact absurd low (by decide)
      · exact absurd high (by decide)
    | zero s => exact ⟨_, .zero s⟩
    | finite s m e pos =>
      cases s with
      | negative =>
        rw [hparts] at low
        simp only [unpackedPlace, Prod.Lex.toLex_le_toLex] at low
        omega
      | positive => exact ⟨_, .finite (canonical_unpack hparts)⟩
  obtain ⟨a, h⟩ := hreads
  exact ⟨a, h, (h.le_iff reads_one).mp high⟩

theorem Small.of_share (low : 0.0 ≤ x) (high : x ≤ 1.0) : Small (-52) x := by
  obtain ⟨a, h, hone⟩ := reads_share low high
  exact Stands.bounded h (hone.trans_lt (by norm_num)) (by decide)

/-- The product of a count and a share. -/
theorem reads_product (n : UInt64) (h : Reads x a) (share : a ≤ 1) :
    Reads (n.toFloat * x) (nearest (nearest n.toNat * a)) := by
  refine (reads_toFloat n).mul h ?_
  have hcount : nearest n.toNat ≤ 2 ^ (64 : ℤ) :=
    nearest_le_two_zpow (by decide) (Nat.cast_nonneg _) (by exact_mod_cast n.toNat_lt.le)
  calc nearest n.toNat * a
    _ ≤ nearest n.toNat := mul_le_of_le_one_right (nearest_nonneg _) share
    _ ≤ 2 ^ (64 : ℤ) := hcount
    _ ≤ 2 ^ (1000 : ℤ) := zpow_le_zpow_right₀ one_le_two (by decide)

/-- **The share of a count grows with the share.** -/
theorem nearestCount_mul_mono (n : UInt64) (low : 0.0 ≤ x) (le : x ≤ y) (high : y ≤ 1.0) :
    nearestCount (n.toFloat * x) ≤ nearestCount (n.toFloat * y) := by
  obtain ⟨a, hx, ha⟩ := reads_share low (number_le_trans le high)
  obtain ⟨b, hy, hb⟩ := reads_share (number_le_trans low le) high
  refine nearestCount_mono (reads_product n hx ha) (reads_product n hy hb) ?_
  refine nearest_mono (mul_nonneg (nearest_nonneg _) hx.nonneg) ?_
  exact mul_le_mul_of_nonneg_left ((hx.le_iff hy).mp le) (nearest_nonneg _)

/-- **A share of a count does not exceed it**, when the count is a float with all its digits. -/
theorem nearestCount_mul_le {n : UInt64} (fits : n.toNat < 2 ^ 53) (low : 0.0 ≤ x) (high : x ≤ 1.0) :
    nearestCount (n.toFloat * x) ≤ n := by
  have hone : Reads (n.toFloat * 1.0) n.toNat := by
    have h := reads_product n reads_one le_rfl
    rwa [mul_one, nearest_natCast fits, nearest_natCast fits] at h
  have hmono := nearestCount_mul_mono n low high (number_le_refl (by decide))
  rwa [nearestCount_of_count hone] at hmono

/-- What is no number is no share of a count. -/
theorem nearestCount_mul_notANumber (n : UInt64) (none : x.isNaN = true) : nearestCount (n.toFloat * x) = 0 := by
  have hx : x.toModel.unpack = .notANumber := by
    have hnan : x.toModel.unpack.isNaN = true := none
    cases h : x.toModel.unpack with
    | notANumber => rfl
    | _ =>
      rw [h] at hnan
      cases hnan
  have hmul (u : UnpackedFloat) : UnpackedFloat.mul .binary64 u .notANumber = .notANumber := by cases u <;> rfl
  have hproduct : (n.toFloat * x).toModel.unpack = .notANumber := by
    show Float.Model.unpack (.pack (UnpackedFloat.mul .binary64 n.toFloat.toModel.unpack x.toModel.unpack)) = _
    rw [hx, hmul]
    rfl
  rw [nearestCount, hproduct]

end ChannelSurvey.Binary

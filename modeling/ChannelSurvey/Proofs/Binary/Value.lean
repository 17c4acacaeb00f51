import ChannelSurvey.Proofs.Binary.Rounding
import ChannelSurvey.Proofs.Score.Order

/-!
# The numbers floats stand for

A rational number is rounded to whole units of a power of two, as many as 53 digits hold: `nearest` says to which
number. `Stands` says which number a float that is zero or positive stands for.

**The laws**: rounding keeps the order of numbers (`nearest_mono`) and leaves alone what a float can be
(`nearest_of_fits`); floats are in the order of what they stand for (`place_le_iff`). So a result can be bounded, or
compared with another, by what it would be without rounding.

The order of two rounded numbers rests on one fact. Either they are rounded to units of one size, and whole numbers
keep the order; or the units of the greater number are greater, and a power of two lies between the two results.
-/

namespace ChannelSurvey.Binary

open Decimal (roundDiv)
open Float.Model (UnpackedFloat)
open Float.Model.UnpackedFloat (Sign)

variable {m : Nat} {e : Int} {a b : ℚ}

/-! ## The nearest whole number -/

/-- The whole number nearest to a quantity; a half goes to the even neighbour, and what is negative to zero. -/
def nearestWhole (a : ℚ) : ℕ :=
  roundDiv a.num.toNat a.den

/-- Rounding to a whole number respects the order. -/
theorem nearestWhole_mono (h : a ≤ b) : nearestWhole a ≤ nearestWhole b := by
  have hcross : a.num.toNat * b.den ≤ b.num.toNat * a.den := by
    have hle := Rat.le_iff a b |>.mp h
    rcases Int.le_total 0 a.num with hpos | hneg
    · have hb : 0 ≤ b.num := Rat.num_nonneg.mpr (le_trans (Rat.num_nonneg.mp hpos) h)
      zify
      rwa [Int.toNat_of_nonneg hpos, Int.toNat_of_nonneg hb]
    · rw [Int.toNat_of_nonpos hneg, Nat.zero_mul]
      exact Nat.zero_le _
  calc nearestWhole a
    _ = roundDiv (a.num.toNat * b.den) (a.den * b.den) := (Decimal.roundDiv_mul_mul _ _ b.den_pos).symm
    _ ≤ roundDiv (b.num.toNat * a.den) (a.den * b.den) := Decimal.roundDiv_mono hcross _
    _ = roundDiv (b.num.toNat * a.den) (b.den * a.den) := by rw [Nat.mul_comm a.den]
    _ = nearestWhole b := Decimal.roundDiv_mul_mul _ _ a.den_pos

/-- On a quotient of natural numbers it is the rounded division of the code. -/
theorem nearestWhole_div (num : ℕ) {den : ℕ} (pos : 0 < den) : nearestWhole (num / den) = roundDiv num den := by
  have hden : (den : ℚ) ≠ 0 := Nat.cast_ne_zero.mpr (Nat.ne_of_gt pos)
  have hnum : 0 ≤ ((num : ℚ) / den).num := Rat.num_nonneg.mpr (by positivity)
  have hcross : ((num : ℚ) / den).num.toNat * den = num * ((num : ℚ) / den).den := by
    zify
    rw [Int.toNat_of_nonneg hnum]
    have hvalue : ((num : ℚ) / den).num / ((num : ℚ) / den).den = (num : ℚ) / den := Rat.num_div_den _
    rw [div_eq_div_iff (by exact_mod_cast ((num : ℚ) / den).den_ne_zero) hden] at hvalue
    exact_mod_cast hvalue
  calc nearestWhole (num / den)
    _ = roundDiv (((num : ℚ) / den).num.toNat * den) (((num : ℚ) / den).den * den) :=
      (Decimal.roundDiv_mul_mul _ _ pos).symm
    _ = roundDiv (num * ((num : ℚ) / den).den) (den * ((num : ℚ) / den).den) := by rw [hcross, Nat.mul_comm den]
    _ = roundDiv num den := Decimal.roundDiv_mul_mul _ _ (Rat.den_pos _)

/-- A natural number rounds to itself. -/
theorem nearestWhole_natCast (n : ℕ) : nearestWhole n = n := by
  rw [nearestWhole, Rat.num_natCast, Rat.den_natCast, Int.toNat_natCast]
  simpa using Decimal.roundDiv_mul n Nat.one_pos

/-! ## The nearest float -/

/-- The exponent of the units a number is rounded to: they leave 53 digits, unless that were finer than there is. -/
def unit (a : ℚ) : ℤ :=
  max (Int.log 2 a - 52) (-1074)

/-- How many of these units a number is nearest to. -/
def units (a : ℚ) : ℕ :=
  nearestWhole (a / 2 ^ unit a)

/-- The number nearest to `a` among those that a float can be, unless `a` is negative or too large. -/
def nearest (a : ℚ) : ℚ :=
  units a * 2 ^ unit a

/-- The least unit is that of the subnormal numbers. -/
theorem bottom_le_unit (a : ℚ) : -1074 ≤ unit a :=
  le_max_right ..

theorem two_zpow_pos (e : ℤ) : (0 : ℚ) < 2 ^ e :=
  zpow_pos two_pos e

/-- Bounds on the binary logarithm of a rational number, from above. -/
theorem log_lt_iff (pos : 0 < a) (k : ℤ) : Int.log 2 a < k ↔ a < 2 ^ k := by
  have h := Int.lt_zpow_iff_log_lt Nat.one_lt_two pos (b := 2) (x := k)
  rw [Nat.cast_ofNat] at h
  exact h.symm

/-- And from below. -/
theorem le_log_iff (pos : 0 < a) (k : ℤ) : k ≤ Int.log 2 a ↔ 2 ^ k ≤ a := by
  have h := Int.zpow_le_iff_le_log Nat.one_lt_two pos (b := 2) (x := k)
  rw [Nat.cast_ofNat] at h
  exact h.symm

/-- Larger numbers have no smaller units. -/
theorem unit_mono (pos : 0 < a) (h : a ≤ b) : unit a ≤ unit b :=
  max_le_max (sub_le_sub_right (Int.log_mono_right pos h) _) le_rfl

/-- No more than 53 digits are used. -/
theorem lt_of_unit (pos : 0 < a) : a < 2 ^ (53 + unit a) := by
  rw [← log_lt_iff pos]
  unfold unit
  omega

/-- Above the finest units, all 53 digits are used. -/
theorem le_of_unit (pos : 0 < a) (above : -1074 < unit a) : 2 ^ (52 + unit a) ≤ a := by
  rw [← le_log_iff pos]
  unfold unit at *
  omega

/-- Fifty-three digits in a unit are enough to bound the unit of a number. -/
theorem unit_le (pos : 0 < a) (fits : a < 2 ^ (53 + e)) (bottom : -1074 ≤ e) : unit a ≤ e := by
  rw [← log_lt_iff pos] at fits
  unfold unit
  omega

theorem nearest_zero : nearest 0 = 0 := by
  rw [nearest, units, zero_div, ← Nat.cast_zero, nearestWhole_natCast, Nat.cast_zero, zero_mul]

/-- A whole number of units, not finer than those of the digits, is kept as it is. -/
theorem nearest_units {n : ℕ} {t : ℤ} (h : unit (n * 2 ^ t) ≤ t) : nearest (n * 2 ^ t) = n * 2 ^ t := by
  obtain ⟨k, hk⟩ := Int.le.dest h
  have hunits : (n : ℚ) * 2 ^ t / 2 ^ unit (n * 2 ^ t) = (n * 2 ^ k : ℕ) := by
    rw [div_eq_iff (two_zpow_pos _).ne']
    nth_rewrite 1 [← hk]
    rw [zpow_add₀ two_ne_zero, zpow_natCast]
    push_cast
    ring
  rw [nearest, units, hunits, nearestWhole_natCast, ← hunits, div_mul_cancel₀ _ (two_zpow_pos _).ne']

/-- **What a float can be is kept as it is.** -/
theorem nearest_of_fits (fits : m < 2 ^ 53) (bottom : -1074 ≤ e) : nearest (m * 2 ^ e) = m * 2 ^ e := by
  rcases Nat.eq_zero_or_pos m with rfl | pos
  · rw [Nat.cast_zero, zero_mul, nearest_zero]
  · have hpos : (0 : ℚ) < m * 2 ^ e := mul_pos (Nat.cast_pos.mpr pos) (two_zpow_pos e)
    refine nearest_units (unit_le hpos ?_ bottom)
    rw [zpow_add₀ two_ne_zero]
    exact mul_lt_mul_of_pos_right (by exact_mod_cast fits) (two_zpow_pos e)

/-- Powers of two in the range of exponents are exact. -/
theorem nearest_two_zpow (bottom : -1074 ≤ e) : nearest (2 ^ e) = 2 ^ e := by
  have h := nearest_of_fits (m := 1) (by decide) bottom
  rwa [Nat.cast_one, one_mul] at h

/-- So are the natural numbers of at most fifty-three digits. -/
theorem nearest_natCast {n : ℕ} (fits : n < 2 ^ 53) : nearest n = n := by
  have h := nearest_of_fits (e := 0) fits (by decide)
  rwa [zpow_zero, mul_one] at h

/-- A number never has more than `2 ^ 53` of its units, however it rounds. -/
theorem units_le (pos : 0 < a) : units a ≤ 2 ^ 53 := by
  have hdigits : a / 2 ^ unit a ≤ ((2 ^ 53 : ℕ) : ℚ) := by
    rw [div_le_iff₀ (two_zpow_pos _)]
    refine (lt_of_unit pos).le.trans_eq ?_
    rw [zpow_add₀ two_ne_zero]
    norm_cast
  have hwhole := nearestWhole_mono hdigits
  rwa [nearestWhole_natCast] at hwhole

/-- Above the finest units, a rounded number uses all 53 digits too. -/
theorem le_units (pos : 0 < a) (above : -1074 < unit a) : 2 ^ 52 ≤ units a := by
  have hdigits : ((2 ^ 52 : ℕ) : ℚ) ≤ a / 2 ^ unit a := by
    rw [le_div_iff₀ (two_zpow_pos _)]
    refine Eq.trans_le ?_ (le_of_unit pos above)
    rw [zpow_add₀ two_ne_zero]
    norm_cast
  have hwhole := nearestWhole_mono hdigits
  rwa [nearestWhole_natCast] at hwhole

theorem nearest_nonneg (a : ℚ) : 0 ≤ nearest a :=
  mul_nonneg (Nat.cast_nonneg _) (two_zpow_pos _).le

/-- **Rounding keeps the order of numbers.** -/
theorem nearest_mono (nonneg : 0 ≤ a) (h : a ≤ b) : nearest a ≤ nearest b := by
  rcases nonneg.eq_or_lt with rfl | pos
  · rw [nearest_zero]
    exact nearest_nonneg b
  · have hpos : 0 < b := pos.trans_le h
    have hunit := unit_mono pos h
    rcases hunit.eq_or_lt with heq | hlt
    · rw [nearest, nearest, units, units, heq]
      refine mul_le_mul_of_nonneg_right (Nat.cast_le.mpr (nearestWhole_mono ?_)) (two_zpow_pos _).le
      exact div_le_div_of_nonneg_right h (two_zpow_pos _).le
    · have hbottom := bottom_le_unit a
      calc nearest a
        _ ≤ 2 ^ 53 * 2 ^ unit a :=
          mul_le_mul_of_nonneg_right (by exact_mod_cast units_le pos) (two_zpow_pos _).le
        _ = 2 ^ 52 * 2 ^ (unit a + 1) := by
          rw [zpow_add₀ two_ne_zero]
          ring
        _ ≤ 2 ^ 52 * 2 ^ unit b := mul_le_mul_of_nonneg_left (zpow_le_zpow_right₀ one_le_two hlt) (by positivity)
        _ ≤ nearest b :=
          mul_le_mul_of_nonneg_right (by exact_mod_cast le_units hpos (by omega)) (two_zpow_pos _).le

/-- Rounding never crosses a power of two from above. -/
theorem two_zpow_le_nearest (bottom : -1074 ≤ e) (h : 2 ^ e ≤ a) : 2 ^ e ≤ nearest a :=
  (nearest_two_zpow bottom).symm.trans_le (nearest_mono (two_zpow_pos e).le h)

/-- Nor from below. -/
theorem nearest_le_two_zpow (bottom : -1074 ≤ e) (nonneg : 0 ≤ a) (h : a ≤ 2 ^ e) : nearest a ≤ 2 ^ e :=
  (nearest_mono nonneg h).trans_eq (nearest_two_zpow bottom)

/-! ## What a float stands for -/

/-- **A float that is zero or positive**, as the machine keeps it, and the number it stands for. -/
inductive Stands : UnpackedFloat → ℚ → Prop where
  | zero (s : Sign) : Stands (.zero s) 0
  | finite {m : Nat} {e : Int} {pos : 0 < m} (kept : Canonical m e) : Stands (.finite .positive m e pos) (m * 2 ^ e)

variable {u v : UnpackedFloat}

/-- Whatever stands for a number stands for one that is not negative. -/
theorem Stands.nonneg (h : Stands u a) : 0 ≤ a := by
  cases h with
  | zero s => exact le_rfl
  | finite kept => exact mul_nonneg (Nat.cast_nonneg _) (two_zpow_pos _).le

/-- A number less than a power of two is bounded by it. -/
theorem Stands.bounded {k : Int} (h : Stands u a) (fits : a < 2 ^ (53 + k)) (bottom : -1074 ≤ k) : Bounded k u := by
  cases h with
  | zero s => trivial
  | @finite m e pos kept =>
    refine ⟨kept, ?_⟩
    by_contra habove
    have hfull : 2 ^ 52 ≤ m := kept.full.resolve_right (by omega)
    have hle : (2 : ℚ) ^ (53 + k) ≤ m * 2 ^ e := by
      calc (2 : ℚ) ^ (53 + k)
        _ = 2 ^ 52 * 2 ^ (k + 1) := by
          rw [zpow_add₀ two_ne_zero, zpow_add₀ two_ne_zero]
          ring
        _ ≤ m * 2 ^ e :=
          mul_le_mul (by exact_mod_cast hfull) (zpow_le_zpow_right₀ one_le_two (by omega)) (two_zpow_pos _).le
            (Nat.cast_nonneg m)
    exact absurd fits (not_lt.mpr hle)

/-! ## Order -/

/-- The place of an unpacked number in the order of the code decides the order of the rationals. -/
theorem lt_of_place_lt (hu : Stands u a) (hv : Stands v b) (h : unpackedPlace u < unpackedPlace v) : a < b := by
  cases hv with
  | zero t =>
    cases hu with
    | zero s => exact absurd h (lt_irrefl _)
    | finite kept => exact absurd h (by simp [unpackedPlace, Prod.Lex.toLex_lt_toLex])
  | @finite m' e' pos' kept' =>
    cases hu with
    | zero s => exact mul_pos (Nat.cast_pos.mpr pos') (two_zpow_pos e')
    | @finite m e pos kept =>
      simp only [unpackedPlace, Prod.Lex.toLex_lt_toLex, lt_self_iff_false, true_and, false_or] at h
      rcases h with hlt | ⟨rfl, hlt⟩
      · -- with the greater exponent, all digits are used
        have hbottom := kept.bottom
        have hfull : 2 ^ 52 ≤ m' := kept'.full.resolve_right (by omega)
        calc (m : ℚ) * 2 ^ e
          _ < 2 ^ 53 * 2 ^ e := mul_lt_mul_of_pos_right (by exact_mod_cast kept.fits) (two_zpow_pos e)
          _ = 2 ^ 52 * 2 ^ (e + 1) := by
            rw [zpow_add₀ two_ne_zero]
            ring
          _ ≤ m' * 2 ^ e' :=
            mul_le_mul (by exact_mod_cast hfull) (zpow_le_zpow_right₀ one_le_two hlt) (two_zpow_pos _).le
              (Nat.cast_nonneg m')
      · exact mul_lt_mul_of_pos_right (by exact_mod_cast hlt) (two_zpow_pos e)

/-- Two numbers at one place stand for one rational number. -/
theorem eq_of_place_eq (hu : Stands u a) (hv : Stands v b) (h : unpackedPlace u = unpackedPlace v) : a = b := by
  cases hu with
  | zero s =>
    cases hv with
    | zero t => rfl
    | finite kept => exact absurd h (by simp [unpackedPlace])
  | finite kept =>
    cases hv with
    | zero t => exact absurd h (by simp [unpackedPlace])
    | finite kept' =>
      simp only [unpackedPlace, EmbeddingLike.apply_eq_iff_eq, Prod.mk.injEq, true_and, Nat.cast_inj] at h
      rw [h.1, h.2]

/-- Places are in the order of what they stand for. -/
theorem place_le_iff (hu : Stands u a) (hv : Stands v b) : unpackedPlace u ≤ unpackedPlace v ↔ a ≤ b := by
  constructor
  · intro h
    rcases h.lt_or_eq with hlt | heq
    · exact (lt_of_place_lt hu hv hlt).le
    · exact (eq_of_place_eq hu hv heq).le
  · intro h
    by_contra hgt
    exact absurd (lt_of_place_lt hv hu (not_le.mp hgt)) (not_lt.mpr h)

end ChannelSurvey.Binary

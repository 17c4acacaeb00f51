import ChannelSurvey.Proofs.Binary.Packing
import ChannelSurvey.Proofs.Binary.Value

/-!
# Float arithmetic gives the nearest number

The product and the quotient of two floats, and a count turned into a float, are the number nearest to the exact
result. A power of two is exact.

**The laws** (`Reads.mul`, `Reads.div`, `reads_toFloat`, `reads_twoPow`): so far as no result is too large, arithmetic
on floats is arithmetic on rational numbers with `nearest` after every step.

A quotient is worked out with digits to spare, and what is lost behind them is kept in two digits more. The law of
`Binary.Rounding` for quotients (`roundedMantissa_fraction`) says that this is enough; a product is a quotient by one.
-/

namespace ChannelSurvey.Binary

open Decimal (roundDiv)
open Float.Model (Format UnpackedFloat totalExponent)
open Float.Model.UnpackedFloat
open Float.Model.UnpackedFloat.ExtendedMantissa (ofMantissaAndAccuracy)

variable {m : Nat} {e : Int} {a b : ℚ} {u v : UnpackedFloat}

/-! ## Quotients of digits -/

/-- What rounded digits are kept as stands for that many units. -/
theorem Settles.stands {r : Nat} {t : Int} (h : Settles .positive r t u) (bottom : -1074 ≤ t)
    (full : 2 ^ 52 ≤ r ∨ t = -1074) : Stands u (r * 2 ^ t) := by
  cases h with
  | vanished none =>
    rw [none, Nat.cast_zero, zero_mul]
    exact .zero _
  | kept some fits => exact .finite ⟨fits, bottom, full⟩
  | carried overflow =>
    have hcarry : (r : ℚ) * 2 ^ t = ((2 ^ 52 : ℕ) : ℚ) * 2 ^ (t + 1) := by
      rw [overflow, zpow_add₀ two_ne_zero]
      push_cast
      ring
    rw [hcarry]
    exact .finite ⟨by decide, by omega, .inl (Nat.le_refl _)⟩

/-- The leading digit of a quotient is that of its whole part. -/
theorem log_quotient {num den : ℕ} (pos : 0 < den) (some : 0 < num / den) (e : Int) :
    Int.log 2 ((num : ℚ) / den * 2 ^ e) = (num / den).log2 + e := by
  obtain ⟨hlow, hhigh⟩ := (Nat.log2_eq_iff (Nat.ne_of_gt some)).mp rfl
  have hden : (0 : ℚ) < den := Nat.cast_pos.mpr pos
  have hnum : 0 < num := Nat.pos_of_div_pos some
  have hpos : (0 : ℚ) < num / den * 2 ^ e := mul_pos (div_pos (Nat.cast_pos.mpr hnum) hden) (two_zpow_pos e)
  apply le_antisymm
  · refine Int.lt_add_one_iff.mp ((log_lt_iff hpos _).mpr ?_)
    rw [add_right_comm, zpow_add₀ two_ne_zero]
    refine mul_lt_mul_of_pos_right ?_ (two_zpow_pos e)
    rw [div_lt_iff₀ hden]
    have hcount : num < 2 ^ ((num / den).log2 + 1) * den :=
      (Nat.div_lt_iff_lt_mul pos).mp hhigh
    exact_mod_cast hcount
  · refine (le_log_iff hpos _).mpr ?_
    rw [zpow_add₀ two_ne_zero]
    refine mul_le_mul_of_nonneg_right ?_ (two_zpow_pos e).le
    rw [le_div_iff₀ hden]
    have hcount : 2 ^ (num / den).log2 * den ≤ num := (Nat.le_div_iff_mul_le pos).mp hlow
    exact_mod_cast hcount

/-- A quotient with digits enough is rounded to the units of its whole part. -/
theorem unit_quotient {num den : ℕ} (some : 0 < num) (pos : 0 < den) (low : e ≤ rank (num / den) e) :
    unit ((num : ℚ) / den * 2 ^ e) = rank (num / den) e := by
  rcases Nat.eq_zero_or_pos (num / den) with hzero | hsome
  · -- nothing is left of a quotient below the finest units
    rw [hzero] at low ⊢
    have hnone : rank 0 e = max (e - 52) (-1074) := by
      rw [rank, Nat.log2_zero, Nat.cast_zero, zero_add]
    have hpos : (0 : ℚ) < num / den * 2 ^ e :=
      mul_pos (div_pos (Nat.cast_pos.mpr some) (Nat.cast_pos.mpr pos)) (two_zpow_pos e)
    have hsmall : (num : ℚ) / den * 2 ^ e < 2 ^ e := by
      refine mul_lt_of_lt_one_left (two_zpow_pos e) ?_
      rw [div_lt_one (Nat.cast_pos.mpr pos)]
      exact_mod_cast (Nat.div_eq_zero_iff_lt pos).mp hzero
    have hlog := (log_lt_iff hpos e).mpr hsmall
    rw [hnone] at low ⊢
    unfold unit
    omega
  · rw [unit, log_quotient pos hsome, rank]

/-- **A quotient with digits enough is rounded to the nearest number.** -/
theorem stands_quotient {num den : ℕ} (some : 0 < num) (pos : 0 < den) (low : e ≤ rank (num / den) e) :
    Stands (roundWithAccuracy Format.binary64 .positive (num / den) e (accuracyOfFraction (num % den) den))
      (nearest (num / den * 2 ^ e)) := by
  have hpos : (0 : ℚ) < num / den * 2 ^ e :=
    mul_pos (div_pos (Nat.cast_pos.mpr some) (Nat.cast_pos.mpr pos)) (two_zpow_pos e)
  have hunit := unit_quotient some pos low
  have hbottom := bottom_le_rank (num / den) e
  obtain ⟨k, hk⟩ := Int.le.dest low
  have hshift : (rank (num / den) e - e).toNat = k := by omega
  have hunits : roundDiv num (den * 2 ^ k) = units (num / den * 2 ^ e) := by
    have hvalue : (num : ℚ) / den * 2 ^ e / 2 ^ rank (num / den) e = num / (den * 2 ^ k : ℕ) := by
      rw [← hk, zpow_add₀ two_ne_zero, zpow_natCast]
      have hden : (den : ℚ) ≠ 0 := Nat.cast_ne_zero.mpr (Nat.ne_of_gt pos)
      push_cast
      field_simp
    rw [units, hunit, hvalue, nearestWhole_div _ (Nat.mul_pos pos (Nat.two_pow_pos k))]
  have hdigits := roundedMantissa_fraction num pos k
  rw [hunits, ← hshift] at hdigits
  have hsettles := roundWithAccuracy_settles .positive low hdigits (units_le hpos)
  rw [nearest, hunit]
  refine hsettles.stands hbottom ?_
  by_cases habove : -1074 < rank (num / den) e
  · exact .inl (le_units hpos (by rwa [hunit]))
  · exact .inr (by omega)

/-- A number with digits enough is one over one. -/
theorem stands_round (pos : 0 < m) (low : e ≤ rank m e) :
    Stands (roundWithAccuracy Format.binary64 .positive m e .exact) (nearest (m * 2 ^ e)) := by
  have h := stands_quotient (e := e) pos Nat.one_pos (by rwa [Nat.div_one])
  rw [Nat.div_one, Nat.mod_one, Nat.cast_one, div_one] at h
  exact h

/-- **Products are rounded to the nearest number.** -/
theorem Stands.mul (hu : Stands u a) (hv : Stands v b) : Stands (mul Format.binary64 u v) (nearest (a * b)) := by
  cases hu with
  | zero s =>
    rw [zero_mul, nearest_zero]
    cases hv with
    | zero t => exact .zero _
    | finite kept' => exact .zero _
  | @finite m e pos kept =>
    cases hv with
    | zero t =>
      rw [mul_zero, nearest_zero]
      exact .zero _
    | @finite m' e' pos' kept' =>
      have hvalue : (m : ℚ) * 2 ^ e * (m' * 2 ^ e') = (m * m' : ℕ) * 2 ^ (e + e') := by
        rw [zpow_add₀ two_ne_zero]
        push_cast
        ring
      rw [hvalue]
      exact stands_round (Nat.mul_pos pos pos') (mul_low kept kept' pos pos')

/-- The digits of a dividend are shifted up until its quotient has digits enough. -/
theorem div_low {m₁ m₂ : Nat} {e₁ e₂ t : Int} (pos₁ : 0 < m₁) (pos₂ : 0 < m₂)
    (ht : t = min (e₁ - e₂) (max (m₁.log2 - m₂.log2 + (e₁ - e₂) - 53) (-1074))) :
    t ≤ rank (m₁ <<< (e₁ - e₂ - t).toNat / m₂) t := by
  by_cases hbottom : t ≤ -1074
  · exact hbottom.trans (bottom_le_rank _ _)
  · have hdigits : m₂.log2 + 1 + 52 ≤ m₁.log2 + (e₁ - e₂ - t).toNat := by omega
    have hfull : 2 ^ 52 ≤ m₁ <<< (e₁ - e₂ - t).toNat / m₂ := by
      rw [Nat.le_div_iff_mul_le pos₂, Nat.shiftLeft_eq]
      calc 2 ^ 52 * m₂
        _ ≤ 2 ^ 52 * 2 ^ (m₂.log2 + 1) := Nat.mul_le_mul_left _ Nat.lt_log2_self.le
        _ = 2 ^ (m₂.log2 + 1 + 52) := by rw [Nat.pow_add 2 (m₂.log2 + 1) 52, Nat.mul_comm]
        _ ≤ 2 ^ (m₁.log2 + (e₁ - e₂ - t).toNat) := Nat.pow_le_pow_right Nat.two_pos hdigits
        _ = 2 ^ m₁.log2 * 2 ^ (e₁ - e₂ - t).toNat := Nat.pow_add ..
        _ ≤ m₁ * 2 ^ (e₁ - e₂ - t).toNat := Nat.mul_le_mul_right _ (Nat.log2_self_le (Nat.ne_of_gt pos₁))
    have hlog : 52 ≤ (m₁ <<< (e₁ - e₂ - t).toNat / m₂).log2 :=
      (Nat.le_log2 (by omega)).mpr hfull
    unfold rank
    omega

/-- **Quotients are rounded to the nearest number.** -/
theorem Stands.div (hu : Stands u a) (hv : Stands v b) (pos : 0 < b) :
    Stands (div Format.binary64 u v) (nearest (a / b)) := by
  cases hv with
  | zero t => exact absurd pos (lt_irrefl _)
  | @finite m₂ e₂ pos₂ kept₂ =>
    cases hu with
    | zero s =>
      rw [zero_div, nearest_zero]
      exact .zero _
    | @finite m₁ e₁ pos₁ kept₁ =>
      let t := min (e₁ - e₂) (max ((m₁.log2 : Int) - m₂.log2 + (e₁ - e₂) - 53) (-1074))
      have htarget :
              min (e₁ - e₂) (Format.binary64.targetExponent (totalExponent m₁ e₁ - totalExponent m₂ e₂)) = t := by
        show min (e₁ - e₂) (max ((m₁.log2 : Int) + 1 + e₁ - (m₂.log2 + 1 + e₂) - ((1 + 52 : Nat) : Int))
          (3 - 2 ^ (11 - 1) - ((1 + 52 : Nat) : Int))) = t
        omega
      have hlow := div_low pos₁ pos₂ (t := t) rfl
      have hvalue : (m₁ : ℚ) * 2 ^ e₁ / (m₂ * 2 ^ e₂) = (m₁ <<< (e₁ - e₂ - t).toNat : ℕ) / m₂ * 2 ^ t := by
        have hexponent : e₁ = e₂ + (e₁ - e₂ - t).toNat + t := by omega
        have hm₂ : (m₂ : ℚ) ≠ 0 := Nat.cast_ne_zero.mpr (Nat.ne_of_gt pos₂)
        have he₂ := (two_zpow_pos e₂).ne'
        rw [Nat.shiftLeft_eq]
        nth_rewrite 1 [hexponent]
        rw [zpow_add₀ two_ne_zero, zpow_add₀ two_ne_zero, zpow_natCast]
        push_cast
        field_simp
      have hdiv : UnpackedFloat.div Format.binary64 (.finite .positive m₁ e₁ pos₁) (.finite .positive m₂ e₂ pos₂) =
          roundWithAccuracy Format.binary64 .positive (m₁ <<< (e₁ - e₂ - t).toNat / m₂) t
            (accuracyOfFraction (m₁ <<< (e₁ - e₂ - t).toNat % m₂) m₂) := by
        simp only [UnpackedFloat.div, divCore, htarget]
        rfl
      rw [hdiv, hvalue]
      exact stands_quotient (Nat.shiftLeft_pos_iff.mpr pos₁) pos₂ hlow

/-- **Counts are rounded to the nearest number.** -/
theorem stands_normalize (n : ℕ) :
    Stands (UnpackedFloat.normalize Format.binary64 (n : Int) 0 .positive) (nearest n) := by
  rcases Nat.eq_zero_or_pos n with rfl | pos
  · have hzero : nearest ((0 : ℕ) : ℚ) = 0 := by rw [Nat.cast_zero, nearest_zero]
    rw [hzero]
    exact .zero _
  · let k := ((0 : Int) - rank n 0).toNat
    have hrank : rank (n <<< k) (0 - k) = rank n 0 := by
      rw [rank_shiftLeft pos, Int.sub_add_cancel]
    have hlow : (0 : Int) - k ≤ rank (n <<< k) (0 - k) := by
      rw [hrank]
      omega
    have hround : UnpackedFloat.normalize Format.binary64 (n : Int) 0 .positive =
        roundWithAccuracy Format.binary64 .positive (n <<< k) (0 - k) .exact := by
      unfold UnpackedFloat.normalize
      rw [Int.compare_eq_gt.mpr (by omega)]
      simp only [UnpackedFloat.round, Int.toNat_natCast, targetExponent_eq, decreaseExponent]
      rfl
    have hvalue : (n : ℚ) = (n <<< k : ℕ) * 2 ^ (0 - k : Int) := by
      rw [Nat.shiftLeft_eq, zero_sub, zpow_neg, zpow_natCast]
      push_cast
      field_simp
    rw [hround, hvalue]
    exact stands_round (Nat.shiftLeft_pos_iff.mpr pos) hlow

/-! ## Floats -/

section

variable {x y : Float}

/-- A float that is zero or positive, and the number it stands for. -/
def Reads (x : Float) (a : ℚ) : Prop :=
  Stands x.toModel.unpack a

theorem Reads.isFinite (h : Reads x a) : x.isFinite = true := by
  show x.toModel.unpack.isFinite = true
  unfold Reads at h
  generalize x.toModel.unpack = u at h
  cases h <;> rfl

theorem Reads.number (h : Reads x a) : x.isNaN = false := by
  show x.toModel.unpack.isNaN = false
  unfold Reads at h
  generalize x.toModel.unpack = u at h
  cases h <;> rfl

/-- **Floats are in the order of the numbers they stand for.** -/
theorem Reads.le_iff (hx : Reads x a) (hy : Reads y b) : x ≤ y ↔ a ≤ b := by
  rw [le_iff_place hx.number hy.number]
  exact place_le_iff hx hy

theorem Reads.lt_iff (hx : Reads x a) (hy : Reads y b) : x < y ↔ a < b := by
  rw [lt_iff_place hx.number hy.number, ← not_le, ← not_le]
  exact not_congr (place_le_iff hy hx)

/-- A float made of a number that is not too large stands for it. -/
theorem reads_of_pack {u : UnpackedFloat} (made : x.toModel = Float.Model.pack u) (h : Stands u a)
    (top : a < 2 ^ (1024 : ℤ)) : Reads x a := by
  rw [Reads, unpack_of_pack made (h.bounded (k := 971) top (by decide)) (Int.le_refl _)]
  exact h

theorem nearest_lt {k : ℤ} (nonneg : 0 ≤ a) (h : a ≤ 2 ^ k) (bottom : -1074 ≤ k) (top : k < 1024) :
    nearest a < 2 ^ (1024 : ℤ) :=
  (nearest_le_two_zpow bottom nonneg h).trans_lt (zpow_lt_zpow_right₀ one_lt_two top)

theorem Reads.mul (hx : Reads x a) (hy : Reads y b) (top : a * b ≤ 2 ^ (1000 : ℤ)) : Reads (x * y) (nearest (a * b)) :=
  reads_of_pack rfl (Stands.mul hx hy)
    (nearest_lt (mul_nonneg hx.nonneg hy.nonneg) top (by decide) (by decide))

theorem Reads.div (hx : Reads x a) (hy : Reads y b) (pos : 0 < b) (top : a / b ≤ 2 ^ (1000 : ℤ)) :
    Reads (x / y) (nearest (a / b)) :=
  reads_of_pack rfl (Stands.div hx hy pos)
    (nearest_lt (div_nonneg hx.nonneg hy.nonneg) top (by decide) (by decide))

theorem reads_zero : Reads 0 0 :=
  Stands.zero .positive

theorem reads_one : Reads 1.0 1 := by
  have h : Reads 1.0 ((2 ^ 52 : ℕ) * 2 ^ (-52 : ℤ)) := Stands.finite ⟨by decide, by decide, by decide⟩
  have hvalue : ((2 ^ 52 : ℕ) : ℚ) * 2 ^ (-52 : ℤ) = 1 := by norm_num
  rwa [hvalue] at h

/-- A count as a float. -/
theorem reads_toFloat (n : UInt64) : Reads n.toFloat (nearest n.toNat) := by
  have hlimit : (n.toNat : ℚ) ≤ 2 ^ (64 : ℤ) := by exact_mod_cast n.toNat_lt.le
  exact reads_of_pack rfl (stands_normalize n.toNat) (nearest_lt (Nat.cast_nonneg _) hlimit (by decide) (by decide))

/-- A power of two as a float: its exponent, and no digit behind the leading one. -/
theorem reads_twoPow {e : ℤ} (low : -1022 ≤ e) (high : e ≤ 1023) : Reads (twoPow e) (2 ^ e) := by
  have hbiased : ((e + 1023).toNat : ℤ) = e + 1023 := Int.toNat_of_nonneg (by omega)
  have hexponent : (BitVec.ofNat 11 (e + 1023).toNat).toNat = (e + 1023).toNat := toNat_ofNat_of_lt (by omega)
  have hbits : (UInt64.ofNat ((e + 1023).toNat * 0x10000000000000)).toBitVec =
      packComponents Format.binary64 .positive (BitVec.ofNat 11 (e + 1023).toNat) 0#52 := by
    apply BitVec.eq_of_toNat_eq
    have hpacked : (packComponents Format.binary64 .positive (BitVec.ofNat 11 (e + 1023).toNat) 0#52).toNat =
        (BitVec.ofNat 11 (e + 1023).toNat).toNat <<< 52 := by
      show (0#1 ++ BitVec.ofNat 11 (e + 1023).toNat ++ 0#52).toNat = _
      simp only [BitVec.toNat_append, BitVec.toNat_zero, Nat.zero_shiftLeft, Nat.zero_or, Nat.or_zero]
    rw [hpacked, hexponent, Nat.shiftLeft_eq, UInt64.toNat_toBitVec, UInt64.toNat_ofNat']
    omega
  have hbelow : BitVec.ofNat 11 (e + 1023).toNat ≠ -1#11 := BitVec.toNat_ne.mpr (by
    show _ ≠ 2047
    omega)
  have hsome : BitVec.ofNat 11 (e + 1023).toNat ≠ 0#11 := BitVec.toNat_ne.mpr (by
    show _ ≠ 0
    omega)
  have hunpack : unpack Format.binary64 (UInt64.ofNat ((e + 1023).toNat * 0x10000000000000)).toBitVec =
      .finite .positive (2 ^ 52) (e - 52) (Nat.two_pow_pos 52) := by
    rw [hbits, unpack_packComponents _ _ _ hbelow, if_neg hsome]
    exact finite_congr rfl (by omega)
  have hstands : Stands (unpack Format.binary64 (UInt64.ofNat ((e + 1023).toNat * 0x10000000000000)).toBitVec)
      ((2 ^ 52 : ℕ) * 2 ^ (e - 52)) := by
    rw [hunpack]
    exact .finite ⟨by decide, by omega, .inl (Nat.le_refl _)⟩
  have hvalue : ((2 ^ 52 : ℕ) : ℚ) * 2 ^ (e - 52) = 2 ^ e := by
    rw [Nat.cast_pow, Nat.cast_ofNat, ← zpow_natCast, ← zpow_add₀ two_ne_zero]
    congr 1
    omega
  rw [hvalue] at hstands
  exact reads_of_pack rfl hstands (zpow_lt_zpow_right₀ one_lt_two (by omega))

end

end ChannelSurvey.Binary

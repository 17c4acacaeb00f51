import ChannelSurvey.Decimal.Rounding
import Mathlib

/-!
# How float arithmetic rounds

A sum or a product of floats is worked out exactly, as a mantissa and an exponent, and then rounded to the
53 digits there is room for. The machine shifts the digits out one at a time and keeps note of what it lost;
here the result is given as a quotient, by `Decimal.roundDiv`.

**The law** (`roundWithAccuracy_rounds`): `m * 2 ^ e` is rounded to a whole number of units of
`2 ^ rank m e`. That number is zero, fits the 53 digits, or runs over into the next unit (`Rounds`). The same is said
of a quotient whose last digits are lost but for a note of them (`roundedMantissa_fraction`,
`roundWithAccuracy_settles`).

From this follow bounds on what arithmetic can come to (`add_bounded`, `sub_bounded`, `mul_bounded`): a
result of bounded numbers is a bounded number, so no infinity and no failure comes out of it.
-/

namespace ChannelSurvey.Binary

open Decimal (roundDiv)
open Float.Model (Format UnpackedFloat totalExponent)
open Float.Model.UnpackedFloat
open Float.Model.UnpackedFloat.ExtendedMantissa (ofMantissaAndAccuracy shiftRightOne)

/-! ## Shifting digits out -/

/-- A mantissa behind some shifts: the digit that went last, and whether anything was lost before it. -/
theorem repeat_shiftRightOne (q n : Nat) (digit sticky : Bool) :
    (n + 1).repeat shiftRightOne ⟨q, digit, sticky⟩ =
      ⟨q / 2 ^ (n + 1), q / 2 ^ n % 2 != 0, q % 2 ^ n != 0 || (digit || sticky)⟩ := by
  induction n with
  | zero => simp [Nat.repeat, shiftRightOne, Nat.mod_one]
  | succ n ih =>
    have hsticky : (q / 2 ^ n % 2 != 0 || q % 2 ^ n != 0) = (q % 2 ^ (n + 1) != 0) := by
      have hunit : 2 ^ n ≠ 0 := Nat.ne_of_gt (Nat.two_pow_pos n)
      rw [Nat.mod_pow_succ, Bool.eq_iff_iff]
      simp only [Bool.or_eq_true, bne_iff_ne, ne_eq, Nat.add_eq_zero_iff, Nat.mul_eq_zero]
      grind
    rw [Nat.repeat, ih, shiftRightOne]
    simp only [← Bool.or_assoc, hsticky, Nat.div_div_eq_div_mul, ← Nat.pow_succ]

/-- A mantissa is rounded up above one half, and at one half when it is odd. -/
theorem roundedMantissa_eq (q : Nat) (digit sticky : Bool) :
    ExtendedMantissa.roundedMantissa ⟨q, digit, sticky⟩ =
      if digit = true ∧ (sticky = true ∨ q % 2 = 1) then q + 1 else q := by
  cases digit
  · cases sticky <;> rfl
  · cases sticky
    · show q + q % 2 = _
      split <;> grind
    · rfl

/-- How near a quotient is to its whole part, as the two digits behind it. -/
theorem ofMantissaAndAccuracy_fraction (q : Nat) {rest den : Nat} (h : rest < den) :
    ofMantissaAndAccuracy q (accuracyOfFraction rest den) =
      ⟨q, decide (den ≤ 2 * rest), decide (rest ≠ 0 ∧ 2 * rest ≠ den)⟩ := by
  unfold accuracyOfFraction
  split
  · rename_i hnone
    subst hnone
    simp [ofMantissaAndAccuracy, Nat.not_le.mpr h]
  · rename_i hsome
    rcases Nat.lt_trichotomy (2 * rest) den with hlt | heq | hgt
    · rw [Nat.compare_eq_lt.mpr hlt]
      simp [ofMantissaAndAccuracy, hsome, Nat.not_le.mpr hlt, Nat.ne_of_lt hlt]
    · rw [Nat.compare_eq_eq.mpr heq]
      simp [ofMantissaAndAccuracy, heq]
    · rw [Nat.compare_eq_gt.mpr hgt]
      simp [ofMantissaAndAccuracy, hsome, Nat.le_of_lt hgt, Nat.ne_of_gt hgt]

/-- **Shifting digits out and then rounding is rounding the quotient.** -/
theorem roundedMantissa_fraction (num : Nat) {den : Nat} (pos : 0 < den) (k : Nat) :
    (ofMantissaAndAccuracy (num / den) (accuracyOfFraction (num % den) den) >>> k).roundedMantissa =
      roundDiv num (den * 2 ^ k) := by
  have hlow := Nat.mod_lt num pos
  rw [ofMantissaAndAccuracy_fraction _ hlow]
  show (k.repeat shiftRightOne _).roundedMantissa = _
  cases k with
  | zero =>
    rw [Nat.repeat, roundedMantissa_eq, Nat.pow_zero, Nat.mul_one, roundDiv]
    simp only [decide_eq_true_iff]
    split <;> split <;> omega
  | succ n =>
    have hquotient : num / (den * 2 ^ (n + 1)) = num / den / 2 ^ (n + 1) := (Nat.div_div_eq_div_mul ..).symm
    have hrest : num % (den * 2 ^ (n + 1)) = num % den + den * (num / den % 2 ^ n) +
        den * 2 ^ n * (num / den / 2 ^ n % 2) := by
      rw [Nat.mod_mul, Nat.mod_pow_succ, Nat.mul_add, Nat.mul_assoc, Nat.add_assoc]
    have hhalf : den * 2 ^ (n + 1) = 2 * (den * 2 ^ n) := by
      rw [Nat.pow_succ]
      ac_rfl
    have hlost : den * (num / den % 2 ^ n) + den ≤ den * 2 ^ n := by
      rw [← Nat.mul_succ]
      exact Nat.mul_le_mul_left _ (Nat.mod_lt _ (Nat.two_pow_pos n))
    have hnone : den * (num / den % 2 ^ n) = 0 ↔ num / den % 2 ^ n = 0 := by
      rw [Nat.mul_eq_zero]
      omega
    rw [repeat_shiftRightOne, roundedMantissa_eq, roundDiv]
    simp only [bne_iff_ne, Bool.or_eq_true, decide_eq_true_iff, hquotient, hrest]
    rw [hhalf]
    rcases Nat.mod_two_eq_zero_or_one (num / den / 2 ^ n) with hdigit | hdigit
    · rw [hdigit, Nat.mul_zero, if_neg (by omega), if_pos (by omega)]
    · rw [hdigit, Nat.mul_one]
      split <;> split <;> omega

/-- A number with nothing behind its digits is a quotient by one. -/
theorem roundedMantissa_shift (m k : Nat) :
    (ofMantissaAndAccuracy m .exact >>> k).roundedMantissa = roundDiv m (2 ^ k) := by
  have hwhole := roundedMantissa_fraction m Nat.one_pos k
  rw [Nat.div_one, Nat.mod_one, Nat.one_mul] at hwhole
  exact hwhole

/-! ## Ranks -/

/-- The exponent `m * 2 ^ e` is rounded to: it leaves 53 digits, unless that were finer than there is. -/
def rank (m : Nat) (e : Int) : Int :=
  max (m.log2 + e - 52) (-1074)

/-- `m * 2 ^ e` in whole units of its rank. -/
def rounded (m : Nat) (e : Int) : Nat :=
  roundDiv m (2 ^ (rank m e - e).toNat)

/-- The exponent that the code rounds to is the rank. -/
theorem targetExponent_eq (m : Nat) (e : Int) :
    Format.binary64.targetExponent (totalExponent m e) = rank m e := by
  show max ((m.log2 : Int) + 1 + e - ((1 + 52 : Nat) : Int)) (3 - 2 ^ (11 - 1) - ((1 + 52 : Nat) : Int)) = _
  rw [rank]
  omega

variable {m : Nat} {e : Int}

/-- No rank is below that of the subnormal numbers. -/
theorem bottom_le_rank (m : Nat) (e : Int) : -1074 ≤ rank m e :=
  Int.le_max_right ..

/-- A mantissa of fifty-three digits ranks no higher than its exponent. -/
theorem rank_le {r : Nat} {t : Int} (fits : r < 2 ^ 53) (bottom : -1074 ≤ t) : rank r t ≤ t := by
  have hlog : r.log2 ≤ 52 := by
    by_cases hzero : r = 0
    · rw [hzero]
      decide
    · exact Nat.le_of_lt_succ ((Nat.log2_lt hzero).mpr fits)
  unfold rank
  omega

/-- The digits of a mantissa bound its rank from above. -/
theorem rank_lt {k : Nat} {b : Int} (pos : 0 < m) (fits : m < 2 ^ k) (top : k + e - 53 < b) (above : -1074 < b) :
    rank m e < b := by
  have hlog : m.log2 < k := (Nat.log2_lt (Nat.ne_of_gt pos)).mpr fits
  unfold rank
  omega

/-- A shift to the left adds its digits. -/
theorem log2_shiftLeft (pos : 0 < m) (k : Nat) : (m <<< k).log2 = m.log2 + k := by
  obtain ⟨hlow, hhigh⟩ := (Nat.log2_eq_iff (Nat.ne_of_gt pos)).mp rfl
  have hunit : 0 < 2 ^ k := Nat.two_pow_pos k
  rw [Nat.shiftLeft_eq, Nat.log2_eq_iff (Nat.ne_of_gt (Nat.mul_pos pos hunit)), Nat.add_right_comm,
    Nat.pow_add, Nat.pow_add]
  exact ⟨Nat.mul_le_mul_right _ hlow, Nat.mul_lt_mul_of_pos_right hhigh hunit⟩

/-- The rank is that of the number, whatever digits it is written with. -/
theorem rank_shiftLeft (pos : 0 < m) (e : Int) (k : Nat) : rank (m <<< k) e = rank m (e + k) := by
  unfold rank
  rw [log2_shiftLeft pos]
  omega

/-- Rounding may carry into the next binade but not past its bottom. -/
theorem rounded_le (m : Nat) (e : Int) : rounded m e ≤ 2 ^ 53 := by
  have hdigits : m.log2 + 1 ≤ 53 + (rank m e - e).toNat := by
    unfold rank
    omega
  have hfit : m ≤ 2 ^ 53 * 2 ^ (rank m e - e).toNat := by
    rw [← Nat.pow_add]
    exact Nat.le_of_lt (Nat.lt_of_lt_of_le Nat.lt_log2_self (Nat.pow_le_pow_right Nat.two_pos hdigits))
  calc rounded m e
    _ ≤ roundDiv (2 ^ 53 * 2 ^ (rank m e - e).toNat) _ := Decimal.roundDiv_mono hfit _
    _ = 2 ^ 53 := Decimal.roundDiv_mul _ (Nat.two_pow_pos _)

/-- Above the least exponent, all 53 digits are used. -/
theorem le_rounded (pos : 0 < m) (low : e ≤ rank m e) (above : -1074 < rank m e) : 2 ^ 52 ≤ rounded m e := by
  have hdigits : 52 + (rank m e - e).toNat ≤ m.log2 := by
    unfold rank at *
    omega
  have hfull : 2 ^ 52 * 2 ^ (rank m e - e).toNat ≤ m := by
    rw [← Nat.pow_add]
    exact Nat.le_trans (Nat.pow_le_pow_right Nat.two_pos hdigits) (Nat.log2_self_le (Nat.ne_of_gt pos))
  calc 2 ^ 52
    _ = roundDiv (2 ^ 52 * 2 ^ (rank m e - e).toNat) _ := (Decimal.roundDiv_mul _ (Nat.two_pow_pos _)).symm
    _ ≤ rounded m e := Decimal.roundDiv_mono hfull _

/-! ## Rounding -/

/-- Mantissa and exponent as the machine keeps them: 53 digits, or fewer at the least exponent. -/
structure Canonical (m : Nat) (e : Int) : Prop where
  fits : m < 2 ^ 53
  bottom : -1074 ≤ e
  full : 2 ^ 52 ≤ m ∨ e = -1074

/-- What rounding `m * 2 ^ e` comes to. -/
inductive Rounds (s : Sign) (m : Nat) (e : Int) : UnpackedFloat → Prop where
  | vanished (none : rounded m e = 0) : Rounds s m e (.zero s)
  | kept (some : 0 < rounded m e) (canonical : Canonical (rounded m e) (rank m e)) :
      Rounds s m e (.finite s (rounded m e) (rank m e) some)
  /-- The digits ran over into the next unit. -/
  | carried (overflow : rounded m e = 2 ^ 53) :
      Rounds s m e (.finite s (2 ^ 52) (rank m e + 1) (Nat.two_pow_pos 52))

/-- A mantissa with digits to spare is shifted to the right, and its accuracy keeps what is lost. -/
theorem shiftToTargetExponent_low (low : e ≤ rank m e) (a : Accuracy) :
    shiftToTargetExponent Format.binary64 m e a =
      (ofMantissaAndAccuracy m a >>> (rank m e - e).toNat, rank m e) := by
  rw [shiftToTargetExponent, targetExponent_eq, shiftToExponent]
  simp only [Prod.mk.injEq, true_and]
  omega

/-- Digits that fit are left alone. -/
theorem shiftToTargetExponent_fits {r : Nat} {t : Int} (fits : r < 2 ^ 53) (bottom : -1074 ≤ t) :
    shiftToTargetExponent Format.binary64 r t .exact = (ofMantissaAndAccuracy r .exact, t) := by
  have hshift : (rank r t - t).toNat = 0 := Int.toNat_of_nonpos (Int.sub_nonpos_of_le (rank_le fits bottom))
  simp only [shiftToTargetExponent, targetExponent_eq, shiftToExponent, hshift]
  rw [Int.natCast_zero, Int.add_zero]
  rfl

/-- Digits that ran over are shifted once more. -/
theorem shiftToTargetExponent_over {t : Int} (bottom : -1074 ≤ t) :
    shiftToTargetExponent Format.binary64 (2 ^ 53) t .exact = (⟨2 ^ 52, false, false⟩, t + 1) := by
  have hrank : rank (2 ^ 53) t = t + 1 := by
    rw [rank, Nat.log2_two_pow]
    omega
  have hshift : (t + 1 - t).toNat = 1 := by omega
  simp only [shiftToTargetExponent, targetExponent_eq, shiftToExponent, hrank, hshift]
  rfl

/-- What `r` units of `2 ^ t` are kept as: none are left, they fit the digits, or they run over into the next unit. -/
inductive Settles (s : Sign) (r : Nat) (t : Int) : UnpackedFloat → Prop where
  | vanished (none : r = 0) : Settles s r t (.zero s)
  | kept (some : 0 < r) (fits : r < 2 ^ 53) : Settles s r t (.finite s r t some)
  | carried (overflow : r = 2 ^ 53) : Settles s r t (.finite s (2 ^ 52) (t + 1) (Nat.two_pow_pos 52))

/-- **The digits decide what is kept**, whatever was behind them. -/
theorem roundWithAccuracy_settles (s : Sign) {a : Accuracy} {r : Nat} (low : e ≤ rank m e)
    (digits : (ofMantissaAndAccuracy m a >>> (rank m e - e).toNat).roundedMantissa = r) (fits : r ≤ 2 ^ 53) :
    Settles s r (rank m e) (roundWithAccuracy Format.binary64 s m e a) := by
  have hbottom := bottom_le_rank m e
  unfold roundWithAccuracy
  simp only [shiftToTargetExponent_low low, digits]
  rcases Nat.lt_or_eq_of_le fits with hfits | hover
  · simp only [shiftToTargetExponent_fits hfits hbottom]
    split
    · rename_i hzero
      exact .vanished hzero
    · rename_i hsome
      exact .kept (Nat.pos_of_ne_zero hsome) hfits
  · simp only [hover, shiftToTargetExponent_over hbottom]
    exact .carried rfl

/-- **Rounding is to whole units of the rank.** -/
theorem roundWithAccuracy_rounds (s : Sign) (pos : 0 < m) (low : e ≤ rank m e) :
    Rounds s m e (roundWithAccuracy Format.binary64 s m e .exact) := by
  have hsettles := roundWithAccuracy_settles s low (roundedMantissa_shift m _) (rounded_le m e)
  generalize roundWithAccuracy Format.binary64 s m e .exact = u at hsettles
  cases hsettles with
  | vanished none => exact .vanished none
  | kept some fits =>
    refine .kept some ⟨fits, bottom_le_rank m e, ?_⟩
    by_cases habove : -1074 < rank m e
    · exact .inl (le_rounded pos low habove)
    · have hbottom := bottom_le_rank m e
      exact .inr (by omega)
  | carried overflow => exact .carried overflow

/-- Rounding a number of any exponent writes it with enough digits first. -/
theorem round_rounds (s : Sign) (pos : 0 < m) (e : Int) :
    ∃ m' e', 0 < m' ∧ e' ≤ rank m' e' ∧ rank m' e' = rank m e ∧
      Rounds s m' e' (UnpackedFloat.round Format.binary64 s m e) := by
  let k := (e - rank m e).toNat
  have hrank : rank (m <<< k) (e - k) = rank m e := by
    rw [rank_shiftLeft pos, Int.sub_add_cancel]
  have hlow : e - k ≤ rank (m <<< k) (e - k) := by
    rw [hrank]
    omega
  have hround : UnpackedFloat.round Format.binary64 s m e =
      roundWithAccuracy Format.binary64 s (m <<< k) (e - k) .exact := by
    simp only [UnpackedFloat.round, targetExponent_eq, decreaseExponent]
    rfl
  rw [hround]
  have hpos : 0 < m <<< k := Nat.shiftLeft_pos_iff.mpr pos
  exact ⟨_, _, hpos, hlow, hrank, roundWithAccuracy_rounds s hpos hlow⟩

/-! ## Bounds -/

/-- A number as the machine keeps it, less than `2 ^ (53 + b)` on either side of zero. -/
def Bounded (b : Int) : UnpackedFloat → Prop
  | .zero _ => True
  | .finite _ m e _ => Canonical m e ∧ e ≤ b
  | .infinity _ | .notANumber => False

section

variable {a b c : Int} {x y : UnpackedFloat}

/-- A bound may be widened. -/
theorem Bounded.mono (h : Bounded a x) (le : a ≤ b) : Bounded b x := by
  cases x with
  | notANumber | infinity _ => exact h
  | zero _ => trivial
  | finite s m e pos => exact ⟨h.1, Int.le_trans h.2 le⟩

/-- What is bounded is a number. -/
theorem Bounded.number (h : Bounded b x) : x.isNaN = false := by
  cases x with
  | notANumber | infinity _ => cases h
  | zero _ | finite _ _ _ _ => rfl

/-- What rounds below a rank is bounded by it. -/
theorem Rounds.bounded {s : Sign} (h : Rounds s m e x) (top : rank m e < b) : Bounded b x := by
  cases h with
  | vanished => trivial
  | kept some canonical => exact ⟨canonical, Int.le_of_lt top⟩
  | carried overflow =>
    have hbottom := bottom_le_rank m e
    exact ⟨⟨by decide, by omega, .inl (Nat.le_refl _)⟩, top⟩

/-- Normalizing a whole number of few digits gives a bounded number. -/
theorem normalize_bounded {z : Int} {k : Nat} (s : Sign) (fits : z.natAbs < 2 ^ k) (top : k + e - 53 < b)
    (above : -1074 < b) : Bounded b (UnpackedFloat.normalize Format.binary64 z e s) := by
  have hround (s : Sign) (pos : 0 < z.natAbs) : Bounded b (UnpackedFloat.round Format.binary64 s z.natAbs e) := by
    obtain ⟨_, _, _, _, hrank, hrounds⟩ := round_rounds s pos e
    exact hrounds.bounded (hrank ▸ rank_lt pos fits top above)
  unfold UnpackedFloat.normalize
  rcases Int.lt_trichotomy z 0 with hneg | rfl | hpos
  · have habs : (-z).toNat = z.natAbs := by omega
    rw [Int.compare_eq_lt.mpr hneg, habs]
    exact hround .negative (by omega)
  · trivial
  · have habs : z.toNat = z.natAbs := by omega
    rw [Int.compare_eq_gt.mpr hpos, habs]
    exact hround .positive (by omega)

/-! ## Sums, differences and products -/

/-- Shifting to a common exponent adds the digits in between. -/
theorem shifted_lt {t : Int} (canonical : Canonical m e) (le : e ≤ b) :
    m <<< (e - t).toNat < 2 ^ (53 + (b - t).toNat) := by
  have hunits : 2 ^ (e - t).toNat ≤ 2 ^ (b - t).toNat := Nat.pow_le_pow_right Nat.two_pos (by omega)
  rw [Nat.shiftLeft_eq, Nat.pow_add]
  exact Nat.lt_of_lt_of_le (Nat.mul_lt_mul_of_pos_right canonical.fits (Nat.two_pow_pos _))
    (Nat.mul_le_mul_left _ hunits)

/-- A sign changes no size. -/
theorem natAbs_apply (s : Sign) (n : Nat) : (s.apply (n : Int)).natAbs = n := by
  cases s
  · exact Int.natAbs_neg n
  · rfl

theorem apply_neg (s : Sign) (n : Int) : (-s).apply n = -s.apply n := by
  cases s
  · exact (Int.neg_neg n).symm
  · rfl

/-- A sum needs one digit more than its parts, and rounding it may carry into another. -/
theorem add_bounded (hx : Bounded b x) (hy : Bounded b y) : Bounded (b + 2) (add Format.binary64 x y) := by
  have hle : b ≤ b + 2 := by omega
  cases x with
  | notANumber | infinity _ => cases hx
  | zero s =>
    cases y with
    | notANumber | infinity _ => cases hy
    | zero t => cases s <;> cases t <;> trivial
    | finite t m e pos => exact hy.mono hle
  | finite s m e pos =>
    cases y with
    | notANumber | infinity _ => cases hy
    | zero t => exact hx.mono hle
    | finite t m' e' pos' =>
      have hbottom : -1074 ≤ min e e' := Int.le_min.mpr ⟨hx.1.bottom, hy.1.bottom⟩
      have htop : min e e' ≤ b := Int.le_trans (Int.min_le_left ..) hx.2
      have hfits : (s.apply ((m <<< (e - min e e').toNat : Nat) : Int) +
          t.apply ((m' <<< (e' - min e e').toNat : Nat) : Int)).natAbs < 2 ^ (53 + (b - min e e').toNat + 1) := by
        have hfirst := shifted_lt (t := min e e') hx.1 hx.2
        have hsecond := shifted_lt (t := min e e') hy.1 hy.2
        refine Nat.lt_of_le_of_lt (Int.natAbs_add_le ..) ?_
        rw [natAbs_apply, natAbs_apply, Nat.pow_succ]
        omega
      exact normalize_bounded .positive hfits (by omega) (by omega)

/-- A difference is a sum with the sign turned. -/
theorem sub_eq_add_neg (f : Format) (x y : UnpackedFloat) : sub f x y = add f x (neg y) := by
  cases x with
  | notANumber => rfl
  | infinity s => cases y <;> rfl
  | zero s => cases y <;> rfl
  | finite s m e pos =>
    cases y with
    | finite t m' e' pos' =>
      simp only [sub, add, neg, apply_neg, Int.sub_eq_add_neg]
    | _ => rfl

theorem neg_bounded (h : Bounded b y) : Bounded b (neg y) := by
  cases y <;> exact h

/-- So a difference is bounded as a sum is. -/
theorem sub_bounded (hx : Bounded b x) (hy : Bounded b y) : Bounded (b + 2) (sub Format.binary64 x y) := by
  rw [sub_eq_add_neg]
  exact add_bounded hx (neg_bounded hy)

/-- A product has digits enough, so it is never written with more before it is rounded. -/
theorem mul_low {m₁ m₂ : Nat} {e₁ e₂ : Int} (h₁ : Canonical m₁ e₁) (h₂ : Canonical m₂ e₂) (pos₁ : 0 < m₁)
    (pos₂ : 0 < m₂) : e₁ + e₂ ≤ rank (m₁ * m₂) (e₁ + e₂) := by
  by_cases hfull : 2 ^ 52 ≤ m₁ * m₂
  · have hlog : 52 ≤ (m₁ * m₂).log2 := (Nat.le_log2 (Nat.ne_of_gt (Nat.mul_pos pos₁ pos₂))).mpr hfull
    unfold rank
    omega
  · have hfirst : e₁ = -1074 := h₁.full.resolve_left fun h =>
      hfull (Nat.le_trans h (Nat.le_mul_of_pos_right _ pos₂))
    have hsecond : e₂ = -1074 := h₂.full.resolve_left fun h =>
      hfull (Nat.le_trans h (Nat.le_mul_of_pos_left _ pos₁))
    unfold rank
    omega

/-- A product is bounded by its exponents and the digits of both mantissas. -/
theorem mul_bounded (hx : Bounded a x) (hy : Bounded b y) (top : a + b + 54 ≤ c) (above : -1074 < c) :
    Bounded c (mul Format.binary64 x y) := by
  cases x with
  | notANumber | infinity _ => cases hx
  | zero s =>
    cases y with
    | notANumber | infinity _ => cases hy
    | zero t | finite t m e pos => trivial
  | finite s m e pos =>
    cases y with
    | notANumber | infinity _ => cases hy
    | zero t => trivial
    | finite t m' e' pos' =>
      have hfirst := hx.2
      have hsecond := hy.2
      have hpos := Nat.mul_pos pos pos'
      have hfits : m * m' < 2 ^ (53 + 53) := by
        rw [Nat.pow_add]
        exact Nat.mul_lt_mul'' hx.1.fits hy.1.fits
      have hrank : rank (m * m') (e + e') < c := rank_lt hpos hfits (by omega) above
      exact (roundWithAccuracy_rounds _ hpos (mul_low hx.1 hy.1 pos pos')).bounded hrank

end

end ChannelSurvey.Binary

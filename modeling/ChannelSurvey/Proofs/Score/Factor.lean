import ChannelSurvey.Proofs.Binary.Arithmetic
import ChannelSurvey.Score

/-!
# What a factor is computed from

The factor of a sample is the logarithm of a ratio of counts of up to 64 bits, weighted by up to 255 dB on either side.
`exactRatio` is this ratio as a rational number; `roundedRatio` says which number comes out of the four roundings on
the way.

**The law** (`factor_in_range`): a sample has no factor exactly when it is degenerate. For any other, inconsistent ones
included, no difference wraps around, nothing is divided by zero, and a ratio that is not zero stays within 319
doublings of one, before rounding and after it. So a busy channel is not taken for a silent one, the logarithm is only
ever asked for a positive and finite number, and no factor lies below `idleFactor`.

The bounds are powers of two, which rounding keeps; so each of the four roundings leaves the number between the powers
of two that it would be between anyway.
-/

namespace ChannelSurvey

open Binary

/-- The bound of `atLeast` holds for any number, and for NaN. -/
theorem le_atLeast {least : Float} (number : least.isNaN = false) (x : Float) : least ≤ atLeast least x := by
  unfold atLeast
  split
  · assumption
  · exact number_le_refl number

namespace Sample

variable {s : Sample} {baseline : Int8}

/-! ## Which samples have a factor -/

/-- A sample is degenerate when nothing of its time is left, or less was busy than was its own. -/
theorem isDegenerate_iff : s.isDegenerate = true ↔ s.total ≤ s.own ∨ s.busy < s.own := by
  rw [isDegenerate, Bool.or_eq_true, decide_eq_true_iff, decide_eq_true_iff]

/-- What is left otherwise. -/
theorem proper_iff : s.isDegenerate = false ↔ s.own < s.total ∧ s.own ≤ s.busy := by
  rw [← Bool.not_eq_true, isDegenerate_iff, not_or, UInt64.not_le, UInt64.not_lt]

section

variable [BinaryLog]

/-- **Only a degenerate sample has no factor**. -/
theorem factor_eq_none : s.factor baseline = none ↔ s.isDegenerate = true := by
  unfold factor
  split
  · exact iff_of_true rfl ‹_›
  · refine iff_of_false ?_ ‹_›
    split <;> exact Option.some_ne_none _

end

/-! ## Counts -/

/-- The time that was busy with others, as a number. -/
theorem toNat_foreign (h : s.isDegenerate = false) : (s.busy - s.own).toNat = s.busy.toNat - s.own.toNat :=
  UInt64.toNat_sub_of_le _ _ (proper_iff.mp h).2

/-- The time we did not transmit, as a number. -/
theorem toNat_free (h : s.isDegenerate = false) : (s.total - s.own).toNat = s.total.toNat - s.own.toNat :=
  UInt64.toNat_sub_of_le _ _ (UInt64.le_of_lt (proper_iff.mp h).1)

/-- A proper sample has time left to divide by. -/
theorem free_pos (h : s.isDegenerate = false) : 1 ≤ (s.total - s.own).toNat := by
  have hlt := UInt64.lt_iff_toNat_lt.mp (proper_iff.mp h).1
  rw [toNat_free h]
  omega

/-- Nothing foreign was heard just when the busy time is its own. -/
theorem foreign_eq_zero (h : s.isDegenerate = false) : (s.busy - s.own).toNat = 0 ↔ s.busy = s.own := by
  have hle := UInt64.le_iff_toNat_le.mp (proper_iff.mp h).2
  rw [toNat_foreign h, ← UInt64.toNat_inj]
  omega

/-! ## The ratio before rounding -/

/-- The ratio of a sample as a rational number. -/
def exactRatio (s : Sample) (baseline : Int8) : ℚ :=
  ((s.busy.toNat : ℚ) - s.own.toNat) / ((s.total.toNat : ℚ) - s.own.toNat) * 2 ^ (s.noise.toInt - baseline.toInt)

/-- The ratio as the comments of the code give it, with the differences of the words as differences of numbers. -/
theorem exactRatio_eq (h : s.isDegenerate = false) (baseline : Int8) :
    s.exactRatio baseline =
      (s.busy - s.own).toNat / (s.total - s.own).toNat * 2 ^ (s.noise.toInt - baseline.toInt) := by
  have hbusy := UInt64.le_iff_toNat_le.mp (proper_iff.mp h).2
  have htotal := (UInt64.lt_iff_toNat_lt.mp (proper_iff.mp h).1).le
  rw [toNat_foreign h, toNat_free h, Nat.cast_sub hbusy, Nat.cast_sub htotal, exactRatio]

/-- The noise is at most 255 steps from the baseline, either way. -/
theorem gain_bounds (noise baseline : Int8) :
    -255 ≤ noise.toInt - baseline.toInt ∧ noise.toInt - baseline.toInt ≤ 255 := by
  have hnoise := noise.le_toInt
  have hnoise' := noise.toInt_lt
  have hbaseline := baseline.le_toInt
  have hbaseline' := baseline.toInt_lt
  omega

/-- The exact ratio vanishes only where nothing foreign was heard. -/
theorem exactRatio_eq_zero (h : s.isDegenerate = false) : s.exactRatio baseline = 0 ↔ s.busy = s.own := by
  have hfree : ((s.total - s.own).toNat : ℚ) ≠ 0 := Nat.cast_ne_zero.mpr (Nat.ne_of_gt (free_pos h))
  rw [exactRatio_eq h, mul_eq_zero, or_iff_left (two_zpow_pos _).ne', div_eq_zero_iff, or_iff_left hfree,
    Nat.cast_eq_zero, foreign_eq_zero h]

/-- A share of two counts of 64 bits. -/
theorem share_bounds {a b : ℚ} (ha : 1 ≤ a) (ha' : a ≤ 2 ^ (64 : ℤ)) (hb : 1 ≤ b) (hb' : b ≤ 2 ^ (64 : ℤ)) :
    2 ^ (-64 : ℤ) ≤ a / b ∧ a / b ≤ 2 ^ (64 : ℤ) := by
  have hpos : 0 < b := one_pos.trans_le hb
  constructor
  · rw [le_div_iff₀ hpos, zpow_neg, inv_mul_le_iff₀ (two_zpow_pos 64)]
    exact hb'.trans (le_mul_of_one_le_right (two_zpow_pos 64).le ha)
  · rw [div_le_iff₀ hpos]
    exact ha'.trans (le_mul_of_one_le_right (two_zpow_pos 64).le hb)

/-- A share, weighted by the distance of two noise floors. -/
theorem weighted_bounds {c : ℚ} (hc : 2 ^ (-64 : ℤ) ≤ c) (hc' : c ≤ 2 ^ (64 : ℤ)) (noise baseline : Int8) :
    2 ^ (-319 : ℤ) ≤ c * 2 ^ (noise.toInt - baseline.toInt) ∧
      c * 2 ^ (noise.toInt - baseline.toInt) ≤ 2 ^ (319 : ℤ) := by
  obtain ⟨hlow, hhigh⟩ := gain_bounds noise baseline
  constructor
  · calc (2 : ℚ) ^ (-319 : ℤ)
      _ = 2 ^ (-64 : ℤ) * 2 ^ (-255 : ℤ) := by rw [← zpow_add₀ two_ne_zero]; rfl
      _ ≤ c * 2 ^ (noise.toInt - baseline.toInt) :=
        mul_le_mul hc (zpow_le_zpow_right₀ one_le_two hlow) (two_zpow_pos _).le ((two_zpow_pos _).le.trans hc)
  · calc c * 2 ^ (noise.toInt - baseline.toInt)
      _ ≤ 2 ^ (64 : ℤ) * 2 ^ (255 : ℤ) :=
        mul_le_mul hc' (zpow_le_zpow_right₀ one_le_two hhigh) (two_zpow_pos _).le (two_zpow_pos _).le
      _ = 2 ^ (319 : ℤ) := by rw [← zpow_add₀ two_ne_zero]; rfl

/-- The foreign time of a busy sample is a word that is not zero. -/
theorem foreign_bounds (h : s.isDegenerate = false) (heard : s.busy ≠ s.own) :
    (1 : ℚ) ≤ (s.busy - s.own).toNat ∧ ((s.busy - s.own).toNat : ℚ) ≤ 2 ^ (64 : ℤ) := by
  constructor
  · exact_mod_cast Nat.one_le_iff_ne_zero.mpr (mt (foreign_eq_zero h).mp heard)
  · exact_mod_cast (s.busy - s.own).toNat_lt.le

/-- So is the free time of a proper one. -/
theorem free_bounds (h : s.isDegenerate = false) :
    (1 : ℚ) ≤ (s.total - s.own).toNat ∧ ((s.total - s.own).toNat : ℚ) ≤ 2 ^ (64 : ℤ) := by
  constructor
  · exact_mod_cast free_pos h
  · exact_mod_cast (s.total - s.own).toNat_lt.le

/-- A ratio that is not zero is no more than 319 doublings away from one. -/
theorem exactRatio_bounds (h : s.isDegenerate = false) (heard : s.busy ≠ s.own) (baseline : Int8) :
    2 ^ (-319 : ℤ) ≤ s.exactRatio baseline ∧ s.exactRatio baseline ≤ 2 ^ (319 : ℤ) := by
  obtain ⟨hforeign, hforeign'⟩ := foreign_bounds h heard
  obtain ⟨hfree, hfree'⟩ := free_bounds h
  obtain ⟨hshare, hshare'⟩ := share_bounds hforeign hforeign' hfree hfree'
  rw [exactRatio_eq h]
  exact weighted_bounds hshare hshare' ..

/-! ## The ratio after rounding -/

/-- A number from one to `2 ^ 64` stays there. -/
theorem count_bounds {a : ℚ} (h : 1 ≤ a) (h' : a ≤ 2 ^ (64 : ℤ)) : 1 ≤ nearest a ∧ nearest a ≤ 2 ^ (64 : ℤ) :=
  ⟨two_zpow_le_nearest (e := 0) (by decide) h, nearest_le_two_zpow (by decide) (zero_le_one.trans h) h'⟩

/-- The share of foreign traffic, rounded: both counts, and then their quotient. -/
def roundedShare (s : Sample) : ℚ :=
  nearest (nearest (s.busy - s.own).toNat / nearest (s.total - s.own).toNat)

/-- The ratio as it comes out of the computation. -/
def roundedRatio (s : Sample) (baseline : Int8) : ℚ :=
  nearest (s.roundedShare * 2 ^ (s.noise.toInt - baseline.toInt))

/-- Silence divides to zero. -/
theorem roundedShare_silent (h : s.isDegenerate = false) (silent : s.busy = s.own) : s.roundedShare = 0 := by
  rw [roundedShare, (foreign_eq_zero h).mpr silent, Nat.cast_zero, nearest_zero, zero_div, nearest_zero]

/-- A share that is heard stays within the range of a quotient of two words. -/
theorem roundedShare_bounds (h : s.isDegenerate = false) (heard : s.busy ≠ s.own) :
    2 ^ (-64 : ℤ) ≤ s.roundedShare ∧ s.roundedShare ≤ 2 ^ (64 : ℤ) := by
  obtain ⟨hforeign, hforeign'⟩ := foreign_bounds h heard
  obtain ⟨hfree, hfree'⟩ := free_bounds h
  obtain ⟨hforeign, hforeign'⟩ := count_bounds hforeign hforeign'
  obtain ⟨hfree, hfree'⟩ := count_bounds hfree hfree'
  obtain ⟨hshare, hshare'⟩ := share_bounds hforeign hforeign' hfree hfree'
  exact ⟨two_zpow_le_nearest (by decide) hshare,
    nearest_le_two_zpow (by decide) ((two_zpow_pos _).le.trans hshare) hshare'⟩

/-- Silence has no ratio either, however loud the noise. -/
theorem roundedRatio_silent (h : s.isDegenerate = false) (silent : s.busy = s.own) (baseline : Int8) :
    s.roundedRatio baseline = 0 := by
  rw [roundedRatio, roundedShare_silent h silent, zero_mul, nearest_zero]

/-- Rounding moves a ratio over none of the bounds. -/
theorem roundedRatio_bounds (h : s.isDegenerate = false) (heard : s.busy ≠ s.own) (baseline : Int8) :
    2 ^ (-319 : ℤ) ≤ s.roundedRatio baseline ∧ s.roundedRatio baseline ≤ 2 ^ (319 : ℤ) := by
  obtain ⟨hshare, hshare'⟩ := roundedShare_bounds h heard
  obtain ⟨hratio, hratio'⟩ := weighted_bounds hshare hshare' s.noise baseline
  exact ⟨two_zpow_le_nearest (by decide) hratio,
    nearest_le_two_zpow (by decide) ((two_zpow_pos _).le.trans hratio) hratio'⟩

/-- **The ratio stands for the rounded ratio.** -/
theorem reads_ratio (h : s.isDegenerate = false) (baseline : Int8) :
    Reads (s.ratio baseline) (s.roundedRatio baseline) := by
  obtain ⟨hfree, hfree'⟩ := free_bounds h
  obtain ⟨hfree, -⟩ := count_bounds hfree hfree'
  have hgain := gain_bounds s.noise baseline
  have htop {a : ℚ} {k : ℤ} (hk : k ≤ 1000) (ha : a ≤ 2 ^ k) : a ≤ 2 ^ (1000 : ℤ) :=
    ha.trans (zpow_le_zpow_right₀ one_le_two hk)
  have hshare : Reads ((s.busy - s.own).toFloat / (s.total - s.own).toFloat) s.roundedShare := by
    refine (reads_toFloat _).div (reads_toFloat _) (one_pos.trans_le hfree) (htop (k := 64) (by decide) ?_)
    refine (div_le_self (nearest_nonneg _) hfree).trans ?_
    refine nearest_le_two_zpow (by decide) (Nat.cast_nonneg _) ?_
    exact_mod_cast (s.busy - s.own).toNat_lt.le
  refine hshare.mul (reads_twoPow (by omega) (by omega)) (htop (k := 319) (by decide) ?_)
  by_cases silent : s.busy = s.own
  · rw [roundedShare_silent h silent, zero_mul]
    exact (two_zpow_pos _).le
  · obtain ⟨hlow, hhigh⟩ := roundedShare_bounds h silent
    exact (weighted_bounds hlow hhigh ..).2

/-- **A computed ratio is zero just where a channel is silent.** -/
theorem ratio_le_zero (h : s.isDegenerate = false) (baseline : Int8) : s.ratio baseline ≤ 0 ↔ s.busy = s.own := by
  rw [(reads_ratio h baseline).le_iff reads_zero]
  constructor
  · intro hle
    by_contra heard
    have hpos := (two_zpow_pos _).trans_le (roundedRatio_bounds h heard baseline).1
    exact absurd hle (not_le.mpr hpos)
  · intro silent
    exact (roundedRatio_silent h silent baseline).le

/-- What is heard has a positive ratio: the product cannot underflow. -/
theorem ratio_pos (h : s.isDegenerate = false) (heard : s.busy ≠ s.own) (baseline : Int8) : 0 < s.ratio baseline := by
  rw [reads_zero.lt_iff (reads_ratio h baseline)]
  exact (two_zpow_pos _).trans_le (roundedRatio_bounds h heard baseline).1

/-! ## Factors -/

section

variable [BinaryLog]

/-- A silent sample has the lowest factor. -/
theorem factor_silent (h : s.isDegenerate = false) (silent : s.busy = s.own) (baseline : Int8) :
    s.factor baseline = some idleFactor := by
  rw [factor, h, if_neg Bool.false_ne_true, if_pos ((ratio_le_zero h baseline).mpr silent)]

/-- Any other one has the logarithm of its ratio, but for the floor. -/
theorem factor_heard (h : s.isDegenerate = false) (heard : s.busy ≠ s.own) (baseline : Int8) :
    s.factor baseline = some (atLeast idleFactor (BinaryLog.log2 (s.ratio baseline))) := by
  rw [factor, h, if_neg Bool.false_ne_true, if_neg (mt (ratio_le_zero h baseline).mp heard)]

/-- Every factor is a number, and the least one is that of a silent channel. -/
theorem exists_factor (h : s.isDegenerate = false) (baseline : Int8) :
    ∃ f, s.factor baseline = some f ∧ idleFactor ≤ f := by
  by_cases silent : s.busy = s.own
  · exact ⟨_, factor_silent h silent baseline, by decide⟩
  · exact ⟨_, factor_heard h silent baseline, le_atLeast (by decide) _⟩

end

/-- **What a sample is measured at**, before rounding and after it. -/
structure Measured (s : Sample) (baseline : Int8) : Prop where
  /-- No difference of counts wraps around. -/
  foreign : ((s.busy - s.own).toNat : Int) = s.busy.toNat - s.own.toNat
  free : ((s.total - s.own).toNat : Int) = s.total.toNat - s.own.toNat
  /-- The divisor is no less than one. -/
  divisor : 1 ≤ (s.total - s.own).toNat ∧ 1.0 ≤ (s.total - s.own).toFloat
  exact_zero : s.exactRatio baseline = 0 ↔ s.busy = s.own
  exact : s.busy ≠ s.own → 2 ^ (-319 : ℤ) ≤ s.exactRatio baseline ∧ s.exactRatio baseline ≤ 2 ^ (319 : ℤ)
  /-- The computed ratio is the exact one, rounded at four steps. -/
  reads : Reads (s.ratio baseline) (s.roundedRatio baseline)
  finite : (s.ratio baseline).isFinite = true
  rounded_zero : s.ratio baseline ≤ 0 ↔ s.busy = s.own
  rounded : s.busy ≠ s.own → twoPow (-319) ≤ s.ratio baseline ∧ s.ratio baseline ≤ twoPow 319

/-- Everything that is measured of a proper sample is in range. -/
theorem measured (h : s.isDegenerate = false) (baseline : Int8) : s.Measured baseline where
  foreign := by
    have hle := UInt64.le_iff_toNat_le.mp (proper_iff.mp h).2
    rw [toNat_foreign h]
    omega
  free := by
    have hlt := UInt64.lt_iff_toNat_lt.mp (proper_iff.mp h).1
    rw [toNat_free h]
    omega
  divisor := by
    obtain ⟨hfree, hfree'⟩ := free_bounds h
    exact ⟨free_pos h, (reads_one.le_iff (reads_toFloat _)).mpr (count_bounds hfree hfree').1⟩
  exact_zero := exactRatio_eq_zero h
  exact heard := exactRatio_bounds h heard baseline
  reads := reads_ratio h baseline
  finite := (reads_ratio h baseline).isFinite
  rounded_zero := ratio_le_zero h baseline
  rounded heard := by
    obtain ⟨hlow, hhigh⟩ := roundedRatio_bounds h heard baseline
    have hratio := reads_ratio h baseline
    exact ⟨((reads_twoPow (by decide) (by decide)).le_iff hratio).mpr hlow,
      (hratio.le_iff (reads_twoPow (by decide) (by decide))).mpr hhigh⟩

/-- The logarithm is asked for positive and finite numbers only: logarithms that agree on these give one factor. -/
theorem factor_congr (log log' : BinaryLog) (agree : ∀ x : Float, 0 < x → x.isFinite = true → log.log2 x = log'.log2 x)
    (s : Sample) (baseline : Int8) : @factor log s baseline = @factor log' s baseline := by
  cases h : s.isDegenerate with
  | true =>
    have hnone (log : BinaryLog) : @factor log s baseline = none := factor_eq_none.mpr h
    rw [hnone log, hnone log']
  | false =>
    by_cases silent : s.busy = s.own
    · have hidle (log : BinaryLog) : @factor log s baseline = some idleFactor := factor_silent h silent baseline
      rw [hidle log, hidle log']
    · have hsome (log : BinaryLog) : @factor log s baseline = some (atLeast idleFactor (log.log2 (s.ratio baseline))) :=
        factor_heard h silent baseline
      rw [hsome log, hsome log', agree _ (ratio_pos h silent baseline) (reads_ratio h baseline).isFinite]

/-- **Scoring stays in range.** A sample has no factor exactly when it spent all its time transmitting or was busy for
less than it transmitted. All others, those busy for longer than they lasted and those below the baseline too, are
`Measured`, and their factor is not below `idleFactor`: it is `idleFactor` on a silent channel, and on any other the
logarithm of the ratio, or `idleFactor` if that is greater. Of the logarithm only the values at positive and finite
numbers count. -/
theorem factor_in_range [log : BinaryLog] (s : Sample) (baseline : Int8) :
    (s.factor baseline = none ↔ s.total ≤ s.own ∨ s.busy < s.own) ∧
    (¬ (s.total ≤ s.own ∨ s.busy < s.own) →
      s.Measured baseline ∧
      ∃ f, s.factor baseline = some f ∧ idleFactor ≤ f ∧ (s.busy = s.own → f = idleFactor) ∧
        (s.busy ≠ s.own → f = atLeast idleFactor (log.log2 (s.ratio baseline)))) ∧
    ∀ log' : BinaryLog, (∀ x : Float, 0 < x → x.isFinite = true → log.log2 x = log'.log2 x) →
      @factor log s baseline = @factor log' s baseline := by
  refine ⟨factor_eq_none.trans isDegenerate_iff, fun proper => ?_,
    fun log' agree => factor_congr log log' agree s baseline⟩
  have h : s.isDegenerate = false := by rwa [← isDegenerate_iff, Bool.not_eq_true] at proper
  obtain ⟨f, hf, hlow⟩ := exists_factor h baseline
  refine ⟨measured h baseline, f, hf, hlow, fun silent => ?_, fun heard => ?_⟩
  · rw [factor_silent h silent, Option.some_inj] at hf
    exact hf.symm
  · rw [factor_heard h heard, Option.some_inj] at hf
    exact hf.symm

/-- Busy for all that a counter holds, on a dwell of one, and 255 dB below the baseline: 191 halvings, which is further
down than factors go. -/
theorem factor_in_range_inconsistent :
    let _ : BinaryLog := ⟨fun _ => -191.0⟩
    let s : Sample := { total := 1, busy := 18446744073709551615, own := 0, noise := -128 }
    ¬ (s.total ≤ s.own ∨ s.busy < s.own) ∧ s.isConsistent = false ∧ s.Measured 127 ∧
      s.ratio 127 = twoPow (-191) ∧ s.factor 127 = some (-64.0) := by
  intro log s
  have hproper : ¬ (s.total ≤ s.own ∨ s.busy < s.own) := by decide
  obtain ⟨-, hmeasured, -⟩ := factor_in_range s 127
  exact ⟨hproper, by decide, (hmeasured hproper).1, by decide +kernel, by decide +kernel⟩

end Sample

end ChannelSurvey

import ChannelSurvey.Proofs.Score.Factor

/-!
# More foreign traffic never lowers a factor

A sample that was busy for longer, on louder noise, and in less time, with as much of our own transmissions, shows
more interference in every respect.

**The law** (`factor_mono`): such a sample has no lesser factor, against any baseline; and a silent sample has no
greater factor than any other. Of the logarithm this asks that it keeps the order of positive finite numbers. All other
steps are roundings of an exact operation that keeps the order, and rounding keeps it too (`Binary.nearest_mono`). The
special value of a silent sample fits in, because it is the least factor there is.
-/

namespace ChannelSurvey

open Binary

/-- Moving numbers up to a bound keeps their order. -/
theorem atLeast_mono {least x y : Float} (number : least.isNaN = false) (h : x ≤ y) :
    atLeast least x ≤ atLeast least y := by
  by_cases hx : least ≤ x
  · have hy : least ≤ y := number_le_trans hx h
    rw [atLeast, atLeast, if_pos hx, if_pos hy]
    exact h
  · have hbound : atLeast least x = least := if_neg hx
    rw [hbound]
    exact le_atLeast number y

/-- A logarithm that keeps the order of positive finite numbers. -/
def BinaryLog.Ordered (log : BinaryLog) : Prop :=
  ∀ x y : Float, 0 < x → x ≤ y → y.isFinite = true → log.log2 x ≤ log.log2 y

namespace Sample

variable {s s' : Sample} {baseline : Int8}

/-- **A sample with no less interference in any respect**, and as much of our own transmissions. -/
structure Below (s s' : Sample) : Prop where
  own : s.own = s'.own
  busy : s.busy ≤ s'.busy
  noise : s.noise ≤ s'.noise
  total : s'.total ≤ s.total

/-- No less foreign time is heard above. -/
theorem Below.foreign_le (h : s.Below s') (proper : s.isDegenerate = false) (proper' : s'.isDegenerate = false) :
    (s.busy - s.own).toNat ≤ (s'.busy - s'.own).toNat := by
  have hbusy := UInt64.le_iff_toNat_le.mp h.busy
  rw [toNat_foreign proper, toNat_foreign proper', h.own]
  omega

/-- No more time is left there. -/
theorem Below.free_le (h : s.Below s') (proper : s.isDegenerate = false) (proper' : s'.isDegenerate = false) :
    (s'.total - s'.own).toNat ≤ (s.total - s.own).toNat := by
  have htotal := UInt64.le_iff_toNat_le.mp h.total
  rw [toNat_free proper, toNat_free proper', h.own]
  omega

/-- Below a sample that is silent there are silent ones only. -/
theorem Below.heard (h : s.Below s') (proper : s.isDegenerate = false) (heard : s.busy ≠ s.own) : s'.busy ≠ s'.own := by
  intro silent
  have hbusy := h.busy
  rw [silent, ← h.own] at hbusy
  exact heard (UInt64.le_antisymm hbusy (proper_iff.mp proper).2)

/-- The share keeps the order, in both of its counts. -/
theorem Below.roundedShare_le (h : s.Below s') (proper : s.isDegenerate = false) (proper' : s'.isDegenerate = false) :
    s.roundedShare ≤ s'.roundedShare := by
  have hforeign : nearest (s.busy - s.own).toNat ≤ nearest (s'.busy - s'.own).toNat :=
    nearest_mono (Nat.cast_nonneg _) (Nat.cast_le.mpr (h.foreign_le proper proper'))
  have hfree : nearest (s'.total - s'.own).toNat ≤ nearest (s.total - s.own).toNat :=
    nearest_mono (Nat.cast_nonneg _) (Nat.cast_le.mpr (h.free_le proper proper'))
  obtain ⟨hone, hlimit⟩ := free_bounds proper'
  have hpos : 0 < nearest (s'.total - s'.own).toNat := one_pos.trans_le (count_bounds hone hlimit).1
  refine nearest_mono (div_nonneg (nearest_nonneg _) (nearest_nonneg _)) ?_
  exact div_le_div₀ (nearest_nonneg _) hforeign hpos hfree

/-- So the rounded ratio is no less. -/
theorem Below.roundedRatio_le (h : s.Below s') (proper : s.isDegenerate = false) (proper' : s'.isDegenerate = false)
    (baseline : Int8) : s.roundedRatio baseline ≤ s'.roundedRatio baseline := by
  have hnoise := Int8.le_iff_toInt_le.mp h.noise
  have hgain : (2 : ℚ) ^ (s.noise.toInt - baseline.toInt) ≤ 2 ^ (s'.noise.toInt - baseline.toInt) :=
    zpow_le_zpow_right₀ one_le_two (by omega)
  refine nearest_mono (mul_nonneg (nearest_nonneg _) (two_zpow_pos _).le) ?_
  exact mul_le_mul (h.roundedShare_le proper proper') hgain (two_zpow_pos _).le (nearest_nonneg _)

/-- The floats compare as the rounded ratios do. -/
theorem Below.ratio_le (h : s.Below s') (proper : s.isDegenerate = false) (proper' : s'.isDegenerate = false)
    (baseline : Int8) : s.ratio baseline ≤ s'.ratio baseline :=
  ((reads_ratio proper baseline).le_iff (reads_ratio proper' baseline)).mpr (h.roundedRatio_le proper proper' baseline)

/-- **More foreign traffic never lowers a factor**, and no factor lies below that of a silent sample. -/
theorem factor_mono [log : BinaryLog] (ordered : log.Ordered) (baseline : Int8) (proper : s.isDegenerate = false)
    (proper' : s'.isDegenerate = false) (below : s.Below s' ∨ s.busy = s.own) :
    ∃ f f', s.factor baseline = some f ∧ s'.factor baseline = some f' ∧ f ≤ f' := by
  by_cases silent : s.busy = s.own
  · obtain ⟨f', hf', hlow⟩ := exists_factor proper' baseline
    exact ⟨_, f', factor_silent proper silent baseline, hf', hlow⟩
  · have h : s.Below s' := below.resolve_right silent
    have hlog := ordered _ _ (ratio_pos proper silent baseline) (h.ratio_le proper proper' baseline)
      (reads_ratio proper' baseline).isFinite
    exact ⟨_, _, factor_heard proper silent baseline, factor_heard proper' (h.heard proper silent) baseline,
      atLeast_mono (by decide) hlog⟩

/-- A busier sample on louder noise in a shorter dwell: twice as much interference as free time, instead of half as
much. The logarithm is exact on both ratios, and keeps the order of all numbers. -/
theorem factor_mono_louder :
    let log : BinaryLog := ⟨fun x => if x ≤ 0.5 then -1.0 else 1.0⟩
    let s : Sample := { total := 110, busy := 60, own := 10, noise := -95 }
    let s' : Sample := { total := 60, busy := 60, own := 10, noise := -94 }
    log.Ordered ∧ s.isDegenerate = false ∧ s'.isDegenerate = false ∧ s.Below s' ∧
      (s.ratio (-95) == 0.5) = true ∧ (s'.ratio (-95) == 2.0) = true ∧
      ∃ f f', s.factor (-95) = some f ∧ s'.factor (-95) = some f' ∧ f ≤ f' ∧ f < f' := by
  intro log s s'
  have hordered : log.Ordered := by
    intro x y _ hle _
    show (if x ≤ 0.5 then -1.0 else 1.0 : Float) ≤ if y ≤ 0.5 then -1.0 else 1.0
    by_cases hy : y ≤ 0.5
    · rw [if_pos (number_le_trans hle hy), if_pos hy]
      decide
    · rw [if_neg hy]
      split <;> decide
  have hbelow : s.Below s' := ⟨by decide, by decide, by decide, by decide⟩
  obtain ⟨f, f', hf, hf', hle⟩ := factor_mono hordered (-95) (by decide) (by decide) (.inl hbelow)
  refine ⟨hordered, by decide, by decide, hbelow, by decide +kernel, by decide +kernel, f, f', hf, hf', hle, ?_⟩
  have hs : s.factor (-95) = some (-1.0) := by decide +kernel
  have hs' : s'.factor (-95) = some 1.0 := by decide +kernel
  cases hs.symm.trans hf
  cases hs'.symm.trans hf'
  decide

end Sample

end ChannelSurvey

import ChannelSurvey.Proofs.Radio.Draws

/-!
# Samples are well formed

A profile may hold anything: shares far outside their range, infinities, no numbers at all. What is drawn from it is a
sample a radio could have taken all the same.

**The law** (`sample_wellFormed`): whenever a profile has a sample, the sample covers the dwell, our own time is part
of the busy time and the busy time part of the dwell, and the noise floor is off by no more than the jitter allows.

The busy share comes out of a clamp between zero and one, or is no number. A share between zero and one of a dwell does
not exceed it, because a dwell is a float with all its digits; what is no number takes up no time.
-/

namespace ChannelSurvey

/-! ## Drawn noise floors -/

/-- **A whole deviation stays within its reach.** -/
theorem Random.Generator.natAbs_wholeDeviation (g : Random.Generator) (reach : Nat) :
    (g.wholeDeviation reach).1.natAbs ≤ reach := by
  have hword : g.word.1.toNat ≤ 4294967295 := Nat.le_of_lt_succ g.word.1.toNat_lt
  have hscaled : g.word.1.toNat * (2 * reach + 1) ≤ 4294967295 * (2 * reach + 1) := Nat.mul_le_mul_right _ hword
  have hsize : UInt32.size = 4294967296 := rfl
  unfold wholeDeviation
  simp only [hsize]
  generalize g.word.1.toNat * (2 * reach + 1) = scaled at hscaled
  split
  · -- a carry is looked for only when there is room for it
    simp only
    split <;> omega
  · simp only
    omega

theorem toInt_clampNoise (dbm : Int) : (clampNoise dbm).toInt = max (-128) (min 127 dbm) :=
  Int8.toInt_ofInt_of_le (by omega) (by omega)

/-- A reading is clamped to itself. -/
theorem clampNoise_toInt (noise : Int8) : clampNoise noise.toInt = noise := by
  have hnoise := noise.le_toInt
  have hnoise' := noise.toInt_lt
  apply Int8.toInt_inj.mp
  rw [toInt_clampNoise]
  omega

/-- A noise floor and a deviation of it add up in 16 bits. -/
theorem toInt_noise_add (noise : Int8) {d : Int} (small : d.natAbs ≤ 255) :
    (noise.toInt16 + Int16.ofInt d).toInt = noise.toInt + d := by
  have hnoise := noise.le_toInt
  have hnoise' := noise.toInt_lt
  rw [Int16.toInt_add, Int8.toInt_toInt16, Int16.toInt_ofInt_of_le (by omega) (by omega)]
  exact Int.bmod_eq_of_le (by omega) (by omega)

/-- A sample that a dwell on a channel with a profile can come to. -/
structure Sample.WellFormed (s : Sample) (p : Profile) (dwell : UInt32) : Prop where
  total : s.total.toNat = 1000 * max 1 dwell.toNat
  own_le : s.own ≤ s.busy
  busy_le : s.busy ≤ s.total
  /-- The noise floor deviates by `d`, which is added in 16 bits and clamped to eight. -/
  noise : ∃ d : Int, d.natAbs ≤ p.noiseJitter.toNat ∧ (p.noise.toInt16 + Int16.ofInt d).toInt = p.noise.toInt + d ∧
    s.noise.toInt = max (-128) (min 127 (p.noise.toInt + d))

namespace Profile

variable {p : Profile} {dwell : UInt32} {g g' : Random.Generator} {s : Sample}

theorem drawNoise_deviates (p : Profile) (g : Random.Generator) :
    ∃ d : Int, d.natAbs ≤ p.noiseJitter.toNat ∧ (p.drawNoise g).1.toInt = max (-128) (min 127 (p.noise.toInt + d)) := by
  unfold drawNoise
  split
  · exact ⟨_, g.natAbs_wholeDeviation _, toInt_clampNoise _⟩
  · refine ⟨0, Nat.zero_le _, ?_⟩
    rw [Int.add_zero, ← toInt_clampNoise, clampNoise_toInt]

/-! ## Times -/

/-- No share of a dwell exceeds it, and what is no number takes up no time. -/
theorem timeShare_le (dwell : UInt32) {share : Float} (h : share.isNaN = true ∨ 0.0 ≤ share ∧ share ≤ 1.0) :
    timeShare (dwellTime dwell) share ≤ dwellTime dwell := by
  rcases h with hnone | ⟨hlow, hhigh⟩
  · rw [timeShare, Binary.nearestCount_mul_notANumber _ hnone]
    exact UInt64.zero_le
  · have hfits : (dwellTime dwell).toNat < 2 ^ 53 := by
      have hdwell := dwell.toNat_lt
      rw [toNat_dwellTime]
      omega
    exact Binary.nearestCount_mul_le hfits hlow hhigh

/-- The busy share of a sample lies between zero and one, or is no number. -/
theorem busyShare_of_clamp {own busy x : Float} (number : p.own.isNaN = false) (hown : clamp? 0.0 1.0 p.own = some own)
    (hbusy : clamp? own 1.0 x = some busy) : busy.isNaN = true ∨ 0.0 ≤ busy ∧ busy ≤ 1.0 := by
  cases hx : x.isNaN with
  | true =>
    rw [clamp_notANumber hx (order_of_clamp hbusy), Option.some.injEq] at hbusy
    exact .inl (hbusy ▸ hx)
  | false =>
    obtain ⟨hlow, -⟩ := between_of_clamp number hown
    obtain ⟨habove, hhigh⟩ := between_of_clamp hx hbusy
    exact .inr ⟨number_le_trans hlow habove, hhigh⟩

/-- **Samples are well formed**, whatever the profile. -/
theorem sample_wellFormed (p : Profile) (dwell : UInt32) (g g' : Random.Generator) (s : Sample)
    (drawn : p.sample? dwell g = some (s, g')) : s.WellFormed p dwell := by
  have hnumber := (exists_sample_iff p dwell g).mp ⟨_, drawn⟩
  obtain ⟨own, busy, hown, hbusy, rfl⟩ := sample_eq_some drawn
  obtain ⟨d, hd, hnoise⟩ := p.drawNoise_deviates (p.drawBusy g).2
  have hjitter : p.noiseJitter.toNat ≤ 255 := Nat.le_of_lt_succ p.noiseJitter.toNat_lt
  exact {
    total := toNat_dwellTime dwell
    own_le := Std.min_le_right
    busy_le := timeShare_le dwell (busyShare_of_clamp hnumber hown hbusy)
    noise := ⟨d, hd, toInt_noise_add p.noise (hd.trans hjitter), hnoise⟩ }

/-- More of a dwell of no length for ourselves than there is, a busy share that is no number, and a noise floor that
is drawn above its range. -/
theorem sample_wellFormed_wild :
    let p : Profile := { busy := 0.0 / 0.0, own := 7.0, noise := 100, noiseJitter := 255, busyJitter := 1.0 / 0.0 }
    let s : Sample := { total := 1000, busy := 0, own := 0, noise := 127 }
    (∃ g', p.sample? 0 (.ofSeed 1) = some (s, g')) ∧ s.WellFormed p 0 := by
  intro p s
  have hmap : (p.sample? 0 (.ofSeed 1)).map Prod.fst = some s := by decide +kernel
  obtain ⟨⟨_, g'⟩, drawn, rfl⟩ := Option.map_eq_some_iff.mp hmap
  exact ⟨⟨g', drawn⟩, sample_wellFormed p 0 (.ofSeed 1) g' s drawn⟩

end Profile

end ChannelSurvey

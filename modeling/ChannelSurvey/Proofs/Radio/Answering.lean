import ChannelSurvey.Proofs.Radio.Consistency

/-!
# Which surveys are answered

Nothing checks a profile before a simulated radio draws from it. The draws rely on their ranges, which must not be
empty and must be finite, and the clamps on their bounds, which must be in order. `Profile.guardedSample` draws the
same sample and looks at each of these before it goes on.

**The law** (`survey_guarded`): a survey that is not refused is answered with one sample if the share of our own
transmissions is a number, whatever else is in the profile. If it is none, one clamp is at fault: the share stays what
it is when it is clamped itself, and then serves as a bound for the busy share. The radio is broken after that, so not
every survey is answered (`not_always_answered`).

The ranges are never at fault. A deviation of the busy share is drawn only for a jitter that is positive and finite,
and from at most one on either side; a deviation of the noise floor from at most 255.
-/

namespace ChannelSurvey

open Binary (Small Reads)

/-- Why a sample cannot be drawn. -/
inductive DrawFault where
  /-- A range is empty, or not finite. -/
  | range
  /-- The bounds of a clamp are not in order. -/
  | bounds
  deriving DecidableEq, Repr

/-! ## Guarded draws -/

/-- A deviation from a range that is neither empty nor infinite. -/
def Random.Generator.guardedReal (g : Random.Generator) (reach : Float) : Except DrawFault (Float × Random.Generator) :=
  if -reach ≤ reach ∧ (-reach).isFinite ∧ reach.isFinite ∧ (reach - -reach).isFinite then .ok (g.realDeviation reach)
  else .error .range

/-- A deviation from a range of 16-bit words that is not empty. -/
def Random.Generator.guardedWhole (g : Random.Generator) (reach : Int16) : Except DrawFault (Int × Random.Generator) :=
  if -reach ≤ reach then .ok (g.wholeDeviation reach.toInt.toNat) else .error .range

def guardedClamp (low high x : Float) : Except DrawFault Float :=
  (clamp? low high x).elim (.error .bounds) .ok

def guardedClampWord (low high x : Int16) : Except DrawFault Int16 :=
  if low ≤ high then .ok (if x < low then low else if high < x then high else x) else .error .bounds

namespace Profile

def guardedBusy (p : Profile) (g : Random.Generator) : Except DrawFault (Float × Random.Generator) :=
  if p.busyJitter.isFinite && 0 < p.busyJitter then
    (g.guardedReal (atMost 1.0 p.busyJitter)).map fun (d, g) => (p.busy + d, g)
  else .ok (p.busy, g)

/-- By how much the noise floor of one sample is off. -/
def guardedDeviation (p : Profile) (g : Random.Generator) : Except DrawFault (Int × Random.Generator) :=
  if 0 < p.noiseJitter then g.guardedWhole (.ofNat p.noiseJitter.toNat) else .ok (0, g)

/-- The noise floor of one sample, worked out in 16 bits. -/
def guardedNoise (p : Profile) (g : Random.Generator) : Except DrawFault (Int8 × Random.Generator) := do
  let (d, g) ← p.guardedDeviation g
  let dbm ← guardedClampWord (-128) 127 (p.noise.toInt16 + Int16.ofInt d)
  return (dbm.toInt8, g)

/-- One sample of a dwell, if no draw and no clamp is at fault. -/
def guardedSample (p : Profile) (dwell : UInt32) (g : Random.Generator) :
    Except DrawFault (Sample × Random.Generator) := do
  let total := dwellTime dwell
  let (drawn, g) ← p.guardedBusy g
  let own ← guardedClamp 0.0 1.0 p.own
  let busy ← guardedClamp own 1.0 drawn
  let (noise, g) ← p.guardedNoise g
  let busyTime := timeShare total busy
  return ({ total, busy := busyTime, own := min (timeShare total own) busyTime, noise }, g)

end Profile

/-! ## Ranges -/

section

variable {x : Float}

/-- A share lies above its opposite. -/
theorem neg_le_of_isShare (h : isShare x = true) : -x ≤ x := by
  have hsmall : Small (-52) x := small_of_isShare h
  obtain ⟨a, hreads, -⟩ := Binary.reads_share (isShare_iff.mp h).1 (isShare_iff.mp h).2
  have hneg : (-x).toModel.unpack = x.toModel.unpack.neg :=
    Binary.unpack_of_pack rfl (Binary.neg_bounded hsmall) (by decide)
  rw [le_iff_place (hsmall.neg (by decide)).number hsmall.number, place, place, hneg]
  unfold Reads at hreads
  generalize x.toModel.unpack = u at hreads
  cases hreads with
  | zero s => exact le_rfl
  | finite kept => exact Prod.Lex.toLex_le_toLex.mpr (.inl (show (-1 : Int) < 1 by decide))

/-- The range of a deviation is in order for any share. -/
theorem guardedReal_of_isShare (g : Random.Generator) (h : isShare x = true) :
    g.guardedReal x = .ok (g.realDeviation x) := by
  have hsmall : Small (-52) x := small_of_isShare h
  have hneg : Small (-52) (-x) := hsmall.neg (by decide)
  have hspan : Small (-50) (x - -x) := hsmall.sub hneg (by decide)
  exact if_pos ⟨neg_le_of_isShare h, hneg.isFinite, hsmall.isFinite, hspan.isFinite⟩

theorem guardedWhole_of_nonneg (g : Random.Generator) {reach : Nat} (small : reach ≤ 255) :
    g.guardedWhole (.ofNat reach) = .ok (g.wholeDeviation reach) := by
  have hreach : (Int16.ofNat reach).toInt = reach := Int16.toInt_ofNat_of_lt (by omega)
  have hneg : (-Int16.ofNat reach).toInt = -reach := by
    rw [Int16.toInt_neg, hreach]
    exact Int.bmod_eq_of_le (by omega) (by omega)
  have hrange : -Int16.ofNat reach ≤ Int16.ofNat reach := by
    rw [Int16.le_iff_toInt_le, hneg, hreach]
    omega
  rw [Random.Generator.guardedWhole, if_pos hrange, hreach, Int.toNat_natCast]

end

namespace Profile

/-! ## Guarded samples -/

/-- Drawing a busy share never faults. -/
theorem guardedBusy_eq (p : Profile) (g : Random.Generator) : p.guardedBusy g = .ok (p.drawBusy g) := by
  unfold guardedBusy drawBusy
  split
  · rename_i hjitter
    have hpos : 0 < p.busyJitter := of_decide_eq_true (Bool.and_eq_true_iff.mp hjitter).2
    rw [guardedReal_of_isShare g (isShare_of_pos hpos)]
    rfl
  · rfl

theorem toInt_clampWord {low high : Int16} (order : low ≤ high) (x : Int16) :
    (if x < low then low else if high < x then high else x).toInt = max low.toInt (min high.toInt x.toInt) := by
  rw [Int16.le_iff_toInt_le] at order
  simp only [Int16.lt_iff_toInt_lt]
  split
  · omega
  · split <;> omega

/-- Clamping to the range of a reading is the same in 16 bits. -/
theorem guardedClampWord_eq (x : Int16) :
    ∃ dbm, guardedClampWord (-128) 127 x = .ok dbm ∧ dbm.toInt8 = clampNoise x.toInt := by
  have horder : (-128 : Int16) ≤ 127 := by decide
  have hlow : (-128 : Int16).toInt = -128 := rfl
  have hhigh : (127 : Int16).toInt = 127 := rfl
  refine ⟨_, if_pos horder, Int8.toInt_inj.mp ?_⟩
  rw [Int16.toInt_toInt8, toInt_clampWord horder, toInt_clampNoise, hlow, hhigh]
  exact Int.bmod_eq_of_le (by omega) (by omega)

/-- Nor does drawing a deviation of the noise, which fits its word. -/
theorem guardedDeviation_eq (p : Profile) (g : Random.Generator) :
    ∃ d g', p.guardedDeviation g = .ok (d, g') ∧ d.natAbs ≤ 255 ∧
      p.drawNoise g = (clampNoise (p.noise.toInt + d), g') := by
  have hjitter : p.noiseJitter.toNat ≤ 255 := Nat.le_of_lt_succ p.noiseJitter.toNat_lt
  unfold guardedDeviation drawNoise
  split
  · exact ⟨_, _, guardedWhole_of_nonneg g hjitter, (g.natAbs_wholeDeviation _).trans hjitter, rfl⟩
  · refine ⟨0, g, rfl, Nat.zero_le _, ?_⟩
    rw [Int.add_zero, clampNoise_toInt]

/-- So drawing the noise never faults. -/
theorem guardedNoise_eq (p : Profile) (g : Random.Generator) : p.guardedNoise g = .ok (p.drawNoise g) := by
  obtain ⟨d, g', hdeviation, hsmall, hdrawn⟩ := p.guardedDeviation_eq g
  obtain ⟨dbm, hclamp, hnoise⟩ := guardedClampWord_eq (p.noise.toInt16 + Int16.ofInt d)
  rw [toInt_noise_add p.noise hsmall] at hnoise
  simp only [guardedNoise, hdeviation, hclamp, hdrawn, ← hnoise, bind, Except.bind, pure, Except.pure]

/-- **Only a clamp can be at fault**, and it is where the sample is missing. -/
theorem guardedSample_eq (p : Profile) (dwell : UInt32) (g : Random.Generator) :
    p.guardedSample dwell g = (p.sample? dwell g).elim (.error .bounds) .ok := by
  simp only [guardedSample, sample?, guardedBusy_eq, guardedNoise_eq, guardedClamp, bind, Except.bind, pure,
    Except.pure]
  cases clamp? 0.0 1.0 p.own with
  | none => rfl
  | some own =>
    simp only [Option.elim_some, Option.bind_some]
    cases clamp? own 1.0 (p.drawBusy g).1 with
    | none => rfl
    | some busy => rfl

end Profile

/-! ## Surveys -/

namespace SimulatedRadio

/-- **A survey that is not refused** is answered when our own share is a number. When it is none, no draw is at fault
but the clamp of the busy share is. -/
theorem survey_guarded (r : SimulatedRadio) (freq : UInt32) (allowed : r.refusesSurvey.contains freq = false) :
    let p := r.profileAt freq
    let drawn := p.guardedSample ((r.dwells.get? freq).getD 1) r.generator
    (p.own.isNaN = false → ∃ s generator, drawn = .ok (s, generator) ∧
      r.requestTraffic freq = { reply := .ok [s], radio := { r with generator }, log := [.debug] }) ∧
    (p.own.isNaN = true → drawn = .error .bounds ∧ (r.requestTraffic freq).radio.broken = true) := by
  intro p drawn
  have hdrawn : drawn = (p.sample? ((r.dwells.get? freq).getD 1) r.generator).elim (.error .bounds) .ok :=
    p.guardedSample_eq _ _
  have hexists := p.exists_sample_iff ((r.dwells.get? freq).getD 1) r.generator
  have hrefused : ¬ r.refusesSurvey.contains freq = true := by
    rw [allowed]
    exact Bool.false_ne_true
  rw [requestTraffic, if_neg hrefused, hdrawn]
  constructor
  · intro hnumber
    obtain ⟨⟨s, generator⟩, hsample⟩ := hexists.mpr hnumber
    rw [hsample]
    exact ⟨s, generator, rfl, rfl⟩
  · intro hnone
    cases hsample : p.sample? ((r.dwells.get? freq).getD 1) r.generator with
    | some found =>
      rw [hexists.mp ⟨found, hsample⟩] at hnone
      cases hnone
    | none => exact ⟨rfl, rfl⟩

/-- Shares and jitters that are infinite, huge or negative. -/
theorem survey_guarded_huge :
    let p : Profile := { busy := 1.0 / 0.0, own := -1e308, noise := -128, noiseJitter := 255, busyJitter := 1e308 }
    let r := SimulatedRadio.new 1 p
    r.refusesSurvey.contains 2412 = false ∧ (r.profileAt 2412).own.isNaN = false ∧
      ∃ s generator, (r.profileAt 2412).guardedSample ((r.dwells.get? 2412).getD 1) r.generator = .ok (s, generator) ∧
        r.requestTraffic 2412 = { reply := .ok [s], radio := { r with generator }, log := [.debug] } := by
  intro p r
  have hallowed : r.refusesSurvey.contains 2412 = false := rfl
  have hnumber : (r.profileAt 2412).own.isNaN = false := by decide +kernel
  exact ⟨hallowed, hnumber, (survey_guarded r 2412 hallowed).1 hnumber⟩

/-- **A survey that is not refused may break the radio**: the share of our own transmissions is no number. -/
theorem not_always_answered :
    ¬ ∀ (r : SimulatedRadio) (freq : UInt32), r.refusesSurvey.contains freq = false →
      ∃ s, (r.requestTraffic freq).reply = .ok [s] := by
  intro answered
  let p : Profile := { busy := 0.5, own := 0.0 / 0.0, noise := -95, noiseJitter := 0, busyJitter := 0.0 }
  obtain ⟨s, hreply⟩ := answered (.new 1 p) 2412 rfl
  have hnone : ((SimulatedRadio.new 1 p).requestTraffic 2412).reply.toOption = some [] := by decide +kernel
  rw [hreply] at hnone
  cases hnone

end SimulatedRadio

end ChannelSurvey

import ChannelSurvey.Proofs.Binary.Nearest
import ChannelSurvey.Proofs.Radio.Sampling

/-!
# What a generator decides about a sample

A sample of a channel is drawn from its profile and a generator. The draw moves the busy share and the noise
floor; the time of the dwell and our own share of it are not drawn.

**The law** (`isDegenerate_of_sample`): a valid profile and a dwell decide whether a sample is degenerate,
whatever is drawn. A drawn share is always a number (`drawBusy_number`), so it is clamped to between our own
share and one; the busy time is then at least our own time, since the share of a time grows with the share.

A profile without deviations decides all of its samples (`sample_of_still`).
-/

namespace ChannelSurvey

open Binary (Small)

variable {x y low high : Float}

/-! ## Drawn shares -/

namespace Binary

open Float.Model (Format)
open Float.Model.UnpackedFloat

/-- The bits put together for a draw are those of a float between one and two. -/
theorem unpackExponent_unit (w : UInt64) :
    (@unpackExponent Format.binary64 (w >>> 12 ||| 0x3FF0000000000000).toBitVec).toNat = 1023 := by
  have hhigh : w.toNat >>> 12 >>> 52 = 0 := by
    rw [← Nat.shiftRight_add, Nat.shiftRight_eq_div_pow]
    exact Nat.div_eq_of_lt w.toNat_lt
  unfold unpackExponent
  simp only [BitVec.toNat_cast, BitVec.extractLsb_toNat, UInt64.toBitVec_or, BitVec.toNat_or, UInt64.toNat_toBitVec,
    UInt64.toNat_shiftRight]
  rw [Nat.shiftRight_or_distrib]
  show (w.toNat >>> 12 >>> 52 ||| 1023) % 2048 = 1023
  rw [hhigh]
  rfl

theorem small_one : Small (-52) 1.0 :=
  Small.of_share (by decide) (number_le_refl (by decide))

/-- A draw from the unit interval is small. -/
theorem small_unitFloat (w : UInt64) : Small (-50) (Random.Generator.unitFloat w) := by
  have hexponent := unpackExponent_unit w
  have hbits : Bounded (-52) (unpack Format.binary64 (w >>> 12 ||| 0x3FF0000000000000).toBitVec) := by
    refine bounded_unpack (BitVec.toNat_ne.mpr ?_) (by decide) ?_
    · rw [hexponent]
      decide
    · rw [hexponent]
      decide
  have hunit : Small (-52) (Float.ofBits (w >>> 12 ||| 0x3FF0000000000000)) := small_of_pack rfl hbits (by decide)
  exact hunit.sub small_one (by decide)

/-- A deviation is as small as its reach and two draws allow. -/
theorem small_realDeviation (g : Random.Generator) {reach : Float} (h : Small (-52) reach) :
    Small (-44) (g.realDeviation reach).1 := by
  have hneg : Small (-52) (-reach) := h.neg (by decide)
  have hspan : Small (-50) (reach - -reach) := h.sub hneg (by decide)
  have hscaled : Small (-46) (Random.Generator.unitFloat g.wideWord.1 * (reach - -reach)) :=
    (small_unitFloat g.wideWord.1).mul hspan (by decide) (by decide) (by decide)
  exact hscaled.add (hneg.mono (by decide)) (by decide)

end Binary

/-- What equals zero is not above it, be it a zero of either sign. -/
theorem number_not_lt_of_eq (h : (x == 0.0) = true) : ¬ 0 < x := by
  have heq : (x.toModel.unpack.compare (0.0 : Float).toModel.unpack == some .eq) = true := h
  intro hlt
  have hlt' : ((0.0 : Float).toModel.unpack.compare x.toModel.unpack == some .lt) = true := of_decide_eq_true hlt
  rw [Binary.unpack_zero] at heq hlt'
  cases hx : x.toModel.unpack with
  | notANumber | zero s =>
    rw [hx] at hlt'
    cases hlt'
  | infinity s | finite s m e pos =>
    rw [hx] at heq
    cases s <;> cases heq

/-- A share is small: it lies between zero and one. -/
theorem small_of_isShare (h : isShare x = true) : Small (-52) x := by
  obtain ⟨hlow, hhigh⟩ := isShare_iff.mp h
  exact Small.of_share hlow hhigh

/-- The lesser of one and a positive number is a share. -/
theorem isShare_of_pos (pos : 0 < x) : isShare (atMost 1.0 x) = true := by
  have hpos : 0.0 < x := pos
  obtain ⟨hzero, hnumber⟩ := numbers_of_lt hpos
  unfold atMost
  split
  · rename_i hless
    exact isShare_iff.mpr ⟨number_le_of_lt hzero hnumber hpos, number_le_of_lt hnumber (by decide) hless⟩
  · decide

namespace Profile

variable {p : Profile} {dwell : UInt32} {g g' : Random.Generator} {s : Sample}

/-- A valid profile never draws a busy share that is NaN. -/
theorem drawBusy_number (valid : p.check = .ok ()) (g : Random.Generator) : (p.drawBusy g).1.isNaN = false := by
  have hbusy : Small (-52) p.busy := small_of_isShare (isShare_of_check valid .busy)
  unfold drawBusy
  split
  · rename_i hjitter
    have hpos : 0 < p.busyJitter := of_decide_eq_true (Bool.and_eq_true_iff.mp hjitter).2
    have hreach : Small (-52) (atMost 1.0 p.busyJitter) := small_of_isShare (isShare_of_pos hpos)
    exact ((hbusy.mono (by decide)).add (Binary.small_realDeviation g hreach) (by decide)).number
  · exact hbusy.number

/-! ## Samples -/

/-- A dwell in microseconds, of a millisecond at least, fits its word. -/
theorem toNat_dwellTime (dwell : UInt32) : (dwellTime dwell).toNat = 1000 * max 1 dwell.toNat := by
  have hmax : (max dwell 1).toNat = max 1 dwell.toNat := by
    show (if dwell ≤ 1 then 1 else dwell).toNat = _
    split
    · rename_i hshort
      have hle : dwell.toNat ≤ 1 := UInt32.le_iff_toNat_le.mp hshort
      exact (Nat.max_eq_left hle).symm
    · rename_i hlong
      have hlt : 1 < dwell.toNat := UInt32.lt_iff_toNat_lt.mp (UInt32.not_le.mp hlong)
      exact (Nat.max_eq_right hlt.le).symm
  have hlimit := (max dwell 1).toNat_lt
  rw [dwellTime, UInt64.toNat_mul, UInt32.toNat_toUInt64, ← hmax]
  show (max dwell 1).toNat * 1000 % 2 ^ 64 = _
  rw [Nat.mod_eq_of_lt (by omega), Nat.mul_comm]

/-- **The share of a dwell grows with the share.** -/
theorem timeShare_mono (dwell : UInt32) (low : 0.0 ≤ x) (le : x ≤ y) (high : y ≤ 1.0) :
    timeShare (dwellTime dwell) x ≤ timeShare (dwellTime dwell) y :=
  Binary.nearestCount_mul_mono _ low le high

/-- **The times of a sample**: the dwell and our own share of it are not drawn, and the busy time is no less. -/
theorem times_of_sample (valid : p.check = .ok ()) (drawn : p.sample? dwell g = some (s, g')) :
    s.total = dwellTime dwell ∧ s.own = timeShare (dwellTime dwell) p.own ∧ s.own ≤ s.busy := by
  have hvalid : isShare p.own = true := isShare_of_check valid .own
  obtain ⟨own, busy, hown, hbusy, rfl⟩ := sample_eq_some drawn
  rw [clamp_of_isShare hvalid, Option.some.injEq] at hown
  subst hown
  obtain ⟨habove, hbelow⟩ := between_of_clamp (drawBusy_number valid g) hbusy
  exact ⟨rfl, if_pos (timeShare_mono dwell (isShare_iff.mp hvalid).1 habove hbelow), Std.min_le_right⟩

/-- Our own transmissions fill the dwell. -/
def isFull (p : Profile) (dwell : UInt32) : Bool :=
  dwellTime dwell ≤ timeShare (dwellTime dwell) p.own

/-- **Whether a sample is degenerate** is not drawn. -/
theorem isDegenerate_of_sample (valid : p.check = .ok ()) (drawn : p.sample? dwell g = some (s, g')) :
    s.isDegenerate = p.isFull dwell := by
  obtain ⟨htotal, hown, hle⟩ := times_of_sample valid drawn
  have hbusy : ¬ s.busy < s.own := UInt64.not_lt.mpr hle
  rw [Sample.isDegenerate, isFull, htotal, decide_eq_false hbusy, Bool.or_false, hown]

/-- A profile without deviations. -/
structure Still (p : Profile) : Prop where
  noise : p.noiseJitter = 0
  busy : (p.busyJitter == 0.0) = true

/-- A still profile draws its own shares and leaves the generator alone. -/
theorem Still.draws (h : p.Still) (g : Random.Generator) :
    p.drawBusy g = (p.busy, g) ∧ p.drawNoise g = (p.noise, g) := by
  have hbusy : ¬ 0 < p.busyJitter := number_not_lt_of_eq h.busy
  have hnoise : ¬ 0 < p.noiseJitter := by
    rw [h.noise]
    exact UInt8.lt_irrefl _
  rw [drawBusy, drawNoise, decide_eq_false hbusy, Bool.and_false, if_neg Bool.false_ne_true, if_neg hnoise]
  exact ⟨rfl, rfl⟩

/-- A profile without deviations leaves nothing to a generator. -/
theorem sample_of_still (h : p.Still) (dwell : UInt32) (g g' : Random.Generator) :
    p.sample? dwell g = (p.sample? dwell g').map fun drawn => (drawn.1, g) := by
  simp only [sample?, (h.draws g).1, (h.draws g).2, (h.draws g').1, (h.draws g').2, Option.bind_eq_bind,
    Option.pure_def]
  cases clamp? 0.0 1.0 p.own with
  | none => rfl
  | some own =>
    simp only [Option.bind_some]
    cases clamp? own 1.0 p.busy with
    | none => rfl
    | some busy => rfl

end Profile

end ChannelSurvey

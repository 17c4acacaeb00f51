import ChannelSurvey.Proofs.Score.Order
import ChannelSurvey.Radio.Simulated
import ChannelSurvey.Validity

/-!
# Which profiles can be sampled

Drawing a sample clamps the busy share to the clamped share of our own transmissions and one. There is no sample only
when these bounds are not in order, and the share of our own transmissions is the one thing this depends on.

**The law** (`exists_sample_iff`): a profile has a sample exactly when its own share is a number, for every dwell and
every generator. The other parts of it may be anything.

So a valid profile always has a sample (`exists_sample`), and a simulated radio whose profiles are valid stays `Whole`,
whatever is asked of it.
-/

namespace ChannelSurvey

section

variable {low high x y : Float}

theorem exists_clamp (order : low ≤ high) (x : Float) : ∃ y, clamp? low high x = some y := by
  rw [clamp?, if_pos order]
  exact ⟨_, rfl⟩

theorem order_of_clamp (clamped : clamp? low high x = some y) : low ≤ high := by
  unfold clamp? at clamped
  split at clamped
  · assumption
  · cases clamped

/-- **A number is clamped to between the bounds.** -/
theorem between_of_clamp (number : x.isNaN = false) (clamped : clamp? low high x = some y) : low ≤ y ∧ y ≤ high := by
  have order := order_of_clamp clamped
  obtain ⟨hlow, hhigh⟩ := numbers_of_le order
  rw [clamp?, if_pos order, Option.some.injEq] at clamped
  subst clamped
  split
  · exact ⟨number_le_refl hlow, order⟩
  · rename_i hnotBelow
    split
    · exact ⟨order, number_le_refl hhigh⟩
    · rename_i hnotAbove
      exact ⟨number_le_of_not_lt number hlow hnotBelow, number_le_of_not_lt hhigh number hnotAbove⟩

/-- What is no number is on neither side of a bound. -/
theorem clamp_notANumber (none : x.isNaN = true) (order : low ≤ high) : clamp? low high x = some x := by
  have hnot {p : Prop} (number : x.isNaN = false) : p := by
    rw [none] at number
    cases number
  rw [clamp?, if_pos order, if_neg fun h => hnot (numbers_of_lt h).1, if_neg fun h => hnot (numbers_of_lt h).2]

end

theorem isShare_iff {x : Float} : isShare x = true ↔ 0.0 ≤ x ∧ x ≤ 1.0 := by
  simp only [isShare, Bool.and_eq_true, decide_eq_true_iff]

/-- A share is clamped to itself. -/
theorem clamp_of_isShare {x : Float} (share : isShare x = true) : clamp? 0.0 1.0 x = some x := by
  obtain ⟨hlow, hhigh⟩ := isShare_iff.mp share
  rw [clamp?, if_pos (by decide), if_neg (number_not_lt_of_le hlow), if_neg (number_not_lt_of_le hhigh)]

namespace Profile

/-- The shares of a valid profile are shares. -/
theorem isShare_of_check {p : Profile} (valid : p.check = .ok ()) (share : Share) : isShare (p.share share) = true := by
  cases hwrong : p.wrongShare? with
  | some share =>
    rw [check, hwrong] at valid
    cases valid
  | none =>
    have hshares := List.find?_eq_none.mp hwrong share (by cases share <;> decide)
    simpa using hshares

section

variable {p : Profile} {dwell : UInt32} {g g' : Random.Generator} {s : Sample}

/-- What a sample is made of. -/
theorem sample_eq_some (drawn : p.sample? dwell g = some (s, g')) :
    ∃ own busy, clamp? 0.0 1.0 p.own = some own ∧ clamp? own 1.0 (p.drawBusy g).1 = some busy ∧
      s = { total := dwellTime dwell
            busy := timeShare (dwellTime dwell) busy
            own := min (timeShare (dwellTime dwell) own) (timeShare (dwellTime dwell) busy)
            noise := (p.drawNoise (p.drawBusy g).2).1 } := by
  simp only [sample?, Option.bind_eq_bind, Option.bind_eq_some_iff, Option.pure_def, Option.some.injEq,
    Prod.mk.injEq] at drawn
  obtain ⟨own, hown, busy, hbusy, rfl, -⟩ := drawn
  exact ⟨own, busy, hown, hbusy, rfl⟩

/-- **A profile has a sample** exactly when its own share is a number. -/
theorem exists_sample_iff (p : Profile) (dwell : UInt32) (g : Random.Generator) :
    (∃ drawn, p.sample? dwell g = some drawn) ↔ p.own.isNaN = false := by
  constructor
  · rintro ⟨⟨s, g'⟩, drawn⟩
    obtain ⟨own, busy, hown, hbusy, -⟩ := sample_eq_some drawn
    by_contra hnone
    rw [Bool.not_eq_false] at hnone
    -- the bound is clamped to itself, and is no bound
    rw [clamp_notANumber hnone (order_of_clamp hown), Option.some.injEq] at hown
    subst hown
    rw [(numbers_of_le (order_of_clamp hbusy)).1] at hnone
    cases hnone
  · intro hnumber
    have hunit : (0.0 : Float) ≤ 1.0 := by decide
    obtain ⟨own, hown⟩ := exists_clamp hunit p.own
    obtain ⟨busy, hbusy⟩ := exists_clamp (between_of_clamp hnumber hown).2 (p.drawBusy g).1
    simp only [sample?, hown, hbusy, Option.bind_eq_bind, Option.bind_some]
    exact ⟨_, rfl⟩

end

/-- **A valid profile has a sample.** -/
theorem exists_sample {p : Profile} (valid : p.check = .ok ()) (dwell : UInt32) (g : Random.Generator) :
    ∃ s, p.sample? dwell g = some s :=
  (exists_sample_iff p dwell g).mpr (numbers_of_le (isShare_iff.mp (isShare_of_check valid .own)).1).2

end Profile

namespace SimulatedRadio

/-- A radio that works, and whose profiles are valid. -/
structure Whole (r : SimulatedRadio) : Prop where
  works : r.broken = false
  valid : ∀ freq, (r.profileAt freq).check = .ok ()

theorem Whole.requestKickoff {r : SimulatedRadio} (h : r.Whole) : r.requestKickoff.radio.Whole := by
  unfold SimulatedRadio.requestKickoff
  split
  · exact h
  · exact ⟨h.works, h.valid⟩

theorem Whole.requestOffChannel {r : SimulatedRadio} (h : r.Whole) (freq dwell : UInt32) :
    (r.requestOffChannel freq dwell).radio.Whole := by
  unfold SimulatedRadio.requestOffChannel
  split
  · exact h
  · exact ⟨h.works, h.valid⟩

/-- A survey of a radio that is whole leaves it whole. -/
theorem Whole.requestTraffic {r : SimulatedRadio} (h : r.Whole) (freq : UInt32) :
    (r.requestTraffic freq).radio.Whole := by
  obtain ⟨⟨s, g⟩, hsample⟩ :=
    Profile.exists_sample (h.valid freq) ((r.dwells.get? freq).getD 1) r.generator
  unfold SimulatedRadio.requestTraffic
  rw [hsample]
  split
  · exact h
  · exact ⟨h.works, h.valid⟩

end SimulatedRadio

end ChannelSurvey

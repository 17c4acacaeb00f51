import ChannelSurvey.MachineLog
import ChannelSurvey.Proofs.Score.Baseline
import ChannelSurvey.Proofs.Score.Factor
import ChannelSurvey.Proofs.Selection.Ideal

/-!
# What a selection does to an interface

A selection scores every usable channel and names one of them. `Channel.rating` says what a channel's score is:
the sum of the factors of its useful samples, from the left, over their number. `Interface.Rated` lists the scores
of the usable channels by position.

**The law** (`select_rates`): after a selection every usable channel has its rating for a score, whatever score
it had before, and nothing else has changed. The position named is the first of the least scores, and there is
none exactly when no enabled channel that counts a sample holds a useful one.

A selection looks for a noise floor first, and gives up without one. This passes no usable channel over
(`baseline_of_isUsable`): a usable channel holds a sample, and every sample has a noise floor. Neither counts nor
minima need to agree with the samples.
-/

namespace ChannelSurvey

theorem mean_eq_none {xs : List Float} : mean xs = none ↔ xs = [] := by
  unfold mean
  split
  · exact iff_of_true rfl (List.isEmpty_iff.mp ‹_›)
  · exact iff_of_false (Option.some_ne_none _) (mt List.isEmpty_iff.mpr ‹_›)

/-- The samples that are not degenerate, in order of arrival. -/
def Channel.useful (c : Channel) : List Sample :=
  c.samples.toList.filter (!·.isDegenerate)

/-- A usable channel holds a sample, whose noise floor bounds the baseline. -/
theorem Interface.baseline_of_isUsable {i : Interface} {c : Channel} (hc : c ∈ i.channels)
    (usable : c.isUsable = true) : ∃ baseline, i.baseline = some baseline := by
  obtain ⟨_, hstocked, _⟩ := Channel.isUsable_iff.mp usable
  have hsamples : c.samples.toList ≠ [] := by
    rw [ne_eq, Array.toList_eq_nil_iff, ← Array.isEmpty_iff, hstocked]
    exact Bool.false_ne_true
  obtain ⟨s, hs⟩ := List.exists_mem_of_ne_nil _ hsamples
  cases hbaseline : i.baseline with
  | some baseline => exact ⟨baseline, rfl⟩
  | none =>
    have hnoise := noise_mem_noises hc hs
    rw [baseline_eq_none.mp hbaseline] at hnoise
    cases hnoise

/-! ## Scores -/

section

variable [BinaryLog]

namespace Channel

theorem assessment_of_isUsable {c : Channel} (usable : c.isUsable = true) (baseline : Int8) :
    c.assessment baseline = mean (c.factors baseline) := by
  obtain ⟨_, hstocked, henabled⟩ := isUsable_iff.mp usable
  rw [assessment, hstocked, henabled, Bool.or_self, if_neg Bool.false_ne_true]

/-- **The rating of a channel**: the sum of the factors of its useful samples, from the left, over their number;
none where no sample is useful. -/
def rating (c : Channel) (baseline : Int8) : Option Float :=
  if c.useful = [] then none
  else some ((c.useful.filterMap (·.factor baseline)).foldl (· + ·) 0 / c.useful.length.toUInt64.toFloat)

/-- The factors of a channel are those of its useful samples. -/
theorem factors_eq (c : Channel) (baseline : Int8) : c.factors baseline = c.useful.filterMap (·.factor baseline) := by
  rw [factors, useful, List.filterMap_filter]
  congr 1
  funext s
  cases degenerate : s.isDegenerate with
  | true => exact Sample.factor_eq_none.mpr degenerate
  | false => rfl

/-- Every useful sample has a factor. -/
theorem length_factors (c : Channel) (baseline : Int8) : (c.factors baseline).length = c.useful.length := by
  rw [factors_eq, List.length_filterMap_eq_countP, List.countP_eq_length]
  intro s hs
  rw [Option.isSome_iff_ne_none, ne_eq, Sample.factor_eq_none, Bool.not_eq_true]
  simpa using (List.mem_filter.mp hs).2

theorem mean_factors (c : Channel) (baseline : Int8) : mean (c.factors baseline) = c.rating baseline := by
  have hlength := c.length_factors baseline
  rw [mean, rating, hlength, ← factors_eq]
  by_cases none : c.useful = []
  · have hnil : c.factors baseline = [] := List.eq_nil_of_length_eq_zero (by rw [hlength, none]; rfl)
    rw [if_pos none, hnil, List.isEmpty_nil, if_pos rfl]
  · have hsome : (c.factors baseline).isEmpty = false := by
      rw [List.isEmpty_eq_false_iff, ne_eq, ← List.length_eq_zero_iff, hlength, List.length_eq_zero_iff]
      exact none
    rw [if_neg none, hsome, if_neg Bool.false_ne_true]

/-- A usable channel is assessed at its rating. -/
theorem assessment_eq_rating {c : Channel} (usable : c.isUsable = true) (baseline : Int8) :
    c.assessment baseline = c.rating baseline := by
  rw [assessment_of_isUsable usable, mean_factors]

theorem assess_of_isUsable {c : Channel} (usable : c.isUsable = true) (baseline : Int8) :
    c.assess baseline = { c with score := c.rating baseline } := by
  obtain ⟨_, hstocked, henabled⟩ := isUsable_iff.mp usable
  rw [assess, hstocked, henabled, Bool.or_self, if_neg Bool.false_ne_true, mean_factors]

theorem rating_eq_none (c : Channel) (baseline : Int8) :
    c.rating baseline = none ↔ ∀ s ∈ c.samples.toList, s.isDegenerate = true := by
  rw [← mean_factors, mean_eq_none, factors, List.filterMap_eq_nil_iff]
  simp only [Sample.factor_eq_none]

end Channel

namespace Interface

/-- The score of a usable channel, by position. -/
def Rated (i : Interface) (index : Nat) (score : Float) : Prop :=
  ∃ c, i.channels[index]? = some c ∧ c.isUsable = true ∧ c.score = some score

theorem select_of_baseline {i : Interface} {baseline : Int8} (known : i.baseline = some baseline) :
    i.select = { iface := i.assessed baseline, ideal := ideal? (i.candidates baseline), log := i.selectLog } := by
  simp only [select, known]

theorem select_without_baseline {i : Interface} (unknown : i.baseline = none) :
    i.select = { iface := i, ideal := none, log := [] } := by
  simp only [select, unknown]

/-- **Scoring** gives the usable channels their rating, and changes nothing else. -/
theorem assessed_eq (i : Interface) (baseline : Int8) :
    i.assessed baseline =
      { i with
        channels := i.channels.map fun c => if c.isUsable then { c with score := c.rating baseline } else c } := by
  rw [assessed]
  congr 1
  refine List.map_congr_left fun c _ => ?_
  by_cases usable : c.isUsable = true
  · rw [if_pos usable, if_pos usable, Channel.assess_of_isUsable usable]
  · rw [if_neg usable, if_neg usable]

/-- The rated channels of the scored interface are the candidates. -/
theorem rated_assessed {i : Interface} {baseline : Int8} {index : Nat} {score : Float} :
    (i.assessed baseline).Rated index score ↔ (index, score) ∈ i.candidates baseline := by
  rw [mem_candidates]
  constructor
  · rintro ⟨d, hd, husable, hscore⟩
    simp only [assessed, List.getElem?_map, Option.map_eq_some_iff] at hd
    obtain ⟨c, hc, rfl⟩ := hd
    by_cases usable : c.isUsable = true
    · rw [if_pos usable] at hscore
      refine ⟨c, hc, usable, ?_⟩
      rw [Channel.assessment_eq_rating usable, ← hscore, Channel.assess_of_isUsable usable]
    · rw [if_neg usable] at husable
      exact absurd husable usable
  · rintro ⟨c, hc, husable, hassessment⟩
    refine ⟨c.assess baseline, getElem?_assessed hc husable baseline, ?_, Channel.score_assess hassessment⟩
    rw [Channel.isUsable_assess, husable]

/-- A channel is a candidate unless all its samples are degenerate. -/
theorem candidates_eq_nil {i : Interface} {baseline : Int8} :
    i.candidates baseline = [] ↔
      ∀ c ∈ i.channels, c.isUsable = true → ∀ s ∈ c.samples.toList, s.isDegenerate = true := by
  constructor
  · intro hnone c hc usable
    obtain ⟨k, hk⟩ := List.mem_iff_getElem?.mp hc
    rw [← Channel.rating_eq_none c baseline, Option.eq_none_iff_forall_ne_some]
    intro score hscore
    have hmem : (k, score) ∈ i.candidates baseline :=
      mem_candidates.mpr ⟨c, hk, usable, by rw [Channel.assessment_eq_rating usable, hscore]⟩
    rw [hnone] at hmem
    cases hmem
  · intro hall
    refine List.eq_nil_iff_forall_not_mem.mpr fun ⟨k, score⟩ hmem => ?_
    obtain ⟨c, hc, usable, hassessment⟩ := mem_candidates.mp hmem
    rw [Channel.assessment_eq_rating usable,
      (Channel.rating_eq_none c baseline).mpr (hall c (List.mem_of_getElem? hc) usable)] at hassessment
    cases hassessment

/-- **No position is named** exactly when every usable channel holds degenerate samples only. -/
theorem ideal_eq_none {i : Interface} :
    i.select.ideal = none ↔
      ∀ c ∈ i.channels, c.isUsable = true → ∀ s ∈ c.samples.toList, s.isDegenerate = true := by
  cases hbaseline : i.baseline with
  | none =>
    rw [select_without_baseline hbaseline]
    refine iff_of_true rfl fun c hc usable => ?_
    obtain ⟨baseline, hsome⟩ := baseline_of_isUsable hc usable
    rw [hbaseline] at hsome
    cases hsome
  | some baseline =>
    rw [select_of_baseline hbaseline]
    exact ideal?_eq_none.trans candidates_eq_nil

/-- **The position that is named** is the first of the least scores. -/
theorem firstLeast_of_ideal {i : Interface} {index : Nat}
    (numbers : ∀ k score, i.select.iface.Rated k score → score.isNaN = false) (h : i.select.ideal = some index) :
    ∃ score, FirstLeast i.select.iface.Rated index score := by
  cases hbaseline : i.baseline with
  | none =>
    rw [select_without_baseline hbaseline] at h
    cases h
  | some baseline =>
    rw [select_of_baseline hbaseline] at h numbers ⊢
    obtain ⟨⟨place, score⟩, hfold, rfl⟩ := Option.map_eq_some_iff.mp h
    have hrated : (i.assessed baseline).Rated = fun k other => (k, other) ∈ i.candidates baseline := by
      funext k other
      exact propext rated_assessed
    rw [hrated] at numbers ⊢
    exact ⟨score, firstLeast_foldl_better (i.pairwise_candidates baseline) (fun c hc => numbers c.1 c.2 hc) hfold⟩

/-- **The law of a selection.** Where the scores of usable channels are numbers:

* a position is named unless every enabled channel that counts a sample holds degenerate samples only, and it is
  the first of the least scores;
* against the baseline of the sweep, every usable channel has its rating for a score, and nothing else changed;
* without a baseline nothing changed at all, and there is no usable channel. -/
theorem select_rates (i : Interface) (numbers : ∀ k score, i.select.iface.Rated k score → score.isNaN = false) :
    (i.select.ideal = none ↔
      ∀ c ∈ i.channels, c.disabled = false → 0 < c.count → ∀ s ∈ c.samples.toList, s.isDegenerate = true) ∧
    (∀ index, i.select.ideal = some index → ∃ score, FirstLeast i.select.iface.Rated index score) ∧
    (∀ baseline, i.baseline = some baseline →
      i.select.iface =
        { i with
          channels := i.channels.map fun c => if c.isUsable then { c with score := c.rating baseline } else c }) ∧
    (i.baseline = none → i.select.iface = i ∧ ∀ c ∈ i.channels, c.isUsable = false) := by
  refine ⟨?_, fun index => firstLeast_of_ideal numbers, fun baseline known => ?_, fun unknown => ?_⟩
  · rw [ideal_eq_none]
    refine forall₂_congr fun c _ => ?_
    constructor
    · intro hall enabled counted s hs
      have hstocked : c.samples.isEmpty = false := by
        rw [Array.isEmpty_eq_false_iff, ne_eq, ← Array.toList_eq_nil_iff]
        exact List.ne_nil_of_mem hs
      exact hall (Channel.isUsable_iff.mpr ⟨counted, hstocked, enabled⟩) s hs
    · intro hall usable
      obtain ⟨counted, _, enabled⟩ := Channel.isUsable_iff.mp usable
      exact hall enabled counted
  · rw [select_of_baseline known]
    exact assessed_eq i baseline
  · refine ⟨by rw [select_without_baseline unknown], fun c hc => ?_⟩
    rw [← Bool.not_eq_true]
    intro usable
    obtain ⟨baseline, hsome⟩ := baseline_of_isUsable hc usable
    rw [unknown] at hsome
    cases hsome

end Interface

end

namespace Interface

/-- Accounts that disagree with the samples: of the first two channels one is disabled and one counts nothing, the
third counts a sample and holds none, the fourth has an old score and degenerate samples only, and the last two
tie. -/
theorem select_rates_disagreeing :
    let idle : Sample := { total := 5000, busy := 0, own := 0, noise := -80 }
    let degenerate : Sample := { total := 10, busy := 10, own := 10, noise := -99 }
    let i : Interface :=
      { channels :=
          [{ number := 1, freq := 2412, disabled := true, count := 1, samples := #[idle] },
            { number := 2, freq := 2417, samples := #[idle] },
            { number := 3, freq := 2422, count := 4, quietest := some (-3), score := some (-70.0) },
            { number := 4, freq := 2427, count := 9, samples := #[degenerate], score := some (-70.0) },
            { number := 5, freq := 2432, count := 1, samples := #[degenerate, idle, idle] },
            { number := 6, freq := 2437, count := 2, samples := #[idle], quietest := some 5 }]
        offChannelCapable := true, settings := {}, quietest := some (-20) }
    (∀ k score, i.select.iface.Rated k score → score.isNaN = false) ∧ i.select.ideal = some 4 ∧
      (∃ score, FirstLeast i.select.iface.Rated 4 score) ∧
      (i.select.iface.channels.map (·.score) = [none, none, some (-70.0), none, some (-64.0), some (-64.0)]) := by
  intro idle degenerate i
  have hnumbers : ∀ k score, i.select.iface.Rated k score → score.isNaN = false := by
    intro k score hrated
    have hall : ∀ c ∈ i.select.iface.channels, c.score.all (!·.isNaN) = true := by decide +kernel
    obtain ⟨c, hc, _, hscore⟩ := hrated
    have hnumber := hall c (List.mem_of_getElem? hc)
    rw [hscore, Option.all_some, Bool.not_eq_true'] at hnumber
    exact hnumber
  have hideal : i.select.ideal = some 4 := by decide +kernel
  exact ⟨hnumbers, hideal, (select_rates i hnumbers).2.1 4 hideal, by decide +kernel⟩

end Interface

end ChannelSurvey

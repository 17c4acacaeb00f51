import ChannelSurvey.Proofs.Selection.Scoring
import ChannelSurvey.Proofs.Sweep.Chronicle

/-!
# What a completed walk comes to

When the last survey of the last round is accepted, a sweep fails or hands over a selection. `score?` says
what the samples filed for a channel come to, and `Settled` lists the ends of a walk by what was filed: no
sample at all, none but degenerate ones, or a selection.

**The law** (`settled_of_calls`): after the last survey the sweep fails with `noUsableData` exactly when no
sample was filed, with `noIdealChannel` exactly when samples were filed and all are degenerate, and hands
over the first channel of the least score otherwise.

The sweep itself asks two other questions: whether any channel was counted as surveyed, and whether the
scored interface has a winner. That they come to the same rests on what the interface holds
(`Interface.Holds`): its baseline is the lowest noise floor filed, and its candidates are the channels that
have a `score?` (`mem_candidates_iff`).
-/

namespace ChannelSurvey

section

variable [BinaryLog]

omit [BinaryLog] in
/-- While its count has not wrapped, a channel is usable exactly when it is enabled and has samples. -/
theorem Channel.Holds.isUsable_iff {c : Channel} {samples : List Sample} (h : c.Holds samples)
    (few : samples.length < UInt32.size) : c.isUsable = true ↔ samples ≠ [] ∧ c.disabled = false := by
  have hcount : 0 < c.count ↔ samples ≠ [] := by
    rw [UInt32.lt_iff_toNat_lt, h.toNat_count few]
    exact List.length_pos_iff
  have hsamples : c.samples.isEmpty = false ↔ samples ≠ [] := by
    rw [← h.stored, ne_eq, Array.toList_eq_nil_iff, Array.isEmpty_eq_false_iff]
  rw [Channel.isUsable_iff, hcount, hsamples, ← and_assoc, and_self]

namespace Sweep

omit [BinaryLog] in
theorem mem_filed {filings : List Filing} {s : Sample} :
    s ∈ filed filings ↔ ∃ k, s ∈ filedFor filings k := by
  simp only [filed, filedFor, List.mem_flatMap, List.mem_filter, beq_iff_eq]
  constructor
  · rintro ⟨f, hf, hs⟩
    exact ⟨f.index, f, ⟨hf, rfl⟩, hs⟩
  · rintro ⟨k, f, ⟨hf, _⟩, hs⟩
    exact ⟨f, hf, hs⟩

omit [BinaryLog] in
theorem filing_of_filedFor {filings : List Filing} {k : Nat} (some : filedFor filings k ≠ []) :
    ∃ f ∈ filings, f.index = k := by
  obtain ⟨s, hs⟩ := List.exists_mem_of_ne_nil _ some
  obtain ⟨f, hf, _⟩ := List.mem_flatMap.mp hs
  obtain ⟨hmem, hindex⟩ := List.mem_filter.mp hf
  exact ⟨f, hmem, beq_iff_eq.mp hindex⟩

/-- What the samples filed for a channel come to, against the lowest noise floor of all samples filed. -/
def score? (filings : List Filing) (index : Nat) : Option Float :=
  (lowestNoise (filed filings)).bind fun baseline =>
    mean ((filedFor filings index).filterMap (·.factor baseline))

/-- A channel has no score exactly when all its samples are degenerate. -/
theorem score?_eq_none {filings : List Filing} {index : Nat} :
    score? filings index = none ↔ ∀ s ∈ filedFor filings index, s.isDegenerate = true := by
  rw [score?, Option.bind_eq_none_iff]
  constructor
  · intro h s hs
    cases hbaseline : lowestNoise (filed filings) with
    | none =>
      have hmem : s ∈ filed filings := mem_filed.mpr ⟨index, hs⟩
      rw [lowestNoise_eq_none.mp hbaseline] at hmem
      cases hmem
    | some baseline =>
      have hnone := mean_eq_none.mp (h baseline hbaseline)
      exact Sample.factor_eq_none.mp (List.filterMap_eq_nil_iff.mp hnone s hs)
  · intro h baseline _
    refine mean_eq_none.mpr (List.filterMap_eq_nil_iff.mpr fun s hs => ?_)
    exact Sample.factor_eq_none.mpr (h s hs)

theorem filing_of_score? {filings : List Filing} {k : Nat} {score : Float}
    (h : score? filings k = some score) : ∃ f ∈ filings, f.index = k := by
  refine filing_of_filedFor fun hnone => ?_
  have hscore := score?_eq_none.mpr fun s hs => by
    rw [hnone] at hs
    cases hs
  rw [h] at hscore
  cases hscore

/-! ## What an interface with these samples selects -/

/-- An interface that holds what is filed, on enabled channels, with no count wrapped. -/
structure Stocked (i : Interface) (filings : List Filing) : Prop where
  holds : i.Holds (filedFor filings) (filed filings)
  enabled : ∀ f ∈ filings, ∃ c, i.channels[f.index]? = some c ∧ c.disabled = false
  few : ∀ k, (filedFor filings k).length < UInt32.size

variable {i : Interface} {filings : List Filing}

omit [BinaryLog] in
/-- The baseline of a selection is the lowest noise floor filed. -/
theorem Stocked.baseline (h : Stocked i filings) : i.baseline = lowestNoise (filed filings) := by
  refine Interface.baseline_of_recorded h.holds.quietest fun c hc s hs => ?_
  obtain ⟨k, hk⟩ := List.mem_iff_getElem?.mp hc
  rw [(h.holds.channel k c hk).stored] at hs
  exact mem_filed.mpr ⟨k, hs⟩

/-- **The candidates are the channels that have a score.** -/
theorem Stocked.mem_candidates_iff (h : Stocked i filings) {baseline : Int8}
    (known : lowestNoise (filed filings) = some baseline) {k : Nat} {score : Float} :
    (k, score) ∈ i.candidates baseline ↔ score? filings k = some score := by
  have hscore : score? filings k = mean ((filedFor filings k).filterMap (·.factor baseline)) := by
    rw [score?, known, Option.bind_some]
  rw [Interface.mem_candidates, hscore]
  constructor
  · rintro ⟨c, hc, husable, hassessment⟩
    rw [Channel.assessment_of_isUsable husable, Channel.factors, (h.holds.channel k c hc).stored] at hassessment
    exact hassessment
  · intro hmean
    have hsome : filedFor filings k ≠ [] := fun hnone => by
      rw [hnone] at hmean
      cases hmean
    obtain ⟨f, hf, rfl⟩ := filing_of_filedFor hsome
    obtain ⟨c, hc, henabled⟩ := h.enabled f hf
    have hchannel := h.holds.channel f.index c hc
    have husable := (hchannel.isUsable_iff (h.few f.index)).mpr ⟨hsome, henabled⟩
    refine ⟨c, hc, husable, ?_⟩
    rw [Channel.assessment_of_isUsable husable, Channel.factors, hchannel.stored]
    exact hmean

omit [BinaryLog] in
/-- No channel counts as surveyed exactly when no sample was filed. -/
theorem Stocked.surveyed_eq_zero (h : Stocked i filings) : i.surveyed = 0 ↔ filed filings = [] := by
  rw [h.holds.surveyed h.few, countP_isStocked h.holds, List.countP_eq_zero, List.eq_nil_iff_forall_not_mem]
  constructor
  · intro hnone s hs
    obtain ⟨k, hk⟩ := mem_filed.mp hs
    obtain ⟨f, hf, rfl⟩ := filing_of_filedFor (List.ne_nil_of_mem hk)
    obtain ⟨c, hc, _⟩ := h.enabled f hf
    have hempty := hnone f.index (List.mem_range.mpr (List.getElem?_eq_some_iff.mp hc).1)
    rw [Bool.not_eq_true', Bool.not_eq_false, List.isEmpty_iff] at hempty
    rw [hempty] at hk
    cases hk
  · intro hnone k _ hk
    rw [Bool.not_eq_true', List.isEmpty_eq_false_iff] at hk
    obtain ⟨s, hs⟩ := List.exists_mem_of_ne_nil _ hk
    exact hnone s (mem_filed.mpr ⟨k, hs⟩)

/-! ## The end of a walk -/

/-- **How a walk ends**, by the samples that were filed. -/
inductive Settled (i : Interface) (filings : List Filing) (step : Step) : Prop
  | noData (phase : step.phase = .failed .noUsableData) (empty : filed filings = [])
  | noIdeal (phase : step.phase = .failed .noIdealChannel) (some : filed filings ≠ [])
      (degenerate : ∀ s ∈ filed filings, s.isDegenerate = true)
  | selected {index : Nat} {c : Channel} {s : Selection} (phase : step.phase = .awaitingVerdict s)
      (action : step.action = .some (.reportSelected s)) (channel : i.channels[index]? = .some c)
      (enabled : c.disabled = false) (number : c.number = s.number) (freq : c.freq = s.freq)
      (ideal : FirstLeast (fun k score => score? filings k = .some score) index s.score)
      (stored : step.iface.selection? index = .some s)

/-- How a walk ends is a matter of the layout of the interface. -/
theorem Settled.congr {j : Interface} {step : Step} (layout : Interface.SameLayout i j)
    (settled : Settled i filings step) : Settled j filings step := by
  cases settled with
  | noData phase empty => exact .noData phase empty
  | noIdeal phase some degenerate => exact .noIdeal phase some degenerate
  | selected phase action channel enabled number freq ideal stored =>
    obtain ⟨d, hd, hnumber, hfreq, hflag⟩ := layout.getElem? channel
    exact .selected phase action hd (hflag.trans enabled) (hnumber.trans number) (hfreq.trans freq) ideal stored

/-- Where a channel has a score, a sample is left that is not degenerate. -/
theorem useful_of_score? {k : Nat} {score : Float} (h : score? filings k = some score) :
    ∃ s ∈ filed filings, s.isDegenerate = false := by
  by_contra hnone
  have hall : ∀ s ∈ filedFor filings k, s.isDegenerate = true := by
    intro s hs
    rw [← Bool.not_eq_false]
    intro useful
    exact hnone ⟨s, mem_filed.mpr ⟨k, hs⟩, useful⟩
  rw [score?_eq_none.mpr hall] at h
  cases h

/-- The walk fails for want of data exactly when no sample was filed. -/
theorem Settled.noUsableData_iff {step : Step} (settled : Settled i filings step) :
    step.phase = .failed .noUsableData ↔ filed filings = [] := by
  constructor
  · intro h
    cases settled with
    | noData _ empty => exact empty
    | noIdeal phase | selected phase =>
      rw [phase] at h
      cases h
  · intro empty
    cases settled with
    | noData phase => exact phase
    | noIdeal _ some => exact absurd empty some
    | selected _ _ _ _ _ _ ideal =>
      obtain ⟨s, hs, _⟩ := useful_of_score? ideal.attained
      rw [empty] at hs
      cases hs

/-- It fails for want of an ideal channel exactly when all samples are degenerate, and there are some. -/
theorem Settled.noIdealChannel_iff {step : Step} (settled : Settled i filings step) :
    step.phase = .failed .noIdealChannel ↔
      filed filings ≠ [] ∧ ∀ s ∈ filed filings, s.isDegenerate = true := by
  constructor
  · intro h
    cases settled with
    | noIdeal _ some degenerate => exact ⟨some, degenerate⟩
    | noData phase | selected phase =>
      rw [phase] at h
      cases h
  · rintro ⟨some, degenerate⟩
    cases settled with
    | noIdeal phase => exact phase
    | noData _ empty => exact absurd empty some
    | selected _ _ _ _ _ _ ideal =>
      obtain ⟨s, hs, useful⟩ := useful_of_score? ideal.attained
      rw [degenerate s hs] at useful
      cases useful

/-- With a sample that is not degenerate it hands over a selection. -/
theorem Settled.selects {step : Step} (settled : Settled i filings step)
    (useful : ∃ s ∈ filed filings, s.isDegenerate = false) :
    ∃ k c s, i.channels[k]? = some c ∧ c.disabled = false ∧ c.number = s.number ∧ c.freq = s.freq ∧
      FirstLeast (fun k score => score? filings k = some score) k s.score ∧
      step.phase = .awaitingVerdict s ∧ step.action = some (.reportSelected s) ∧
      step.iface.selection? k = some s := by
  obtain ⟨s, hs, useful⟩ := useful
  cases settled with
  | noData _ empty =>
    rw [empty] at hs
    cases hs
  | noIdeal _ _ degenerate =>
    rw [degenerate s hs] at useful
    cases useful
  | selected phase action channel enabled number freq ideal stored =>
    exact ⟨_, _, _, channel, enabled, number, freq, ideal, phase, action, stored⟩

/-- Where no channel can be scored, every sample is degenerate. -/
theorem Stocked.degenerate_of_unchosen (h : Stocked i filings) (unchosen : i.chosen? = none) :
    ∀ s ∈ filed filings, s.isDegenerate = true := by
  intro s hs
  obtain ⟨k, hk⟩ := mem_filed.mp hs
  obtain ⟨baseline, hbaseline⟩ :=
    Option.ne_none_iff_exists'.mp (mt lowestNoise_eq_none.mp (List.ne_nil_of_mem hs))
  have hcandidates := (Interface.unselected_iff (h.baseline.trans hbaseline)).mp unchosen
  have hscore : score? filings k = none := by
    rw [Option.eq_none_iff_forall_ne_some]
    intro score hscore
    have hmem := (h.mem_candidates_iff hbaseline).mpr hscore
    rw [hcandidates] at hmem
    cases hmem
  exact score?_eq_none.mp hscore s hk

/-- What is handed over is the first channel of the least score. -/
theorem Stocked.settled_selected (h : Stocked i filings)
    (numbers : ∀ k score, score? filings k = some score → score.isNaN = false) (some : filed filings ≠ [])
    {s : Selection} (chosen : i.chosen? = .some s) (log : List Severity) :
    Settled i filings
      { phase := .awaitingVerdict s, iface := { i.select.iface with operating := .some s.number }
        action := .some (.reportSelected s), log } := by
  obtain ⟨baseline, hbaseline⟩ := Option.ne_none_iff_exists'.mp (mt lowestNoise_eq_none.mp some)
  have hnumbers : ∀ c ∈ i.candidates baseline, c.2.isNaN = false := fun c hc =>
    numbers c.1 c.2 ((h.mem_candidates_iff hbaseline).mp hc)
  obtain ⟨index, c, hc, hnumber, hfreq, hread, hleast⟩ :=
    Interface.firstLeast_of_selected (h.baseline.trans hbaseline) hnumbers chosen
  obtain ⟨d, hd, husable, _⟩ := Interface.mem_candidates.mp hleast.attained
  obtain rfl : d = c := Option.some.inj (hd.symm.trans hc)
  obtain ⟨_, _, henabled⟩ := Channel.isUsable_iff.mp husable
  simp only [h.mem_candidates_iff hbaseline] at hleast
  exact .selected rfl rfl hc henabled hnumber hfreq hleast hread

/-- **Closing the last round settles the walk.** -/
theorem Closed.settled {step : Step} (closing : Closed i step) (h : Stocked i filings)
    (numbers : ∀ k score, score? filings k = some score → score.isNaN = false)
    (paid : ¬ i.roundsDone + 1 < i.settings.target) : Settled i filings step := by
  have hround : Stocked (roundAdded i) filings := ⟨h.holds.congr rfl rfl rfl, h.enabled, h.few⟩
  cases closing with
  | again owed | noChannel owed => exact absurd owed paid
  | noData _ none => exact .noData rfl (h.surveyed_eq_zero.mp none)
  | noIdeal _ some unchosen =>
    exact .noIdeal rfl (mt h.surveyed_eq_zero.mpr some) (hround.degenerate_of_unchosen unchosen)
  | @selected s log _ some chosen =>
    have hsettled := hround.settled_selected numbers (mt h.surveyed_eq_zero.mpr some) chosen log
    have hlayout : Interface.SameLayout (roundAdded i) i := ⟨rfl, rfl⟩
    exact hsettled.congr hlayout

theorem Settled.after {step : Step} (settled : Settled i filings step) (log : List Severity) :
    Settled i filings (step.after log) := by
  cases settled with
  | noData phase empty => exact .noData phase empty
  | noIdeal phase some degenerate => exact .noIdeal phase some degenerate
  | selected phase action channel enabled number freq ideal stored =>
    exact .selected phase action channel enabled number freq ideal stored

omit [BinaryLog] in
/-- With as many surveys as the route has stops, the walk is behind its last stop and the rounds are done. -/
theorem last_of_along {index : Nat} {freq : UInt32} {visited : List Nat} (stop : OnStop i index freq)
    (h : Along (.surveying index freq) i visited) (all : visited.length + 1 = (route i).length) :
    i.stopsFrom (index + 1) = [] ∧ ¬ i.roundsDone + 1 < i.settings.target := by
  have hsome : i.stops ≠ [] := fun hnone => by
    rw [route_eq_nil hnone] at all
    cases all
  have hlength := congrArg List.length h
  rw [List.length_append, List.length_cons, List.length_map, List.length_map, ← all] at hlength
  have hnil : routeFrom i (index + 1) = [] := List.eq_nil_of_length_eq_zero (by omega)
  exact last_of_routeFrom_nil hsome (room_of_owed stop.owed) hnil

/-- **The last survey of the last round settles the walk.** -/
theorem settled_survey {f : Filing} {freq : UInt32} (h : OnFile (.surveying f.index freq) i filings)
    (stop : OnStop i f.index freq) (few : ∀ k, (filedFor (filings ++ [f]) k).length < UInt32.size)
    (numbers : ∀ k score, score? (filings ++ [f]) k = some score → score.isNaN = false)
    (all : (filings ++ [f]).length = (route i).length) :
    Settled i (filings ++ [f]) (handle (.surveying f.index freq) i (.survey freq f.samples)) := by
  have hrange : f.index < i.channels.length := stop.position ▸ stop.range
  have hlayout := sameLayout_roundStored i f.index f.samples
  obtain ⟨last, paid⟩ := last_of_along stop h.along (by rw [List.length_map, ← all, List.length_append]; rfl)
  have hstocked : Stocked (roundStored i f.index f.samples) (filings ++ [f]) := by
    refine ⟨?_, fun g hg => ?_, few⟩
    · rw [filedFor_concat, filed_concat]
      exact (Interface.holds_recordAll (h.holds rfl) hrange f.samples).congr rfl rfl rfl
    · have henabled : ∃ c, i.channels[g.index]? = some c ∧ c.disabled = false := by
        rcases List.mem_append.mp hg with hold | hnew
        · exact enabled_of_mem_route ((h.along.begins rfl).subset (List.mem_map_of_mem hold))
        · obtain rfl := List.mem_singleton.mp hnew
          obtain ⟨c, hc, hflag, _⟩ := stop.channel
          exact ⟨c, hc, hflag⟩
      obtain ⟨c, hc, hflag⟩ := henabled
      obtain ⟨d, hd, _, _, hsame⟩ := hlayout.symm.getElem? hc
      exact ⟨d, hd, hsame.trans hflag⟩
  obtain ⟨step, hproceeds, hstep⟩ := survey_proceeds i f.index freq f.samples
  rw [handle_survey, hstep]
  cases hproceeds with
  | next after =>
    rw [last] at after
    cases after
  | closed =>
    have hpaid : ¬ (roundStored i f.index f.samples).roundsDone + 1 <
        (roundStored i f.index f.samples).settings.target := by
      rw [hlayout.settings, roundStored, Interface.roundsDone_recordAll]
      exact paid
    exact (((closeRound_closed _).settled hstocked numbers hpaid).congr hlayout).after _
  | outOfRange range => exact absurd range (Nat.not_lt.mpr hrange)

/-- **The verdict of a completed walk.** On a clean interface, after any calls, let the survey that is
waited for be the last one: with it, as many are accepted as there are enabled channels in all rounds. While
no count has wrapped and all scores are numbers, the sweep then fails for want of data exactly when no sample
was filed, and for want of an ideal channel exactly when samples were filed and all are degenerate. Otherwise
it reports one selection: the first enabled channel of the least score, with that score, which is stored with
the channel. -/
theorem settled_of_calls (i : Interface) (clean : i.isClean = true) (calls : List Call) (index : Nat)
    (freq : UInt32) (samples : List Sample) :
    let x := (Chronicle.fresh i).afterAll calls
    let y := x.after (.event (.survey freq samples))
    x.phase = .surveying index freq →
    y.filings.length = i.settings.target.toNat * i.channels.countP (!·.disabled) →
    (∀ k, (filedFor y.filings k).length < UInt32.size) →
    (∀ k score, score? y.filings k = some score → score.isNaN = false) →
    (y.phase = .failed .noUsableData ↔ filed y.filings = []) ∧
    (y.phase = .failed .noIdealChannel ↔
      filed y.filings ≠ [] ∧ ∀ s ∈ filed y.filings, s.isDegenerate = true) ∧
    ((∃ s ∈ filed y.filings, s.isDegenerate = false) →
      ∃ k c s, i.channels[k]? = some c ∧ c.disabled = false ∧ c.number = s.number ∧ c.freq = s.freq ∧
        FirstLeast (fun k score => score? y.filings k = some score) k s.score ∧
        y.phase = .awaitingVerdict s ∧ y.trace = x.trace ++ [.reportSelected s] ∧
        y.iface.selection? k = some s) := by
  intro x y hphase all few numbers
  obtain ⟨hfile, hcourse⟩ : OnFile x.phase x.iface x.filings ∧ OnCourse i x.toWatched :=
    onFile_fresh clean calls
  have hfilings : y.filings = x.filings ++ [⟨index, samples⟩] := by
    show x.filings ++ (accepted? x.phase (.survey freq samples)).toList = _
    rw [hphase, accepted?, if_pos rfl, Option.toList_some]
  have hsettled : Settled i y.filings (handle x.phase x.iface (.survey freq samples)) := by
    have hstop : Fits x.phase x.iface := hcourse.sound.fits
    rw [hphase] at hfile hstop ⊢
    rw [hfilings] at all few numbers ⊢
    rw [← length_route, ← route_congr hcourse.layout] at all
    exact (settled_survey (f := ⟨index, samples⟩) hfile hstop few numbers all).congr hcourse.layout
  refine ⟨hsettled.noUsableData_iff, hsettled.noIdealChannel_iff, ?_⟩
  intro useful
  obtain ⟨k, c, s, channel, enabled, number, same, ideal, phase, action, stored⟩ := hsettled.selects useful
  have htrace : y.trace = x.trace ++ [.reportSelected s] := by
    show x.trace ++ (handle x.phase x.iface (.survey freq samples)).action.toList = _
    rw [action, Option.toList_some]
  exact ⟨k, c, s, channel, enabled, number, same, ideal, phase, htrace, stored⟩

end Sweep

end

namespace Sweep

/-- One round over three enabled channels: the first brings no sample, the second a degenerate one and an
idle one, the last an idle one, which ties with the second. -/
theorem settled_of_calls_mixture :
    let i : Interface :=
      { channels := [{ number := 1, freq := 2412 }, { number := 6, freq := 2437 },
          { number := 9, freq := 2452, disabled := true }, { number := 11, freq := 2462 }]
        offChannelCapable := true, settings := { rounds := 1, dwell := 5 } }
    let idle (noise : Int8) : Sample := { total := 5000, busy := 0, own := 0, noise }
    let degenerate : Sample := { total := 10, busy := 10, own := 10, noise := -99 }
    let calls : List Call :=
      [.start, .event .kickoffComplete, .event (.cancelled 2412 5 0), .event (.survey 2412 []),
        .event (.cancelled 2437 5 0), .event (.survey 2437 [degenerate, idle (-90)]),
        .event (.cancelled 2462 5 0)]
    let x := (Chronicle.fresh i).afterAll calls
    let y := x.after (.event (.survey 2462 [idle (-95)]))
    i.isClean = true ∧ x.phase = .surveying 3 2462 ∧ y.filings.length = 3 ∧
      (∃ k c s, i.channels[k]? = some c ∧ c.disabled = false ∧ c.number = s.number ∧ c.freq = s.freq ∧
        FirstLeast (fun k score => score? y.filings k = some score) k s.score ∧
        y.phase = .awaitingVerdict s ∧ y.trace = x.trace ++ [.reportSelected s] ∧
        y.iface.selection? k = some s) ∧
      y.phase = .awaitingVerdict { number := 6, freq := 2437, score := -64.0 } := by
  intro i idle degenerate calls x y
  have hclean : i.isClean = true := by decide
  have hphase : x.phase = .surveying 3 2462 := by decide
  have hfew : ∀ k, (filedFor y.filings k).length < UInt32.size := fun k =>
    Nat.lt_of_le_of_lt (length_filedFor_le y.filings k) (by decide)
  have hnumbers : ∀ k score, score? y.filings k = some score → score.isNaN = false := by
    intro k score hscore
    have hall : ∀ f ∈ y.filings, (score? y.filings f.index).all (!·.isNaN) = true := by decide
    obtain ⟨f, hf, rfl⟩ := filing_of_score? hscore
    have hnumber := hall f hf
    rw [hscore, Option.all_some, Bool.not_eq_true'] at hnumber
    exact hnumber
  obtain ⟨_, _, hselected⟩ :=
    settled_of_calls i hclean calls 3 2462 [idle (-95)] hphase (by decide) hfew hnumbers
  exact ⟨hclean, hphase, by decide, hselected (by decide), by decide⟩

end Sweep

end ChannelSurvey

import ChannelSurvey.Proofs.Sweep.Verdict
import Mathlib.Data.Finset.Prod
import Mathlib.Data.Finset.Range

/-!
# A sweep whose channels come and go

Between two calls the surroundings of a sweep may set and clear the flags of channels (`Turn`), also that of
the channel being surveyed. A `Voyage` keeps the requests to leave the operating channel since the last accepted
start, each as the round and the position it was made in.

**The law** (`excursions_of_turns`): whatever happens to the flags, every such request is for the first
enabled channel at or after the place the walk goes on from, the requests of a sweep come in ascending order
of round and position, and there are no more of them than positions in all rounds. A selection is that of an
enabled channel with a sample that is not degenerate. A round that finds every channel disabled fails the
sweep.

On a stop nothing is known of its channel but that the position is within the list. What carries the induction
is that everything asked for so far lies before the next position of the round (`Led`): flags decide how far
the walk goes from there, and never take it back.
-/

namespace ChannelSurvey

namespace Interface

/-- The interface with the flag of one channel set or cleared. -/
def flagged (i : Interface) (index : Nat) (disabled : Bool) : Interface :=
  { i with channels := i.channels.modify index fun c => { c with disabled } }

@[simp] theorem length_flagged (i : Interface) (index : Nat) (disabled : Bool) :
    (i.flagged index disabled).channels.length = i.channels.length :=
  List.length_modify ..

/-- Every channel at or after a position is disabled. -/
def NoneEnabled (i : Interface) (start : Nat) : Prop :=
  ∀ k c, start ≤ k → i.channels[k]? = some c → c.disabled = true

/-- The first enabled channel at or after a position. -/
structure FirstEnabled (i : Interface) (start : Nat) (s : Stop) : Prop where
  behind : start ≤ s.index
  channel : ∃ c, i.channels[s.index]? = some c ∧ c.disabled = false ∧ c.freq = s.freq
  first : ∀ k c, start ≤ k → k < s.index → i.channels[k]? = some c → c.disabled = true

theorem firstEnabled_of_stopsFrom {i : Interface} {start : Nat} {s : Stop} {rest : List Stop}
    (h : i.stopsFrom start = s :: rest) : i.FirstEnabled start s := by
  obtain ⟨behind, _, channel⟩ := stopsFrom_eq_cons h
  exact ⟨behind, channel, disabled_before_stop h⟩

variable [BinaryLog]

/-- What a sweep settles on is an enabled channel with a sample that is not degenerate. -/
theorem useful_of_selection {i : Interface} {s : Selection}
    (h : i.select.ideal.bind i.select.iface.selection? = some s) :
    ∃ c ∈ i.select.iface.channels, c.disabled = false ∧ c.number = s.number ∧ c.freq = s.freq ∧
      ∃ sample ∈ c.samples.toList, sample.isDegenerate = false := by
  obtain ⟨index, c, baseline, score, _, husable, hassessment, hassessed, hnumber, hfreq, _⟩ :=
    candidate_of_selection h
  have hclear := Channel.clear_assess c baseline
  obtain ⟨_, _, henabled⟩ := Channel.isUsable_iff.mp husable
  have hfactors : c.factors baseline ≠ [] := by
    intro hnone
    rw [Channel.assessment_of_isUsable husable, mean_eq_none.mpr hnone] at hassessment
    cases hassessment
  obtain ⟨factor, hfactor⟩ := List.exists_mem_of_ne_nil _ hfactors
  obtain ⟨sample, hsample, hsome⟩ := List.mem_filterMap.mp hfactor
  have huseful : sample.isDegenerate = false := by
    cases hdegenerate : sample.isDegenerate with
    | false => rfl
    | true =>
      rw [Sample.factor_eq_none.mpr hdegenerate] at hsome
      cases hsome
  refine ⟨c.assess baseline, List.mem_of_getElem? hassessed, (congrArg Channel.disabled hclear).trans henabled,
    (congrArg Channel.number hclear).trans hnumber, (congrArg Channel.freq hclear).trans hfreq, sample, ?_,
    huseful⟩
  rw [Channel.samples_assess]
  exact hsample

end Interface

namespace Sweep

/-! ## Excursions -/

/-- A request to leave the operating channel, by its round and the position of its channel. -/
structure Excursion where
  round : Nat
  index : Nat
  deriving DecidableEq, Repr

namespace Excursion

/-- In an earlier round, or at a lower position of the same one. -/
def Before (a b : Excursion) : Prop :=
  a.round < b.round ∨ a.round = b.round ∧ a.index < b.index

theorem Before.ne {a b : Excursion} (h : a.Before b) : a ≠ b := by
  rintro rfl
  rcases h with h | ⟨_, h⟩
  · exact Nat.lt_irrefl _ h
  · exact Nat.lt_irrefl _ h

theorem Before.further {a : Excursion} {round index next : Nat} (h : a.Before ⟨round, index⟩)
    (le : index ≤ next) : a.Before ⟨round, next⟩ := by
  rcases h with h | ⟨same, h⟩
  · exact .inl h
  · exact .inr ⟨same, Nat.lt_of_lt_of_le h le⟩

theorem Before.nextRound {a : Excursion} {round index : Nat} (h : a.Before ⟨round, index⟩) (next : Nat) :
    a.Before ⟨round + 1, next⟩ := by
  refine .inl (Nat.lt_succ_of_le ?_)
  rcases h with h | ⟨same, _⟩
  · exact Nat.le_of_lt h
  · exact Nat.le_of_eq same

/-- **Excursions in order are no more than there are positions in all rounds.** -/
theorem length_le_of_ordered {t : List Excursion} {rounds channels : Nat} (ordered : t.Pairwise Before)
    (within : ∀ e ∈ t, e.round < rounds ∧ e.index < channels) : t.length ≤ rounds * channels := by
  let places := t.map fun e => (e.round, e.index)
  have hdistinct : places.Nodup := by
    refine List.Nodup.map (fun a b h => ?_) (ordered.imp Before.ne)
    obtain ⟨round, index⟩ := a
    cases h
    rfl
  have hwithin : places.toFinset ⊆ Finset.range rounds ×ˢ Finset.range channels := by
    intro place hplace
    obtain ⟨e, he, rfl⟩ := List.mem_map.mp (List.mem_toFinset.mp hplace)
    obtain ⟨hround, hindex⟩ := within e he
    exact Finset.mem_product.mpr ⟨Finset.mem_range.mpr hround, Finset.mem_range.mpr hindex⟩
  have hcard := Finset.card_le_card hwithin
  rw [List.toFinset_card_of_nodup hdistinct, List.length_map, Finset.card_product, Finset.card_range,
    Finset.card_range] at hcard
  exact hcard

end Excursion

/-- The excursion a step asks for: the round it is in, and the position of the walk. -/
def requested? (step : Step) : Option Excursion :=
  match step.action with
  | some (.requestOffChannel _ _) => some ⟨step.iface.roundsDone.toNat, step.iface.position⟩
  | _ => none

/-- What the surroundings of a sweep do: they start it, bring it an event, or set or clear the flag of a
channel. -/
inductive Turn where
  | start
  | event (e : Event)
  | flag (index : Nat) (disabled : Bool)
  deriving DecidableEq

/-- A sweep with its excursions since the last start that was accepted. -/
structure Voyage extends State where
  excursions : List Excursion := []

section

variable [BinaryLog]

namespace Voyage

/-- Before anything was started. -/
def standing (p : Phase) (i : Interface) : Voyage :=
  { phase := p, iface := i }

def after (x : Voyage) : Turn → Voyage
  | .start =>
    match Sweep.start x.phase x.iface with
    | .ok s => { phase := s.phase, iface := s.iface, excursions := (requested? s).toList }
    | .error _ => x
  | .event e =>
    let s := Sweep.handle x.phase x.iface e
    { phase := s.phase, iface := s.iface, excursions := x.excursions ++ (requested? s).toList }
  | .flag index disabled => { x with iface := x.iface.flagged index disabled }

def afterAll (x : Voyage) (turns : List Turn) : Voyage :=
  turns.foldl after x

end Voyage

end

/-! ## The invariant -/

/-- On a stop: what was asked for lies before the next position of the round. -/
structure OnWay (i : Interface) (index : Nat) (t : List Excursion) : Prop where
  position : index = i.position
  range : index < i.channels.length
  owed : i.roundsDone < i.settings.target
  behind : ∀ e ∈ t, e.Before ⟨i.roundsDone.toNat, index + 1⟩

def Led : Phase → Interface → List Excursion → Prop
  | .kickoff, _, t => t = []
  | .scanning index _, i, t | .surveying index _, i, t => OnWay i index t
  | .roundComplete, _, _ => False
  | .idle, _, _ | .awaitingVerdict _, _, _ | .done _, _, _ | .failed _, _, _ => True

/-- **The invariant**: the walk is within the list, and so are the excursions, in order. -/
structure Roams (p : Phase) (i : Interface) (t : List Excursion) : Prop where
  range : i.position ≤ i.channels.length
  led : Led p i t
  ordered : t.Pairwise Excursion.Before
  within : ∀ e ∈ t, e.round < i.settings.target.toNat ∧ e.index < i.channels.length

variable {p : Phase} {i : Interface} {t : List Excursion} {step : Step}

/-- A step that asks for no excursion. -/
theorem Roams.quiet (h : Roams p i t) (layout : Interface.SameLayout step.iface i)
    (quiet : requested? step = none) (range : step.iface.position ≤ step.iface.channels.length)
    (led : Led step.phase step.iface t) :
    Roams step.phase step.iface (t ++ (requested? step).toList) := by
  rw [quiet, Option.toList_none, List.append_nil]
  refine ⟨range, led, h.ordered, ?_⟩
  rw [layout.settings, layout.length]
  exact h.within

/-- A step that heads for a stop ahead of everything asked for. -/
theorem Roams.toward (h : Roams p i t) {j : Interface} {start : Nat} {s : Stop} {rest : List Stop}
    (layout : Interface.SameLayout j i) (owed : j.roundsDone < j.settings.target)
    (next : j.stopsFrom start = s :: rest) (ahead : ∀ e ∈ t, e.Before ⟨j.roundsDone.toNat, s.index⟩)
    (log : List Severity) :
    Roams ((toward j s).after log).phase ((toward j s).after log).iface
      (t ++ (requested? ((toward j s).after log)).toList) := by
  have hrange := Interface.index_lt_of_stopsFrom next
  have hmem (e : Excursion) (he : e ∈ t ++ [⟨j.roundsDone.toNat, s.index⟩]) :
      e ∈ t ∨ e = ⟨j.roundsDone.toNat, s.index⟩ := by
    rcases List.mem_append.mp he with hold | hnew
    · exact .inl hold
    · exact .inr (List.mem_singleton.mp hnew)
  refine ⟨Nat.le_of_lt hrange, ⟨rfl, hrange, owed, ?_⟩, ?_, ?_⟩
  · intro e he
    rcases hmem e he with hold | rfl
    · exact (ahead e hold).further (Nat.le_succ _)
    · exact .inr ⟨rfl, Nat.lt_succ_self _⟩
  · refine List.pairwise_append.mpr ⟨h.ordered, List.pairwise_singleton _ _, fun e he new hnew => ?_⟩
    obtain rfl := List.mem_singleton.mp hnew
    exact ahead e he
  · intro e he
    rcases hmem e he with hold | rfl
    · have hwithin := h.within e hold
      rw [← layout.settings, ← layout.length] at hwithin
      exact hwithin
    · exact ⟨UInt32.lt_iff_toNat_lt.mp owed, hrange⟩

theorem Started.roams (started : Started i step) :
    Roams step.phase step.iface (requested? step).toList := by
  cases started with
  | dirty | incapable => exact ⟨Nat.zero_le _, trivial, .nil, fun e he => absurd he List.not_mem_nil⟩
  | begun => exact ⟨Nat.zero_le _, rfl, .nil, fun e he => absurd he List.not_mem_nil⟩

section

variable [BinaryLog] {e : Event}

theorem Roams.closed {index : Nat} {samples : List Sample} {freq : UInt32}
    (h : Roams (.surveying index freq) i t) (closing : Closed (roundStored i index samples) step)
    (log : List Severity) :
    Roams (step.after log).phase (step.after log).iface (t ++ (requested? (step.after log)).toList) := by
  obtain ⟨position, range, owed, behind⟩ : OnWay i index t := h.led
  have hstored := sameLayout_roundStored i index samples
  have hlayout : Interface.SameLayout (step.after log).iface i := closing.sameLayout.trans hstored
  cases closing with
  | @again s rest before more first =>
    have hnext : (roundAdded (roundStored i index samples)).roundsDone.toNat = i.roundsDone.toNat + 1 := by
      rw [roundAdded, roundsDone_roundStored]
      exact toNat_add_one (room_of_owed owed)
    refine h.toward (j := roundAdded (roundStored i index samples)) ⟨hstored.channels, hstored.settings⟩ more
      first ?_ (log ++ before)
    intro e he
    rw [hnext]
    exact (behind e he).nextRound s.index
  | noChannel | noData | noIdeal => exact h.quiet hlayout rfl (Nat.zero_le _) trivial
  | selected =>
    refine h.quiet hlayout rfl ?_ trivial
    have hposition := (Interface.select_counters (roundAdded (roundStored i index samples))).1
    rw [hlayout.length]
    exact Nat.le_of_eq hposition

/-- **One event keeps the invariant.** -/
theorem roams_handled (h : Roams p i t) (handled : Handled p i e step) :
    Roams step.phase step.iface (t ++ (requested? step).toList) := by
  have hlayout : Interface.SameLayout step.iface i := handled.sameLayout
  cases handled with
  | ignored => exact h.quiet hlayout rfl h.range h.led
  | refused | notReady | cutShort | rejected | noChannel | outOfRange | accepted =>
    exact h.quiet hlayout rfl (Nat.zero_le _) trivial
  | @opened _ s rest log first =>
    obtain rfl : t = [] := h.led
    exact h.toward (j := i.clear) (.clear i) (target_pos _) ((Interface.stopsFrom_clear i 0).trans first)
      (fun e he => absurd he List.not_mem_nil) log
  | dwelt => exact h.quiet hlayout rfl h.range h.led
  | @next _ index freq samples s rest log after =>
    obtain ⟨position, range, owed, behind⟩ : OnWay i index t := h.led
    have hstored := Interface.sameLayout_recordAll i index samples
    have hrounds := Interface.roundsDone_recordAll i index samples
    have hnext := (Interface.stopsFrom_congr hstored _).trans after
    refine h.toward (j := i.recordAll index samples) hstored ?_ hnext ?_ log
    · rw [hrounds, hstored.settings]
      exact owed
    · intro e he
      rw [hrounds]
      exact (behind e he).further (Interface.stopsFrom_eq_cons after).1
  | closed _ _ closing => exact h.closed closing _

end

/-- **Setting or clearing a flag keeps the invariant**: it reads none. -/
theorem Roams.flagged (h : Roams p i t) (index : Nat) (disabled : Bool) :
    Roams p (i.flagged index disabled) t := by
  obtain ⟨range, led, ordered, within⟩ := h
  rw [← i.length_flagged index disabled] at range within
  refine ⟨range, ?_, ordered, within⟩
  cases p with
  | scanning k freq | surveying k freq =>
    obtain ⟨position, range, owed, behind⟩ : OnWay i k t := led
    rw [← i.length_flagged index disabled] at range
    exact ⟨position, range, owed, behind⟩
  | _ => exact led

/-! ## Whole runs -/

/-- The invariant over the channels and settings of a given interface. -/
structure OnVoyage (i : Interface) (x : Voyage) : Prop where
  roams : Roams x.phase x.iface x.excursions
  length : x.iface.channels.length = i.channels.length
  settings : x.iface.settings = i.settings

section

variable [BinaryLog]

/-- **One turn keeps a sweep on its voyage.** -/
theorem onVoyage_after {x : Voyage} (h : OnVoyage i x) (turn : Turn) : OnVoyage i (x.after turn) := by
  obtain ⟨roams, length, settings⟩ := h
  cases turn with
  | start =>
    cases hstart : Sweep.start x.phase x.iface with
    | error f =>
      simp only [Voyage.after, hstart]
      exact ⟨roams, length, settings⟩
    | ok step =>
      obtain ⟨_, started⟩ := start_started hstart
      simp only [Voyage.after, hstart]
      exact ⟨started.roams, started.sameLayout.length.trans length, started.sameLayout.settings.trans settings⟩
  | event e =>
    have handled := handle_handled x.phase x.iface e
    have hlayout := handled.sameLayout
    exact ⟨roams_handled roams handled, hlayout.length.trans length, hlayout.settings.trans settings⟩
  | flag index disabled =>
    exact ⟨roams.flagged index disabled, (Interface.length_flagged ..).trans length, settings⟩

theorem onVoyage_afterAll {x : Voyage} (h : OnVoyage i x) (turns : List Turn) :
    OnVoyage i (x.afterAll turns) := by
  induction turns generalizing x with
  | nil => exact h
  | cons turn rest ih => exact ih (onVoyage_after h turn)

omit [BinaryLog] in
/-- Before anything was started, on a clean interface. -/
theorem onVoyage_standing {p : Phase} (inactive : p.isActive = false) (clean : i.isClean = true) :
    OnVoyage i (.standing p i) := by
  have hposition : i.position = 0 := by rw [← Interface.isClean_iff.mp clean]; rfl
  refine ⟨⟨hposition ▸ Nat.zero_le _, ?_, .nil, fun e he => absurd he List.not_mem_nil⟩, rfl, rfl⟩
  cases p with
  | idle | done s | failed f => trivial
  | _ => cases inactive

/-! ## Single requests -/

/-- **Where the walk goes on from**, and in which round: at the first channel when the kick-off scan is over,
behind the channel that was surveyed, or at the first channel again. -/
inductive GoesOn (i : Interface) : Phase → Nat → UInt32 → Prop
  | opening : GoesOn i .kickoff 0 0
  | further {freq : UInt32} : GoesOn i (.surveying i.position freq) (i.position + 1) i.roundsDone
  | again {freq : UInt32} (last : i.NoneEnabled (i.position + 1))
      (owed : i.roundsDone + 1 < i.settings.target) :
      GoesOn i (.surveying i.position freq) 0 (i.roundsDone + 1)

/-- A request to leave the operating channel is for the first enabled channel from there. -/
theorem firstEnabled_of_request {e : Event} (h : Roams p i t) (handled : Handled p i e step)
    {freq dwell : UInt32} (asked : step.action = some (.requestOffChannel freq dwell)) :
    ∃ start round k, GoesOn i p start round ∧ i.FirstEnabled start ⟨k, freq⟩ ∧ dwell = i.settings.dwell ∧
      step.phase = .scanning k freq ∧ step.iface.position = k ∧ step.iface.roundsDone = round := by
  cases handled with
  | @opened _ s rest log first =>
    cases asked
    exact ⟨0, 0, s.index, .opening, Interface.firstEnabled_of_stopsFrom first, rfl, rfl, rfl, rfl⟩
  | @next _ index _ samples s rest log after =>
    obtain ⟨rfl, _⟩ : OnWay i index t := h.led
    cases asked
    refine ⟨_, _, s.index, .further, Interface.firstEnabled_of_stopsFrom after, ?_, rfl, rfl, ?_⟩
    · rw [Interface.settings_recordAll]
    · exact Interface.roundsDone_recordAll ..
  | @closed _ index _ samples _ _ range last closing =>
    obtain ⟨rfl, _⟩ : OnWay i index t := h.led
    have hlayout := sameLayout_roundStored i i.position samples
    cases closing with
    | @again s rest _ owed first =>
      cases asked
      rw [roundsDone_roundStored, hlayout.settings] at owed
      rw [Interface.stops_congr hlayout] at first
      refine ⟨_, _, s.index, .again (Interface.disabled_of_stopsFrom_nil last) owed,
        Interface.firstEnabled_of_stopsFrom first, ?_, rfl, rfl, ?_⟩
      · exact congrArg Settings.dwell hlayout.settings
      · exact congrArg (· + 1) (roundsDone_roundStored i i.position samples)
    | _ => cases asked
  | _ => cases asked

/-- A selection that is reported is that of an enabled channel with a useful sample. -/
theorem useful_of_report {e : Event} (handled : Handled p i e step) {s : Selection}
    (reported : step.action = some (.reportSelected s)) :
    ∃ c ∈ step.iface.channels, c.disabled = false ∧ c.number = s.number ∧ c.freq = s.freq ∧
      ∃ sample ∈ c.samples.toList, sample.isDegenerate = false := by
  cases handled with
  | closed _ _ closing =>
    cases closing with
    | selected _ _ chosen =>
      cases reported
      exact Interface.useful_of_selection chosen
    | _ => cases reported
  | _ => cases reported

/-- **A survey fails the sweep** when rounds are owed and every channel is disabled. -/
theorem survey_noChannel {index : Nat} {freq : UInt32} (h : Roams (.surveying index freq) i t)
    (samples : List Sample) (owed : i.roundsDone + 1 < i.settings.target) (none : i.NoneEnabled 0) :
    let step := handle (.surveying index freq) i (.survey freq samples)
    step.phase = .failed (.unmet .channelEnabled) ∧ step.action = some (.reportFailed (.unmet .channelEnabled)) ∧
      step.iface.isClean = true := by
  intro step
  obtain ⟨_, range, _⟩ : OnWay i index t := h.led
  obtain ⟨stored, hproceeds, hstored⟩ := survey_proceeds i index freq samples
  have hstep : step = stored.after (surveyLog i index samples) := hstored
  rw [hstep]
  cases hproceeds with
  | next after =>
    have hrest : i.stopsFrom (index + 1) = [] :=
      Interface.stopsFrom_eq_nil fun k c _ hc => none k c (Nat.zero_le k) hc
    rw [hrest] at after
    cases after
  | closed =>
    have hlayout := sameLayout_roundStored i index samples
    have hmore : (roundStored i index samples).roundsDone + 1 <
        (roundStored i index samples).settings.target := by
      rw [hlayout.settings, roundsDone_roundStored]
      exact owed
    have hnone : (roundStored i index samples).stops = [] :=
      (Interface.stops_congr hlayout).trans (Interface.stopsFrom_eq_nil none)
    have hclosed := closeRound_closed (roundStored i index samples)
    generalize closeRound .roundComplete (roundStored i index samples) = closing at hclosed
    cases hclosed with
    | again _ first =>
      rw [hnone] at first
      cases first
    | noChannel => exact ⟨rfl, rfl, Interface.isClean_clear _⟩
    | noData paid | noIdeal paid | selected paid => exact absurd hmore paid
  | outOfRange outside => exact absurd outside (Nat.not_lt.mpr range)

/-- **A sweep whose channels come and go.** On a clean interface, without an active sweep, let any calls
follow, and any flags be set and cleared between them. The walk stays within the channel list, and no call
leaves a round complete. The requests to leave the operating channel since the last accepted start come in
ascending order, by round and then by position, and are no more than there are positions in all rounds. Each
is for the channel enabled at that moment that comes first where the walk goes on from. A selection that is
reported is that of a channel enabled at that moment, with a sample that is not degenerate. A survey that
leaves rounds owed and finds every channel disabled fails the sweep with a clean interface. -/
theorem excursions_of_turns (p : Phase) (inactive : p.isActive = false) (i : Interface)
    (clean : i.isClean = true) (turns : List Turn) :
    let x := (Voyage.standing p i).afterAll turns
    x.iface.position ≤ i.channels.length ∧
    x.phase ≠ .roundComplete ∧
    x.excursions.Pairwise Excursion.Before ∧
    x.excursions.length ≤ i.settings.target.toNat * i.channels.length ∧
    ∀ e, let step := handle x.phase x.iface e
      (∀ freq dwell, step.action = some (.requestOffChannel freq dwell) →
        ∃ start round k, GoesOn x.iface x.phase start round ∧ x.iface.FirstEnabled start ⟨k, freq⟩ ∧
          dwell = i.settings.dwell ∧ step.phase = .scanning k freq ∧ step.iface.position = k ∧
          step.iface.roundsDone = round) ∧
      (∀ s, step.action = some (.reportSelected s) →
        ∃ c ∈ step.iface.channels, c.disabled = false ∧ c.number = s.number ∧ c.freq = s.freq ∧
          ∃ sample ∈ c.samples.toList, sample.isDegenerate = false) ∧
      (∀ index freq samples, x.phase = .surveying index freq → e = .survey freq samples →
        x.iface.roundsDone + 1 < i.settings.target → x.iface.NoneEnabled 0 →
        step.phase = .failed (.unmet .channelEnabled) ∧
          step.action = some (.reportFailed (.unmet .channelEnabled)) ∧ step.iface.isClean = true) := by
  intro x
  obtain ⟨roams, length, settings⟩ : OnVoyage i x := onVoyage_afterAll (onVoyage_standing inactive clean) turns
  rw [← length, ← settings]
  refine ⟨roams.range, ?_, roams.ordered, Excursion.length_le_of_ordered roams.ordered roams.within, ?_⟩
  · intro hphase
    have hled := roams.led
    rw [hphase] at hled
    exact hled
  · intro e step
    have handled : Handled x.phase x.iface e step := handle_handled x.phase x.iface e
    refine ⟨fun freq dwell asked => firstEnabled_of_request roams handled asked,
      fun s reported => useful_of_report handled reported, ?_⟩
    intro index freq samples hphase he owed none
    subst he
    rw [hphase] at roams
    have hfails := survey_noChannel roams samples owed none
    rw [← hphase] at hfails
    exact hfails

end

/-- Two rounds over three channels. The first channel is disabled while it is surveyed, the second before its
turn; in the second round the walk meets the second channel alone, which is disabled before its survey
arrives. -/
theorem excursions_of_turns_changing :
    let i : Interface :=
      { channels := [{ number := 1, freq := 2412 }, { number := 6, freq := 2437 }, { number := 11, freq := 2462 }]
        offChannelCapable := true, settings := { rounds := 2, dwell := 5 } }
    let idle : Sample := { total := 5000, busy := 0, own := 0, noise := -95 }
    let turns : List Turn :=
      [.start, .event .kickoffComplete, .flag 1 true, .event (.cancelled 2412 5 0), .flag 0 true,
        .event (.survey 2412 [idle]), .event (.cancelled 2462 5 0), .flag 2 true, .flag 1 false,
        .event (.survey 2462 [idle]), .event (.cancelled 2437 5 0)]
    let x := (Voyage.standing .idle i).afterAll turns
    Phase.idle.isActive = false ∧ i.isClean = true ∧
      x.excursions = [⟨0, 0⟩, ⟨0, 2⟩, ⟨1, 1⟩] ∧
      x.excursions.length ≤ i.settings.target.toNat * i.channels.length ∧ x.phase = .surveying 1 2437 ∧
      ∃ c ∈ (handle x.phase x.iface (.survey 2437 [idle])).iface.channels, c.disabled = false ∧ c.number = 6 := by
  intro i idle turns
  have hclean : i.isClean = true := by decide
  obtain ⟨_, _, _, hlength, hevent⟩ := excursions_of_turns .idle rfl i hclean turns
  obtain ⟨_, hreport, _⟩ := hevent (.survey 2437 [idle])
  obtain ⟨c, hc, henabled, hnumber, _⟩ :=
    hreport { number := 6, freq := 2437, score := -64.0 } (by decide)
  exact ⟨rfl, hclean, by decide, hlength, by decide, c, hc, henabled, hnumber⟩

end Sweep

end ChannelSurvey

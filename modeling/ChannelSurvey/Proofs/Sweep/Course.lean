import ChannelSurvey.Proofs.Sweep.Route
import ChannelSurvey.Proofs.Sweep.Soundness

/-!
# The course of a sweep

What a sweep asks for between one accepted start and the next is a word over its actions. `walkOf` is the
whole walk: every round asks, for each enabled channel in ascending order, for a dwell and then for the
survey. `Course` lists the words a sweep can have asked for so far.

**The law** (`course_of_calls`): after any calls of `start` and `handle`, whatever events they bring, the
actions since the last accepted start are a course. The survey that ends the last round is answered by a
report at once, every other one by the request that comes next in the walk.

What carries the induction is `Kept`: what was asked for, followed by what is still `owed` at the place of
the walk, is the whole walk. Every request is then the head of what is owed.
-/

namespace ChannelSurvey.Sweep

/-! ## The words -/

/-- What one round asks for. -/
def roundOf (i : Interface) : List Action :=
  (i.channels.filter fun c => !c.disabled).flatMap fun c =>
    [.requestOffChannel c.freq i.settings.dwell, .requestTraffic c.freq]

/-- What all rounds ask for. -/
def walkOf (i : Interface) : List Action :=
  (List.replicate i.settings.target.toNat (roundOf i)).flatten

/-- What a sweep can have asked for since it was started. -/
inductive Course (i : Interface) : List Action → Prop
  | unmet : Course i [.reportFailed (.unmet .offChannelCapable)]
  | underway {walked : List Action} (part : walked <+: walkOf i) : Course i (.requestKickoff :: walked)
  /-- The walk ended early, or led to no selection. -/
  | failed {walked : List Action} {f : Failure} (part : walked <+: walkOf i) :
      Course i (.requestKickoff :: walked ++ [.reportFailed f])
  | selected {s : Selection} (enabled : ∃ c ∈ i.channels, c.disabled = false) :
      Course i (.requestKickoff :: walkOf i ++ [.reportSelected s])
  /-- The walk led to a selection and the sweep failed after all. -/
  | rejected {s : Selection} {f : Failure} (enabled : ∃ c ∈ i.channels, c.disabled = false) :
      Course i (.requestKickoff :: walkOf i ++ [.reportSelected s] ++ [.reportFailed f])

/-- The requests that visit these stops. -/
def visits (dwell : UInt32) (stops : List Stop) : List Action :=
  stops.flatMap fun s => [.requestOffChannel s.freq dwell, .requestTraffic s.freq]

theorem roundOf_eq (i : Interface) : roundOf i = visits i.settings.dwell i.stops := by
  have hfreqs := congrArg
    (List.flatMap fun freq => [Action.requestOffChannel freq i.settings.dwell, .requestTraffic freq])
    (Interface.map_freq_stops i)
  rw [List.flatMap_map, List.flatMap_map] at hfreqs
  exact hfreqs.symm

/-- Visiting the stops of all rounds is to visit those of one, over and over. -/
theorem visits_rounds (dwell : UInt32) (stops : List Stop) (rounds : Nat) :
    visits dwell (List.replicate rounds stops).flatten = (List.replicate rounds (visits dwell stops)).flatten := by
  induction rounds with
  | zero => rfl
  | succ n ih =>
    rw [List.replicate_succ, List.replicate_succ, List.flatten_cons, List.flatten_cons, ← ih]
    exact List.flatMap_append

/-- The whole walk visits the route. -/
theorem walkOf_eq (i : Interface) : walkOf i = visits i.settings.dwell (route i) := by
  rw [walkOf, roundOf_eq, route, visits_rounds]

theorem walkOf_congr {i j : Interface} (h : Interface.SameLayout i j) : walkOf i = walkOf j := by
  rw [walkOf_eq, walkOf_eq, route_congr h, h.settings]

theorem walkOf_eq_nil {i : Interface} (none : i.stops = []) : walkOf i = [] := by
  rw [walkOf_eq, route_eq_nil none]
  rfl

theorem enabled_congr {i j : Interface} (h : Interface.SameLayout i j)
    (enabled : ∃ c ∈ i.channels, c.disabled = false) : ∃ c ∈ j.channels, c.disabled = false := by
  obtain ⟨c, hc, hflag⟩ := enabled
  have hmem : c.clear ∈ j.channels.map (·.clear) := h.channels ▸ List.mem_map_of_mem hc
  obtain ⟨d, hd, hclear⟩ := List.mem_map.mp hmem
  have hsame := congrArg Channel.disabled hclear
  exact ⟨d, hd, hsame.trans hflag⟩

theorem Course.congr {i j : Interface} {t : List Action} (h : Interface.SameLayout i j) (course : Course i t) :
    Course j t := by
  have hwalk := walkOf_congr h
  cases course with
  | unmet => exact .unmet
  | underway part => exact .underway (hwalk ▸ part)
  | failed part => exact .failed (hwalk ▸ part)
  | selected enabled =>
    rw [hwalk]
    exact .selected (enabled_congr h enabled)
  | rejected enabled =>
    rw [hwalk]
    exact .rejected (enabled_congr h enabled)

/-- A report ends the requests of a sweep. -/
def IsReport (a : Action) : Prop :=
  (∃ s, a = .reportSelected s) ∨ ∃ f, a = .reportFailed f

/-! ## What is still owed -/

/-- The rest of the walk, from a position of the current round on. -/
def owed (i : Interface) (position : Nat) : List Action :=
  visits i.settings.dwell (i.stopsFrom position) ++
    (List.replicate (i.settings.target.toNat - (i.roundsDone.toNat + 1)) (roundOf i)).flatten

/-- What is owed visits what is ahead of the route. -/
theorem owed_eq (i : Interface) (position : Nat) :
    owed i position = visits i.settings.dwell (routeFrom i position) := by
  have happend (stops more : List Stop) : visits i.settings.dwell (stops ++ more) =
      visits i.settings.dwell stops ++ visits i.settings.dwell more := List.flatMap_append
  rw [owed, roundOf_eq, routeFrom, happend, visits_rounds]

theorem owed_congr {i j : Interface} (h : Interface.SameLayout i j) (rounds : i.roundsDone = j.roundsDone)
    (position : Nat) : owed i position = owed j position := by
  rw [owed_eq, owed_eq, routeFrom_congr h rounds, h.settings]

/-- With a stop left in the round, its two requests come first. -/
theorem owed_toward {i : Interface} {position : Nat} {s : Stop} {rest : List Stop}
    (h : i.stopsFrom position = s :: rest) :
    owed i position =
      .requestOffChannel s.freq i.settings.dwell :: .requestTraffic s.freq :: owed i (s.index + 1) := by
  rw [owed_eq, owed_eq, routeFrom_cons h]
  rfl

theorem owed_first {i : Interface} (fresh : i.roundsDone = 0) : owed i 0 = walkOf i := by
  rw [owed_eq, routeFrom_zero fresh, walkOf_eq]

/-- Behind the last stop of a round, with rounds owed, the next round is owed from its start. -/
theorem owed_again {i : Interface} {position : Nat} (last : i.stopsFrom position = [])
    (room : i.roundsDone.toNat + 1 < UInt32.size) (more : i.roundsDone + 1 < i.settings.target) :
    owed i position = owed (roundAdded i) 0 := by
  rw [owed_eq, owed_eq, routeFrom_again last room more]
  rfl

theorem owed_none {i : Interface} {position : Nat} (last : i.stopsFrom position = [])
    (room : i.roundsDone.toNat + 1 < UInt32.size) (paid : ¬ i.roundsDone + 1 < i.settings.target) :
    owed i position = [] := by
  rw [owed_eq, routeFrom_nil last room paid]
  rfl

/-! ## Watching a sweep -/

/-- What the surroundings of a sweep do: they start it, bring it an event, or find that the radio can or
cannot leave the operating channel. -/
inductive Call where
  | start
  | event (e : Event)
  | capability (able : Bool)
  deriving DecidableEq

/-- A sweep with the actions it has asked for since the last start that was accepted. -/
structure Watched extends State where
  trace : List Action := []

/-- A sweep that never ran, under watch. -/
def Watched.fresh (i : Interface) : Watched :=
  { phase := .idle, iface := i }

section

variable [BinaryLog]

namespace Watched

/-- What is seen after a call. A start that is refused changes nothing. -/
def after (x : Watched) : Call → Watched
  | .start =>
    match Sweep.start x.phase x.iface with
    | .ok s => { phase := s.phase, iface := s.iface, trace := s.action.toList }
    | .error _ => x
  | .event e =>
    let s := Sweep.handle x.phase x.iface e
    { phase := s.phase, iface := s.iface, trace := x.trace ++ s.action.toList }
  | .capability able => { x with iface := { x.iface with offChannelCapable := able } }

def afterAll (x : Watched) (calls : List Call) : Watched :=
  calls.foldl after x

end Watched

/-! ## The invariant -/

section

omit [BinaryLog]

/-- What was asked for and what is still to be asked for make up the walk. -/
def Splits (i : Interface) (t rest : List Action) : Prop :=
  ∃ walked, t = .requestKickoff :: walked ∧ walked ++ rest = walkOf i

/-- **The trace fits the phase.** On the walk, it is what is no longer owed. -/
def Kept : Phase → Interface → List Action → Prop
  | .idle, _, t => t = []
  | .kickoff, _, t => t = [.requestKickoff]
  | .scanning index freq, i, t => Splits i t (.requestTraffic freq :: owed i (index + 1))
  | .surveying index _, i, t => Splits i t (owed i (index + 1))
  | .roundComplete, _, _ => False
  | .awaitingVerdict s, i, t => t = .requestKickoff :: walkOf i ++ [.reportSelected s]
  | .done _, i, t | .failed _, i, t => Course i t

/-- A request that is the head of what is owed takes its place in the trace. -/
theorem Splits.asked {i : Interface} {t rest : List Action} {a : Action} (h : Splits i t (a :: rest)) :
    Splits i (t ++ [a]) rest := by
  obtain ⟨walked, rfl, hwalk⟩ := h
  exact ⟨walked ++ [a], rfl, by rw [List.append_assoc, List.singleton_append, hwalk]⟩

theorem Splits.congr {i j : Interface} {t rest : List Action} (hlayout : Interface.SameLayout i j)
    (h : Splits i t rest) : Splits j t rest := by
  obtain ⟨walked, rfl, hwalk⟩ := h
  exact ⟨walked, rfl, hwalk.trans (walkOf_congr hlayout)⟩

theorem Splits.toward {i : Interface} {t : List Action} {position : Nat} {s : Stop} {rest : List Stop}
    (h : Splits i t (owed i position)) (next : i.stopsFrom position = s :: rest) :
    Splits i (t ++ [.requestOffChannel s.freq i.settings.dwell])
      (.requestTraffic s.freq :: owed i (s.index + 1)) := by
  rw [owed_toward next] at h
  exact h.asked

theorem Offers.enabled {i : Interface} {s : Selection} (h : Offers i s) :
    ∃ c ∈ i.channels, c.disabled = false := by
  obtain ⟨c, hc, hflag, _⟩ := h
  exact ⟨c, hc, hflag⟩

/-- Once a sweep has been started, its trace is a course. -/
theorem Kept.course {p : Phase} {i : Interface} {t : List Action} (h : Kept p i t) (sound : Sound p i)
    (started : p ≠ .idle) : Course i t := by
  cases p with
  | idle => exact absurd rfl started
  | kickoff =>
    obtain rfl : t = [.requestKickoff] := h
    exact .underway List.nil_prefix
  | scanning index freq | surveying index freq =>
    obtain ⟨walked, rfl, hwalk⟩ := h
    exact .underway ⟨_, hwalk⟩
  | roundComplete => exact h.elim
  | awaitingVerdict s =>
    obtain rfl : t = .requestKickoff :: walkOf i ++ [Action.reportSelected s] := h
    have hover : HandedOver i s := sound.fits
    exact .selected hover.offers.enabled
  | done s | failed f => exact h

/-- An active sweep may fail at any place of its course. -/
theorem Kept.failed {p : Phase} {i : Interface} {t : List Action} (h : Kept p i t) (sound : Sound p i)
    (active : p.isActive = true) (f : Failure) : Course i.clear (t ++ [.reportFailed f]) := by
  refine Course.congr (Interface.SameLayout.clear i).symm ?_
  cases p with
  | idle | done _ | failed _ => cases active
  | kickoff =>
    obtain rfl : t = [.requestKickoff] := h
    have none : [] <+: walkOf i := List.nil_prefix
    exact .failed none
  | scanning index freq | surveying index freq =>
    obtain ⟨walked, rfl, hwalk⟩ := h
    exact .failed ⟨_, hwalk⟩
  | roundComplete => exact h.elim
  | awaitingVerdict s =>
    obtain rfl : t = .requestKickoff :: walkOf i ++ [Action.reportSelected s] := h
    have hover : HandedOver i s := sound.fits
    exact .rejected hover.offers.enabled

end

/-- Closing the round of a survey keeps the trace in step. -/
theorem kept_closed {i : Interface} {position : Nat} {t : List Action} {step : Step}
    (h : Splits i t (owed i position)) (last : i.stopsFrom position = [])
    (rounds : i.roundsDone < i.settings.target) (closing : Closed i step) :
    Kept step.phase step.iface (t ++ step.action.toList) := by
  have room := room_of_owed rounds
  cases closing with
  | again more first =>
    rw [owed_again last room more] at h
    exact Splits.toward (i := roundAdded i) h first
  | noChannel | noData | noIdeal =>
    obtain ⟨walked, rfl, hwalk⟩ := h
    exact Course.congr (Interface.SameLayout.clear i).symm (.failed ⟨_, hwalk⟩)
  | @selected s log paid some chosen =>
    -- nothing is owed any more, so what was asked for is the whole walk
    rw [owed_none last room paid] at h
    obtain ⟨walked, rfl, hwalk⟩ := h
    have hlayout : Interface.SameLayout (roundAdded i).select.iface i :=
      (Interface.sameLayout_select (roundAdded i)).trans ⟨rfl, rfl⟩
    rw [List.append_nil] at hwalk
    show _ = .requestKickoff :: walkOf _ ++ [.reportSelected s]
    rw [hwalk, ← walkOf_congr hlayout]
    rfl

/-- **One event keeps the trace in step.** -/
theorem kept_handled {p : Phase} {i : Interface} {e : Event} {step : Step} {t : List Action}
    (h : Kept p i t) (sound : Sound p i) (handled : Handled p i e step) :
    Kept step.phase step.iface (t ++ step.action.toList) := by
  cases handled with
  | ignored =>
    show Kept p i (t ++ [])
    rwa [List.append_nil]
  | refused active | notReady active | cutShort active => exact h.failed sound active _
  | noChannel | outOfRange => exact h.failed sound rfl _
  | rejected => exact h.failed sound rfl _
  | @opened _ s rest log first =>
    obtain rfl : t = [.requestKickoff] := h
    have hfirst : i.clear.stopsFrom 0 = s :: rest := (Interface.stopsFrom_clear i 0).trans first
    have hsplits : Splits i.clear [.requestKickoff] (owed i.clear 0) := ⟨[], rfl, owed_first rfl⟩
    exact hsplits.toward hfirst
  | dwelt => exact Splits.asked h
  | @next _ index freq samples s rest log after =>
    have hlayout := (Interface.sameLayout_recordAll i index samples).symm
    have hsplits : Splits i t (owed i (index + 1)) := h
    -- what is owed depends on the layout and the rounds done, and storing samples changes neither
    rw [owed_congr hlayout (Interface.roundsDone_recordAll i index samples).symm] at hsplits
    exact (hsplits.congr hlayout).toward ((Interface.stopsFrom_congr hlayout _).symm.trans after)
  | @closed _ index freq samples step log range last closing =>
    have hstop : OnStop i index freq := sound.fits
    have hrounds := Interface.roundsDone_recordAll i index samples
    have hlayout := (sameLayout_roundStored i index samples).symm
    have hsplits : Splits i t (owed i (index + 1)) := h
    rw [owed_congr hlayout hrounds.symm] at hsplits
    have howed : (roundStored i index samples).roundsDone < (roundStored i index samples).settings.target := by
      rw [← hlayout.settings, roundStored, hrounds]
      exact hstop.owed
    have hclosed := kept_closed (hsplits.congr hlayout)
      ((Interface.stopsFrom_congr hlayout _).symm.trans last) howed closing
    exact hclosed
  | @accepted _ s =>
    obtain rfl : t = .requestKickoff :: walkOf i ++ [Action.reportSelected s] := h
    have hover : HandedOver i s := sound.fits
    show Course i.clear (_ ++ [])
    rw [List.append_nil]
    exact Course.congr (Interface.SameLayout.clear i).symm (.selected hover.offers.enabled)

/-! ## Whole runs -/

/-- A sweep under watch that is sound, on an interface of this layout, with its trace in step. -/
structure OnCourse (i : Interface) (x : Watched) : Prop where
  sound : Sound x.phase x.iface
  layout : Interface.SameLayout x.iface i
  kept : Kept x.phase x.iface x.trace

omit [BinaryLog] in
/-- Without an active sweep, nothing is surveyed. -/
theorem Sound.surveyed_eq_zero {p : Phase} {i : Interface} (h : Sound p i) (inactive : p.isActive = false) :
    i.surveyed = 0 := by
  have hclean : i.isClean = true := by
    have hfits := h.fits
    cases p with
    | idle | failed _ => exact hfits
    | done s => exact hfits.1
    | _ => cases inactive
  rw [← Interface.isClean_iff.mp hclean]
  rfl

omit [BinaryLog] in
/-- What the radio can do matters to a start only. -/
theorem OnCourse.capability {i : Interface} {x : Watched} (h : OnCourse i x) (able : Bool) :
    OnCourse i { x with iface := { x.iface with offChannelCapable := able } } := by
  obtain ⟨⟨p, j⟩, t⟩ := x
  obtain ⟨⟨range, fits⟩, layout, kept⟩ := h
  refine ⟨⟨range, ?_⟩, ⟨layout.channels, layout.settings⟩, ?_⟩
  · cases p with
    | scanning index freq | surveying index freq =>
      exact ⟨fits.position, fits.range, fits.channel, fits.owed, fits.unscored⟩
    | roundComplete => exact ⟨fits.position, fits.unscored⟩
    | awaitingVerdict s => exact ⟨fits.position, fits.paid, fits.operating, fits.offers⟩
    | idle | kickoff | done s | failed f => exact fits
  · cases p with
    | done s | failed f =>
      have course : Course j t := kept
      have hlayout : Interface.SameLayout j { j with offChannelCapable := able } := ⟨rfl, rfl⟩
      exact course.congr hlayout
    | _ => exact kept

/-- **One call keeps a sweep on course.** -/
theorem onCourse_after {i : Interface} {x : Watched} (h : OnCourse i x) (c : Call) :
    OnCourse i (x.after c) := by
  cases c with
  | start =>
    cases hstart : Sweep.start x.phase x.iface with
    | error f =>
      simp only [Watched.after, hstart]
      exact h
    | ok step =>
      obtain ⟨inactive, started⟩ := start_started hstart
      simp only [Watched.after, hstart]
      refine ⟨sound_started started, started.sameLayout.trans h.layout, ?_⟩
      cases started with
      -- a sweep that ended has cleared its survey data
      | dirty some => exact absurd (h.sound.surveyed_eq_zero inactive) some
      | incapable => exact Course.unmet
      | begun => rfl
  | event e =>
    have handled := handle_handled x.phase x.iface e
    exact ⟨sound_handled h.sound handled, handled.sameLayout.trans h.layout,
      kept_handled h.kept h.sound handled⟩
  | capability able => exact h.capability able

theorem onCourse_afterAll {i : Interface} {x : Watched} (h : OnCourse i x) (calls : List Call) :
    OnCourse i (x.afterAll calls) := by
  induction calls generalizing x with
  | nil => exact h
  | cons c rest ih => exact ih (onCourse_after h c)

omit [BinaryLog] in
/-- A sweep that never ran, on a clean interface, is on course. -/
theorem onCourse_fresh {i : Interface} (clean : i.isClean = true) : OnCourse i (Watched.fresh i) := by
  have hposition : i.position = 0 := by rw [← Interface.isClean_iff.mp clean]; rfl
  exact ⟨⟨hposition ▸ Nat.zero_le _, clean⟩, .refl i, rfl⟩

/-- A sweep is idle until it is started, and never again. -/
theorem phase_idle_after (x : Watched) (c : Call) :
    (x.after c).phase = .idle ↔ x.phase = .idle ∧ c ≠ .start := by
  cases c with
  | start =>
    refine iff_of_false (fun hidle => ?_) (fun h => h.2 rfl)
    cases hstart : Sweep.start x.phase x.iface with
    | error f =>
      simp only [Watched.after, hstart] at hidle
      obtain ⟨step, hok⟩ := start_accepted (p := x.phase) x.iface (by rw [hidle]; rfl)
      rw [hok] at hstart
      cases hstart
    | ok step =>
      simp only [Watched.after, hstart] at hidle
      obtain ⟨_, started⟩ := start_started hstart
      cases started <;> cases hidle
  | event e =>
    have hphase := (handle_handled x.phase x.iface e).phase_idle
    exact hphase.trans ⟨fun h => ⟨h, fun hc => by cases hc⟩, fun h => h.1⟩
  | capability able => exact ⟨fun h => ⟨h, fun hc => by cases hc⟩, fun h => h.1⟩

theorem phase_idle_afterAll (x : Watched) (calls : List Call) :
    (x.afterAll calls).phase = .idle ↔ x.phase = .idle ∧ .start ∉ calls := by
  induction calls generalizing x with
  | nil => simp only [Watched.afterAll, List.foldl_nil, List.not_mem_nil, not_false_eq_true, and_true]
  | cons c rest ih =>
    show ((x.after c).afterAll rest).phase = .idle ↔ _
    rw [ih, phase_idle_after, List.mem_cons, not_or, and_assoc]
    exact and_congr_right fun _ => and_congr_left fun _ => ne_comm

omit [BinaryLog] in
/-- A request in its place is the next letter of the walk. -/
theorem Splits.next {i : Interface} {walked rest : List Action} {a : Action}
    (h : Splits i (.requestKickoff :: walked ++ [a]) rest) : walked ++ [a] <+: walkOf i := by
  obtain ⟨longer, heq, hwalk⟩ := h
  obtain rfl : walked ++ [a] = longer := List.tail_eq_of_cons_eq heq
  exact ⟨rest, hwalk⟩

/-- A round that is closed asks for the next request of the walk, or for a report when there is none. -/
theorem closed_answered {i : Interface} {position : Nat} {walked : List Action} {step : Step}
    (h : Splits i (.requestKickoff :: walked) (owed i position)) (last : i.stopsFrom position = [])
    (rounds : i.roundsDone < i.settings.target) (closing : Closed i step) :
    ∃ a, step.action = some a ∧ (walked ++ [a] <+: walkOf i ∨ walked = walkOf i ∧ IsReport a) := by
  have hkept := kept_closed h last rounds closing
  obtain ⟨_, heq, hwalk⟩ := h
  obtain rfl := List.tail_eq_of_cons_eq heq
  have hdone : ¬ i.roundsDone + 1 < i.settings.target → walked = walkOf i := fun paid => by
    rw [owed_none last (room_of_owed rounds) paid, List.append_nil] at hwalk
    exact hwalk
  cases closing with
  | again more first => exact ⟨_, rfl, Or.inl (Splits.next hkept)⟩
  | noChannel more none =>
    have hnil := walkOf_eq_nil none
    rw [hnil] at hwalk ⊢
    exact ⟨_, rfl, Or.inr ⟨(List.append_eq_nil_iff.mp hwalk).1, Or.inr ⟨_, rfl⟩⟩⟩
  | noData paid | noIdeal paid => exact ⟨_, rfl, Or.inr ⟨hdone paid, Or.inr ⟨_, rfl⟩⟩⟩
  | selected paid => exact ⟨_, rfl, Or.inr ⟨hdone paid, Or.inl ⟨_, rfl⟩⟩⟩

/-- A survey that is waited for is answered at once, by the next request of the walk, or by a report when
there is none. -/
theorem survey_answered {i : Interface} {index : Nat} {freq : UInt32} {t : List Action}
    (samples : List Sample) (stop : OnStop i index freq) (h : Splits i t (owed i (index + 1))) :
    ∃ walked a, t = .requestKickoff :: walked ∧
      (handle (.surveying index freq) i (.survey freq samples)).action = some a ∧
      (walked ++ [a] <+: walkOf i ∨ walked = walkOf i ∧ IsReport a) := by
  obtain ⟨walked, rfl, hwalk⟩ := h
  have hstored := (Interface.sameLayout_recordAll i index samples).symm
  have hsplits : Splits i (.requestKickoff :: walked) (owed i (index + 1)) := ⟨walked, rfl, hwalk⟩
  rw [owed_congr hstored (Interface.roundsDone_recordAll i index samples).symm] at hsplits
  obtain ⟨step, hproceeds, hstep⟩ := survey_proceeds i index freq samples
  rw [handle_survey, hstep]
  cases hproceeds with
  | @next s rest after =>
    have hasked := (hsplits.congr hstored).toward ((Interface.stopsFrom_congr hstored _).symm.trans after)
    refine ⟨walked, _, rfl, rfl, Or.inl ?_⟩
    rw [walkOf_congr hstored]
    exact hasked.next
  | closed range last =>
    have hlayout := (sameLayout_roundStored i index samples).symm
    have howed : (roundStored i index samples).roundsDone < (roundStored i index samples).settings.target := by
      rw [← hlayout.settings, roundStored, Interface.roundsDone_recordAll]
      exact stop.owed
    obtain ⟨a, hclosing, hanswer⟩ := closed_answered (hsplits.congr hlayout)
      ((Interface.stopsFrom_congr hlayout _).symm.trans last) howed (closeRound_closed _)
    rw [← walkOf_congr hlayout] at hanswer
    exact ⟨walked, a, rfl, hclosing, hanswer⟩
  | outOfRange range =>
    have hrange : index < i.channels.length := stop.position ▸ stop.range
    exact absurd range (Nat.not_lt.mpr hrange)

/-- **What a sweep asks for is a course.** On a clean interface, after any calls, the actions since the
last accepted start are a course; there are none before the first start. The survey a sweep waits for is
answered at once: by the next request of the walk, or, at its end and only there, by a report. -/
theorem course_of_calls (i : Interface) (clean : i.isClean = true) (calls : List Call) :
    let x := (Watched.fresh i).afterAll calls
    (.start ∈ calls → Course i x.trace) ∧
    (.start ∉ calls → x.trace = []) ∧
    ∀ index freq samples, x.phase = .surveying index freq →
      ∃ walked a, x.trace = .requestKickoff :: walked ∧
        (handle x.phase x.iface (.survey freq samples)).action = some a ∧
        (walked ++ [a] <+: walkOf i ∨ walked = walkOf i ∧ IsReport a) := by
  intro x
  have hfresh : OnCourse i (Watched.fresh i) := by
    have hposition : i.position = 0 := by rw [← Interface.isClean_iff.mp clean]; rfl
    exact ⟨⟨hposition ▸ Nat.zero_le _, clean⟩, .refl i, rfl⟩
  have hcourse : OnCourse i x := onCourse_afterAll hfresh calls
  have hidle : x.phase = .idle ↔ .start ∉ calls :=
    (phase_idle_afterAll _ calls).trans (and_iff_right rfl)
  obtain ⟨sound, layout, kept⟩ := hcourse
  refine ⟨fun started => ?_, fun never => ?_, fun index freq samples hphase => ?_⟩
  · exact (kept.course sound fun h => hidle.mp h started).congr layout
  · rw [hidle.mpr never] at kept
    exact kept
  · rw [hphase] at sound kept ⊢
    rw [← walkOf_congr layout]
    exact survey_answered samples sound.fits kept

end

/-- A sweep over one round of two channels, with notifications out of place and a start too many. -/
theorem course_of_calls_selected :
    let i : Interface :=
      { channels := [{ number := 1, freq := 2412 }, { number := 6, freq := 2437 }]
        offChannelCapable := true, settings := { rounds := 1, dwell := 5 } }
    let idle : Sample := { total := 5000, busy := 0, own := 0, noise := -95 }
    let calls : List Call :=
      [.start, .event .kickoffComplete, .event (.cancelled 2437 5 0), .event (.cancelled 2412 5 0),
        .start, .event (.survey 2412 [idle]), .event .kickoffComplete, .event (.cancelled 2437 5 0),
        .event (.survey 2437 [idle])]
    let x := (Watched.fresh i).afterAll calls
    i.isClean = true ∧
      x.trace =
        [.requestKickoff, .requestOffChannel 2412 5, .requestTraffic 2412, .requestOffChannel 2437 5,
          .requestTraffic 2437, .reportSelected { number := 1, freq := 2412, score := -64.0 }] ∧
      Course i x.trace := by
  intro i idle calls x
  have hclean : i.isClean = true := by decide
  exact ⟨hclean, by decide, (course_of_calls i hclean calls).1 (by decide)⟩

end ChannelSurvey.Sweep

import ChannelSurvey.MachineLog
import ChannelSurvey.Proofs.Sweep.Course

/-!
# The operating channel

A sweep writes the operating channel once, in the step that hands a selection over for its verdict. A `Tenure`
remembers which operating channel the sweep found when it was started.

**The law** (`operating_of_calls`): after any calls the operating channel is that of the selection reported
last, and without one it is the channel the sweep found. A sweep that is done has the channel it selected, and
one that fails before it hands a selection over leaves the channel it found.

A sweep that fails while its selection awaits the verdict does not: no step takes the channel back
(`not_operating_restored`).

The law rests on `Step.Writes`, which says of every step that it writes the channel it reports and no other.
What was reported by then is read off the phase (`Reported`).
-/

namespace ChannelSurvey

/-- The selection that an action reports. -/
def Action.selection? : Action → Option Selection
  | reportSelected s => some s
  | requestKickoff | requestOffChannel .. | requestTraffic _ | reportFailed _ => none

/-- A failure that strikes before a selection is handed over, if at all. -/
def Failure.isEarly : Failure → Bool
  | unmet _ | noUsableData | noIdealChannel | alreadyRunning => true
  | refused _ | cancelled .. | rejected .. => false

/-- **A step writes the operating channel it reports**, and leaves it alone when it reports none. -/
def Step.Writes (i : Interface) (step : Step) : Prop :=
  step.iface.operating = ((step.action.bind Action.selection?).map (·.number)).or i.operating

/-- Storing samples does not assign a channel. -/
@[simp] theorem Interface.operating_recordAll (i : Interface) (index : Nat) (samples : List Sample) :
    (i.recordAll index samples).operating = i.operating := by
  show (i.recordAll index samples).clear.operating = i.clear.operating
  rw [clear_recordAll]

namespace Sweep

/-- The selection reported last among these actions. -/
def reported? (t : List Action) : Option Selection :=
  (t.filterMap Action.selection?).getLast?

/-- A single action reports what it selects. -/
theorem reported?_toList (a : Option Action) : reported? a.toList = a.bind Action.selection? := by
  cases a with
  | none => rfl
  | some a => cases a <;> rfl

/-- The latest report counts. -/
theorem reported?_append (t : List Action) (a : Option Action) :
    reported? (t ++ a.toList) = (a.bind Action.selection?).or (reported? t) := by
  rw [← reported?_toList, reported?, List.filterMap_append, List.getLast?_append, reported?, reported?]

/-! ## Steps -/

variable {p : Phase} {i : Interface} {step : Step}

/-- A start writes no operating channel. -/
theorem Started.writes (started : Started i step) : step.Writes i := by
  cases started <;> rfl

/-- What a sweep that stands in a phase has reported since its start. -/
def Reported : Phase → Option Selection → Prop
  | .kickoff, r | .scanning .., r | .surveying .., r | .roundComplete, r => r = none
  | .awaitingVerdict s, r | .done s, r => r = some s
  | .failed f, r =>
    (f.isEarly = true → r = none) ∧ ∀ number why, f = .rejected number why → ∃ s, r = some s ∧ s.number = number
  | .idle, _ => True

/-- Nor does it report a selection. -/
theorem Started.reported (started : Started i step) : Reported step.phase (step.action.bind Action.selection?) := by
  cases started with
  | dirty | incapable => exact ⟨fun _ => rfl, fun _ _ h => by cases h⟩
  | begun => exact rfl

section

variable [BinaryLog] {e : Event}

/-- The end of a round writes the channel it selects, if it selects one. -/
theorem Closed.writes (closing : Closed i step) : step.Writes i := by
  cases closing <;> rfl

/-- And that is the one it reports. -/
theorem Closed.reported (closing : Closed i step) :
    Reported step.phase (step.action.bind Action.selection?) := by
  cases closing with
  | again | selected => exact rfl
  | noChannel | noData | noIdeal => exact ⟨fun _ => rfl, fun _ _ h => by cases h⟩

/-- **An event writes the channel it makes the sweep report.** -/
theorem Handled.writes (handled : Handled p i e step) : step.Writes i := by
  cases handled with
  | @next _ index _ samples => exact i.operating_recordAll index samples
  | @closed _ index _ samples step _ _ _ closing =>
    have hwrites : step.Writes (roundStored i index samples) := closing.writes
    have hstored : (roundStored i index samples).operating = i.operating := i.operating_recordAll index samples
    rw [Step.Writes, hstored] at hwrites
    exact hwrites
  | _ => rfl

/-- What has been reported last follows the phase through every event. -/
theorem Handled.reported {r : Option Selection} (handled : Handled p i e step) (h : Reported p r) :
    Reported step.phase ((step.action.bind Action.selection?).or r) := by
  cases handled with
  | ignored | dwelt => exact h
  -- these can strike in any phase: what was reported may be anything
  | refused | notReady | cutShort => exact ⟨fun early => (by cases early), fun _ _ h => by cases h⟩
  | opened | next => exact h
  | noChannel | outOfRange => exact ⟨fun _ => h, fun _ _ h => by cases h⟩
  | closed _ _ closing =>
    obtain rfl : r = none := h
    rw [Option.or_none]
    exact closing.reported
  | accepted => exact h
  | @rejected _ s _ why =>
    refine ⟨fun early => (by cases early), ?_⟩
    intro number why' hfailure
    cases hfailure
    exact ⟨s, h, rfl⟩

end

/-! ## Whole runs -/

/-- A sweep under watch, with the operating channel that the last accepted start found. -/
structure Tenure extends Watched where
  found : Option UInt8

section

variable [BinaryLog]

namespace Tenure

/-- Before anything was started. -/
def standing (p : Phase) (i : Interface) : Tenure :=
  { phase := p, iface := i, found := i.operating }

def foundAfter (x : Tenure) : Call → Option UInt8
  | .start => if x.phase.isActive then x.found else x.iface.operating
  | .event _ | .capability _ => x.found

def after (x : Tenure) (c : Call) : Tenure :=
  { toWatched := x.toWatched.after c, found := x.foundAfter c }

def afterAll (x : Tenure) (calls : List Call) : Tenure :=
  calls.foldl after x

end Tenure

/-- **The invariant**: the operating channel is that of the selection reported last, or the one found. -/
def Tenure.Accounted (x : Tenure) : Prop :=
  x.iface.operating = ((reported? x.trace).map (·.number)).or x.found

/-- Every call keeps the operating channel accounted for. -/
theorem accounted_after {x : Tenure} (h : x.Accounted) (c : Call) : (x.after c).Accounted := by
  obtain ⟨⟨⟨p, i⟩, t⟩, found⟩ := x
  cases c with
  | start =>
    cases hstart : Sweep.start p i with
    | error f =>
      simp only [Tenure.after, Tenure.foundAfter, Watched.after, hstart, start_refused hstart, if_true]
      exact h
    | ok step =>
      obtain ⟨inactive, started⟩ := start_started hstart
      simp only [Tenure.Accounted, Tenure.after, Tenure.foundAfter, Watched.after, hstart, inactive,
        Bool.false_eq_true, if_false, reported?_toList]
      exact started.writes
  | event e =>
    have hwrites : (handle p i e).Writes i := (handle_handled p i e).writes
    have hbefore : i.operating = ((reported? t).map (·.number)).or found := h
    rw [Step.Writes, hbefore, ← Option.or_assoc, ← Option.map_or, ← reported?_append] at hwrites
    exact hwrites
  | capability able => exact h

/-- All calls keep it accounted for, by induction. -/
theorem accounted_afterAll {x : Tenure} (h : x.Accounted) (calls : List Call) : (x.afterAll calls).Accounted := by
  induction calls generalizing x with
  | nil => exact h
  | cons c rest ih => exact ih (accounted_after h c)

/-- What was reported fits the phase, once a sweep was started. -/
theorem reported_after {x : Tenure} (h : Reported x.phase (reported? x.trace)) (c : Call) :
    Reported (x.after c).phase (reported? (x.after c).trace) := by
  cases c with
  | start =>
    cases hstart : Sweep.start x.phase x.iface with
    | error f =>
      simp only [Tenure.after, Watched.after, hstart]
      exact h
    | ok step =>
      simp only [Tenure.after, Watched.after, hstart, reported?_toList]
      exact (start_started hstart).2.reported
  | event e =>
    have hreported := (handle_handled x.phase x.iface e).reported h
    rw [← reported?_append] at hreported
    exact hreported
  | capability able => exact h

/-- The same for the latest report. -/
theorem reported_afterAll {x : Tenure} (h : Reported x.phase (reported? x.trace)) (calls : List Call) :
    Reported (x.afterAll calls).phase (reported? (x.afterAll calls).trace) := by
  induction calls generalizing x with
  | nil => exact h
  | cons c rest ih => exact ih (reported_after h c)

/-- Until a sweep is started, nothing comes of a call. -/
theorem quiet_afterAll {x : Tenure} (inactive : x.phase.isActive = false) {calls : List Call}
    (never : .start ∉ calls) :
    (x.afterAll calls).phase = x.phase ∧ (x.afterAll calls).iface.operating = x.iface.operating := by
  induction calls generalizing x with
  | nil => exact ⟨rfl, rfl⟩
  | cons c rest ih =>
    rw [List.mem_cons, not_or] at never
    have hstays : (x.after c).phase = x.phase ∧ (x.after c).iface.operating = x.iface.operating := by
      cases c with
      | start => exact absurd rfl never.1
      | event e =>
        simp only [Tenure.after, Watched.after, handle_inactive inactive]
        exact ⟨rfl, rfl⟩
      | capability able => exact ⟨rfl, rfl⟩
    obtain ⟨hphase, hoperating⟩ := ih (x := x.after c) (by rw [hstays.1]; exact inactive) never.2
    exact ⟨hphase.trans hstays.1, hoperating.trans hstays.2⟩

/-- Once a sweep was started, what was reported fits the phase. -/
theorem reported_of_start {x : Tenure} (inactive : x.phase.isActive = false) {calls : List Call}
    (started : .start ∈ calls) :
    Reported (x.afterAll calls).phase (reported? (x.afterAll calls).trace) := by
  -- the first start is accepted, because nothing came of the calls before it
  obtain ⟨waiting, rest, rfl, never⟩ := List.eq_append_cons_of_mem started
  have hwaiting := (quiet_afterAll inactive never).1
  obtain ⟨step, hok⟩ := start_accepted (x.afterAll waiting).iface (hwaiting ▸ inactive)
  have hfirst : Reported ((x.afterAll waiting).after .start).phase
      (reported? ((x.afterAll waiting).after .start).trace) := by
    simp only [Tenure.after, Watched.after, hok, reported?_toList]
    exact (start_started hok).2.reported
  rw [Tenure.afterAll, List.foldl_append]
  exact reported_afterAll hfirst rest

/-- **The operating channel is that of the selection reported last.** From any phase without an active sweep,
on any interface, after any calls: without a report since the last accepted start it is the channel that
start found, and before the first start it is untouched. While a sweep walks, and after a failure that leaves
no selection handed over, it is the channel the sweep found. While a selection awaits its verdict, when it was
accepted, and when it was rejected, it is the selected channel. -/
theorem operating_of_calls (p : Phase) (inactive : p.isActive = false) (i : Interface) (calls : List Call) :
    let x := (Tenure.standing p i).afterAll calls
    x.iface.operating = ((reported? x.trace).map (·.number)).or x.found ∧
    (.start ∉ calls → x.phase = p ∧ x.iface.operating = i.operating) ∧
    (.start ∈ calls →
      (∀ s, x.phase = .done s → reported? x.trace = some s ∧ x.iface.operating = some s.number) ∧
      (∀ s, x.phase = .awaitingVerdict s → reported? x.trace = some s ∧ x.iface.operating = some s.number) ∧
      (∀ f, x.phase = .failed f → reported? x.trace = none → x.iface.operating = x.found) ∧
      (∀ f, x.phase = .failed f → f.isEarly = true → x.iface.operating = x.found) ∧
      (∀ number why, x.phase = .failed (.rejected number why) → x.iface.operating = some number) ∧
      (x.phase = .kickoff ∨ (∃ index freq, x.phase = .scanning index freq ∨ x.phase = .surveying index freq) →
        x.iface.operating = x.found)) := by
  intro x
  have haccounted : x.iface.operating = ((reported? x.trace).map (·.number)).or x.found :=
    accounted_afterAll (x := Tenure.standing p i) rfl calls
  have hsome {s : Selection} (h : reported? x.trace = some s) : x.iface.operating = some s.number := by
    rw [haccounted, h]
    rfl
  have hnone (h : reported? x.trace = none) : x.iface.operating = x.found := by
    rw [haccounted, h]
    rfl
  refine ⟨haccounted, fun never => quiet_afterAll (x := Tenure.standing p i) inactive never, fun started => ?_⟩
  have hreported : Reported x.phase (reported? x.trace) :=
    reported_of_start (x := Tenure.standing p i) inactive started
  refine ⟨?_, ?_, fun _ _ => hnone, ?_, ?_, ?_⟩
  · intro s hphase
    rw [hphase] at hreported
    exact ⟨hreported, hsome hreported⟩
  · intro s hphase
    rw [hphase] at hreported
    exact ⟨hreported, hsome hreported⟩
  · intro f hphase early
    rw [hphase] at hreported
    exact hnone (hreported.1 early)
  · intro number why hphase
    rw [hphase] at hreported
    obtain ⟨s, hs, rfl⟩ := hreported.2 number why rfl
    exact hsome hs
  · rintro (hphase | ⟨index, freq, hphase | hphase⟩) <;>
    · rw [hphase] at hreported
      exact hnone hreported

end

/-- The second of two sweeps is cancelled on its way: the channel that the first one settled on stays. -/
theorem operating_of_calls_cancelled :
    let i : Interface :=
      { channels := [{ number := 1, freq := 2412 }]
        offChannelCapable := true, settings := { rounds := 1, dwell := 5 }, operating := some 11 }
    let idle : Sample := { total := 5000, busy := 0, own := 0, noise := -95 }
    let calls : List Call :=
      [.start, .event .kickoffComplete, .event (.cancelled 2412 5 0), .event (.survey 2412 [idle]),
        .event (.verdict .valid), .start, .event .kickoffComplete, .event (.cancelled 2412 5 (-125))]
    let x := (Tenure.standing .idle i).afterAll calls
    Phase.idle.isActive = false ∧ .start ∈ calls ∧ x.phase = .failed (.cancelled 2412 (-125)) ∧
      reported? x.trace = none ∧ x.found = some 1 ∧ x.iface.operating = x.found := by
  intro i idle calls x
  have hstarted : .start ∈ calls := by decide
  have hphase : x.phase = .failed (.cancelled 2412 (-125)) := by decide
  have hreported : reported? x.trace = none := by decide
  obtain ⟨_, _, hsince⟩ := operating_of_calls .idle rfl i calls
  obtain ⟨_, _, hfailed, _⟩ := hsince hstarted
  exact ⟨rfl, hstarted, hphase, hreported, by decide, hfailed _ hphase hreported⟩

/-- **A failed sweep may leave another operating channel than it found**: the selection of this one is
rejected, and stays. -/
theorem not_operating_restored :
    ¬ ∀ (p : Phase) (i : Interface) (calls : List Call) (f : Failure), p.isActive = false →
      ((Tenure.standing p i).afterAll calls).phase = .failed f →
      ((Tenure.standing p i).afterAll calls).iface.operating = ((Tenure.standing p i).afterAll calls).found := by
  intro restored
  let i : Interface :=
    { channels := [{ number := 1, freq := 2412 }]
      offChannelCapable := true, settings := { rounds := 1, dwell := 5 } }
  let idle : Sample := { total := 5000, busy := 0, own := 0, noise := -95 }
  let calls : List Call :=
    [.start, .event .kickoffComplete, .event (.cancelled 2412 5 0), .event (.survey 2412 [idle]),
      .event (.verdict .invalid)]
  let x := (Tenure.standing .idle i).afterAll calls
  have hchanged : x.iface.operating ≠ x.found := by decide
  exact hchanged (restored .idle i calls (.rejected 1 .invalid) rfl (by decide))

end Sweep

end ChannelSurvey

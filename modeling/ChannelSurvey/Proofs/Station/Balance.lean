import ChannelSurvey.Proofs.Station.Carrying
import ChannelSurvey.Proofs.Sweep.Handled

/-!
# One error message per failure

A sweep writes an error to the log where it fails, and the same step asks for the report of the failure. A
radio may write errors of its own, so a station is looked at with its radio `Silenced`: the same radio,
without its messages.

**The laws**: every step writes as many errors as reports of a failure it asks for (`balanced_start`,
`balanced_handle`). So with a radio that writes no error, every call of a station writes as many errors as it
makes notifications (`errors_startSweep`, `errors_dispatch`). Silencing the radio changes nothing but
messages (`yields_startSweep_silenced`, `yields_dispatch_silenced`).
-/

namespace ChannelSurvey

/-! ## Steps -/

/-- How many failures an action reports: one or none. -/
def Action.failures : Action → Nat
  | .reportFailed _ => 1
  | _ => 0

/-- How many failures a step asks to report. -/
def Step.failures (s : Step) : Nat :=
  (s.action.map Action.failures).getD 0

/-- **A step in balance** writes one error for each failure it asks to report. -/
def Step.Balanced (s : Step) : Prop :=
  s.log.count .error = s.failures

/-- Messages without an error leave a step balanced. -/
theorem Step.Balanced.after {s : Step} (h : s.Balanced) {log : List Severity} (quiet : .error ∉ log) :
    (s.after log).Balanced := by
  show (log ++ s.log).count .error = s.failures
  rw [List.count_append, List.count_eq_zero.mpr quiet, Nat.zero_add]
  exact h

namespace Sweep

/-- A failure logs its one error and asks to report it. -/
theorem balanced_fail (i : Interface) (f : Failure) : (fail i f).Balanced := rfl

/-- A move to a channel logs no error and reports nothing. -/
theorem balanced_toward (i : Interface) (s : Stop) : (toward i s).Balanced := rfl

/-- Neither does what is ignored. -/
theorem balanced_ignore (p : Phase) (i : Interface) {log : List Severity} (quiet : .error ∉ log) :
    (ignore p i log).Balanced :=
  List.count_eq_zero.mpr quiet

/-- An accepted start is balanced. -/
theorem balanced_start {p : Phase} {i : Interface} {step : Step} (accepted : start p i = .ok step) :
    step.Balanced := by
  obtain ⟨_, started⟩ := start_started accepted
  cases started with
  | dirty | incapable => exact (balanced_fail i _).after (by decide)
  | begun => rfl

/-- So is the answer to a refusal. -/
theorem balanced_onRefused (p : Phase) (i : Interface) (r : Refusal) : (onRefused p i r).Balanced := by
  unfold onRefused
  split <;> rfl

/-- A dwell that begins is balanced. -/
theorem balanced_onReady (p : Phase) (i : Interface) (freq : UInt32) (status : Int32) :
    (onReady p i freq status).Balanced := by
  unfold onReady
  split
  · exact balanced_onRefused p i _
  · split
    · exact balanced_ignore _ i (by split <;> decide)
    · rfl

/-- A dwell that ends is balanced. -/
theorem balanced_onCancelled (p : Phase) (i : Interface) (freq : UInt32) (status : Int32) :
    (onCancelled p i freq status).Balanced := by
  unfold onCancelled
  split
  · rfl
  · split
    · rfl
    · split
      · split <;> rfl
      · rfl

/-- A verdict is balanced: a rejection logs the error it reports. -/
theorem balanced_onVerdict (p : Phase) (i : Interface) (v : Verdict) : (onVerdict p i v).Balanced := by
  cases p with
  | awaitingVerdict s => cases v <;> rfl
  | _ => rfl

/-- A finished scan is balanced. -/
theorem balanced_onKickoffComplete (p : Phase) (i : Interface) : (onKickoffComplete p i).Balanced := by
  cases p with
  | kickoff =>
    cases hstops : i.stops with
    | nil =>
      rw [onKickoffComplete_fail hstops]
      rfl
    | cons s rest =>
      rw [onKickoffComplete_toward hstops]
      rfl
  | _ => rfl

/-- Storing a sample warns at most. -/
theorem error_notMem_recordLog (i : Interface) (index : Nat) (s : Sample) :
    Severity.error ∉ i.recordLog index s := by
  unfold Interface.recordLog
  split
  · decide
  · split <;> decide

/-- Storing samples writes no error. -/
theorem error_notMem_surveyLog (i : Interface) (index : Nat) (samples : List Sample) :
    Severity.error ∉ surveyLog i index samples := by
  rw [surveyLog, List.mem_append, List.mem_append]
  rintro ((hempty | hremarks) | hlast)
  · split at hempty <;> revert hempty <;> decide
  · obtain ⟨s, _, hs⟩ := List.mem_flatMap.mp hremarks
    exact error_notMem_recordLog i index s hs
  · revert hlast
    decide

section

variable [BinaryLog]

omit [BinaryLog] in
/-- So does the assessment of a channel. -/
theorem error_notMem_assessLog (c : Channel) : Severity.error ∉ c.assessLog := by
  unfold Channel.assessLog
  split
  · exact List.not_mem_nil
  · intro hmem
    obtain ⟨s, _, hs⟩ := List.mem_map.mp hmem
    split at hs <;> cases hs

/-- Nor does a selection. -/
theorem error_notMem_selectLog (i : Interface) : Severity.error ∉ i.select.log := by
  unfold Interface.select
  split
  · exact List.not_mem_nil
  · intro hmem
    obtain ⟨c, _, hc⟩ := List.mem_flatMap.mp hmem
    split at hc
    · rw [List.mem_cons, List.mem_append] at hc
      rcases hc with hfirst | hassess | hlast
      · cases hfirst
      · exact error_notMem_assessLog c hassess
      · revert hlast
        decide
    · cases hc

/-- A conclusion selects without an error or fails with one. -/
theorem balanced_conclude (i : Interface) : (conclude i).Balanced := by
  by_cases hsurveyed : i.surveyed = 0
  · have hconclude : conclude i = fail i .noUsableData := if_pos hsurveyed
    rw [hconclude]
    rfl
  · cases hchosen : i.chosen? with
    | none =>
      rw [conclude_noIdeal hsurveyed hchosen]
      exact (balanced_fail i _).after (error_notMem_selectLog i)
    | some s =>
      rw [conclude_selected hsurveyed hchosen]
      refine List.count_eq_zero.mpr fun hmem => ?_
      rcases List.mem_append.mp hmem with hselect | hown
      · exact error_notMem_selectLog i hselect
      · revert hown
        decide

/-- The end of a round opens the next one or concludes. -/
theorem balanced_closeRound (i : Interface) : (closeRound .roundComplete i).Balanced := by
  show (if i.roundsDone + 1 < i.settings.target then nextRound (roundAdded i)
    else conclude (roundAdded i)).Balanced
  split
  · cases hstops : i.stops with
    | nil =>
      rw [nextRound_fail (i := roundAdded i) hstops]
      rfl
    | cons s rest =>
      rw [nextRound_toward (i := roundAdded i) hstops]
      rfl
  · exact balanced_conclude (roundAdded i)

/-- A survey is stored without an error before the round goes on. -/
theorem balanced_onSurvey (p : Phase) (i : Interface) (freq : UInt32) (samples : List Sample) :
    (onSurvey p i freq samples).Balanced := by
  cases p with
  | surveying index wanted =>
    by_cases hfreq : wanted = freq
    · subst hfreq
      obtain ⟨step, hproceeds, hstep⟩ := survey_proceeds i index wanted samples
      rw [hstep]
      refine Step.Balanced.after ?_ (error_notMem_surveyLog i index samples)
      cases hproceeds with
      | next => exact balanced_toward _ _
      | closed => exact balanced_closeRound _
      | outOfRange => exact balanced_fail i _
    · simp only [onSurvey, hfreq, if_false]
      rfl
  | _ => rfl

/-- **Every event is handled in balance.** -/
theorem balanced_handle (p : Phase) (i : Interface) (e : Event) : (handle p i e).Balanced := by
  unfold handle
  split
  · rfl
  · cases e with
    | kickoffComplete => exact balanced_onKickoffComplete p i
    | ready freq dwell status => exact balanced_onReady p i freq status
    | cancelled freq dwell status => exact balanced_onCancelled p i freq status
    | survey freq samples => exact balanced_onSurvey p i freq samples
    | refused r => exact balanced_onRefused p i r
    | verdict v => exact balanced_onVerdict p i v

end

end Sweep

/-! ## Stations -/

/-- How many errors a journal holds. -/
def Journal.errors (j : Journal) : Nat :=
  j.log.count .error

/-- The notifications of a journal: the interface the host saw, and the failure it was told of. -/
def Journal.notified (j : Journal) : List (Interface × Failure) :=
  j.filterMap fun | .notified i f => some (i, f) | _ => none

@[simp] theorem Journal.errors_append (j k : Journal) :
    Journal.errors (j ++ k) = Journal.errors j + Journal.errors k := by
  rw [errors, Journal.log, List.filterMap_append, List.count_append]
  rfl

@[simp] theorem Journal.notified_append (j k : Journal) :
    Journal.notified (j ++ k) = Journal.notified j ++ Journal.notified k :=
  List.filterMap_append

/-- The errors of a journal of messages are those of the log. -/
@[simp] theorem Journal.errors_logged (log : List Severity) : Journal.errors (logged log) = log.count .error := by
  have hlog : Journal.log (logged log) = log := by
    rw [Journal.log, logged, List.filterMap_map]
    exact List.filterMap_some
  rw [errors, hlog]

/-- Messages are no notifications. -/
@[simp] theorem Journal.notified_logged (log : List Severity) : Journal.notified (logged log) = [] := by
  rw [notified, logged, List.filterMap_map]
  exact List.filterMap_eq_nil_iff.mpr fun s _ => rfl

@[simp] theorem Journal.errors_trace (j : Journal) : Journal.errors (.message .trace :: j) = Journal.errors j := rfl

@[simp] theorem Journal.notified_message (s : Severity) (j : Journal) :
    Journal.notified (.message s :: j) = Journal.notified j := rfl

/-- Messages are no notifications. -/
theorem Journal.notified_calls (j : Journal) : Journal.notified j.calls = j.notified :=
  filterMap_calls (fun _ => rfl) j

/-- The calls of the calls are all of them. -/
theorem Journal.calls_calls (j : Journal) : Journal.calls j.calls = j.calls :=
  List.filter_filter.trans (by simp only [Bool.and_self]; rfl)

/-- A radio without its messages. -/
structure Silenced (ρ : Type) where
  radio : ρ

instance {ρ : Type} [Radio ρ] : Radio (Silenced ρ) where
  offChannelCapable s := Radio.offChannelCapable s.radio
  kickoff s := let a := Radio.kickoff s.radio; { reply := a.reply, radio := ⟨a.radio⟩ }
  goOffChannel s freq dwell :=
    let a := Radio.goOffChannel s.radio freq dwell; { reply := a.reply, radio := ⟨a.radio⟩ }
  readTraffic s freq := let a := Radio.readTraffic s.radio freq; { reply := a.reply, radio := ⟨a.radio⟩ }

namespace Station

variable {ρ η : Type}

/-- The station with its radio silenced. -/
def silenced (w : Station ρ η) : Station (Silenced ρ) η :=
  { phase := w.phase, iface := w.iface, radio := ⟨w.radio⟩, host := w.host }

variable [Radio ρ] [Host η]

/-- Silencing the radio leaves of an action what is no message. -/
theorem perform_silenced (w : Station ρ η) (a : Action) :
    w.silenced.perform a =
      { station := (w.perform a).station.silenced, answer := (w.perform a).answer
        journal := (w.perform a).journal.calls } := by
  cases a with
  | requestKickoff | requestOffChannel | requestTraffic =>
    simp only [perform, Journal.calls_append, Journal.calls_logged, List.nil_append]
    rfl
  | reportSelected s => rfl
  | reportFailed f => rfl

variable [BinaryLog]

/-- A step comes to the same with the radio silenced if the action it asks for does. -/
theorem yields_follow_silenced_of {w : Station ρ η} {s : Step}
    (rest : ∀ a, s.action = some a → ((w.step s).silenced.execute a).Yields
      ((w.step s).execute a).station.silenced ((w.step s).execute a).journal.calls) :
    (w.silenced.follow s).Yields (w.follow s).station.silenced (w.follow s).journal.calls := by
  cases asked : s.action with
  | none =>
    have hloud := yields_step (w := w) asked
    have hsilent := yields_step (w := w.silenced) asked
    rw [hloud.station, hloud.calls]
    exact hsilent
  | some a =>
    have hloud := yields_follow (w := w) asked ⟨rfl, rfl⟩
    have hsilent := yields_follow (w := w.silenced) asked (rest a asked)
    rw [hloud.station, hloud.calls]
    exact hsilent

/-- **An action comes to the same with the radio silenced**, but for messages. -/
theorem yields_execute_silenced (w : Station ρ η) (a : Action) :
    (w.silenced.execute a).Yields (w.execute a).station.silenced (w.execute a).journal.calls := by
  have hdid := perform_silenced w a
  cases answered : (w.perform a).answer with
  | none =>
    rw [execute_unanswered answered, execute_unanswered (w := w.silenced) (by rw [hdid]; exact answered), hdid]
    exact ⟨rfl, by simp only [Journal.calls_message, Journal.calls_calls]⟩
  | some e =>
    have hdispatch : ((w.perform a).station.silenced.dispatch e).Yields
        ((w.perform a).station.dispatch e).station.silenced ((w.perform a).station.dispatch e).journal.calls :=
      yields_follow_silenced_of fun b asked => yields_execute_silenced _ b
    rw [execute_answered answered, execute_answered (w := w.silenced) (by rw [hdid]; exact answered), hdid]
    refine ⟨hdispatch.station, ?_⟩
    simp only [List.cons_append, Journal.calls_message, Journal.calls_append, Journal.calls_calls,
      hdispatch.calls]
termination_by a.rank
decreasing_by exact rank_lt_of_answer answered asked

/-- A silenced station does what the station does, without a message. -/
theorem yields_follow_silenced (w : Station ρ η) (s : Step) :
    (w.silenced.follow s).Yields (w.follow s).station.silenced (w.follow s).journal.calls :=
  yields_follow_silenced_of fun a _ => yields_execute_silenced _ a

/-- **A notification comes to the same with the radio silenced**, but for messages. -/
theorem yields_dispatch_silenced (w : Station ρ η) (e : Event) :
    (w.silenced.dispatch e).Yields (w.dispatch e).station.silenced (w.dispatch e).journal.calls :=
  yields_follow_silenced w (Sweep.handle w.phase w.iface e)

/-- So does a start that is accepted. -/
theorem yields_startSweep_silenced {w : Station ρ η} {run : Run ρ η} (accepted : w.startSweep = .ok run) :
    ∃ silent, w.silenced.startSweep = .ok silent ∧ silent.Yields run.station.silenced run.journal.calls := by
  obtain ⟨step, hstart, rfl⟩ := startSweep_ok accepted
  obtain ⟨inactive, _⟩ := Sweep.start_started hstart
  have hsilent : w.silenced.startSweep = (Sweep.start w.phase w.refreshed).map w.silenced.follow :=
    startSweep_eq inactive
  rw [hstart] at hsilent
  exact ⟨_, hsilent, yields_follow_silenced w step⟩

/-- What the station refuses to start, the silenced one refuses too. -/
theorem startSweep_silenced_refused {w : Station ρ η} {f : Failure} (refused : w.startSweep = .error f) :
    ∃ g, w.silenced.startSweep = .error g := by
  cases active : w.phase.isActive with
  | true => exact ⟨_, if_pos active⟩
  | false =>
    obtain ⟨step, hstart⟩ := Sweep.start_accepted w.refreshed active
    rw [startSweep_eq active, hstart] at refused
    cases refused

/-! ## Errors of a silenced station -/

omit [BinaryLog] in
/-- Carrying out one action writes no error, and makes a notification if it reports a failure. -/
theorem errors_perform (w : Station (Silenced ρ) η) (a : Action) :
    (w.perform a).journal.errors = 0 ∧ (w.perform a).journal.notified.length = a.failures := by
  cases a <;> exact ⟨rfl, rfl⟩

/-- A step in balance keeps the balance if the action it asks for does. -/
theorem errors_follow_of {w : Station (Silenced ρ) η} {s : Step} (balanced : s.Balanced)
    (rest : ∀ a, s.action = some a → ((w.step s).execute a).journal.errors + a.failures =
      ((w.step s).execute a).journal.notified.length) :
    (w.follow s).journal.errors = (w.follow s).journal.notified.length := by
  rw [Step.Balanced, Step.failures] at balanced
  unfold follow
  cases asked : s.action with
  | none =>
    rw [asked] at balanced
    simp only [Journal.errors_logged, Journal.notified_logged, balanced]
    rfl
  | some a =>
    have hrest := rest a asked
    rw [asked] at balanced
    simp only [Journal.errors_append, Journal.errors_logged, Journal.notified_append, Journal.notified_logged,
      List.nil_append, balanced, ← hrest]
    exact Nat.add_comm _ _

/-- **What follows from an action** writes as many errors as it makes notifications, but for the error that
came with the action itself. -/
theorem errors_execute (w : Station (Silenced ρ) η) (a : Action) :
    (w.execute a).journal.errors + a.failures = (w.execute a).journal.notified.length := by
  obtain ⟨herrors, hnotified⟩ := errors_perform w a
  cases answered : (w.perform a).answer with
  | none =>
    rw [execute_unanswered answered]
    simp only [Journal.errors_trace, Journal.notified_message, herrors, hnotified, Nat.zero_add]
  | some e =>
    have hdispatch : ((w.perform a).station.dispatch e).journal.errors =
        ((w.perform a).station.dispatch e).journal.notified.length :=
      errors_follow_of (Sweep.balanced_handle _ _ e) fun b asked => errors_execute _ b
    rw [execute_answered answered]
    simp only [List.cons_append, Journal.errors_trace, Journal.notified_message, Journal.errors_append,
      Journal.notified_append, List.length_append, herrors, hnotified, hdispatch, Nat.zero_add]
    exact Nat.add_comm _ _
termination_by a.rank
decreasing_by exact rank_lt_of_answer answered asked

/-- **Every notification that is delivered** writes as many errors as it makes notifications to the host. -/
theorem errors_dispatch (w : Station (Silenced ρ) η) (e : Event) :
    (w.dispatch e).journal.errors = (w.dispatch e).journal.notified.length :=
  errors_follow_of (Sweep.balanced_handle _ _ e) fun a _ => errors_execute _ a

/-- So does every start that is accepted. -/
theorem errors_startSweep {w : Station (Silenced ρ) η} {run : Run (Silenced ρ) η}
    (accepted : w.startSweep = .ok run) : run.journal.errors = run.journal.notified.length := by
  obtain ⟨step, hstart, rfl⟩ := startSweep_ok accepted
  exact errors_follow_of (Sweep.balanced_start hstart) fun a _ => errors_execute _ a

end Station

end ChannelSurvey

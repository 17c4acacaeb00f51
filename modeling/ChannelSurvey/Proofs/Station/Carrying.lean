import ChannelSurvey.Proofs.Sweep.Handled
import ChannelSurvey.Sweep.Dispatch

/-!
# What carrying out an action comes to

The calls of a journal are its entries without the messages. `Run.Yields` says of a run where it ends and
which calls it made, and leaves the messages open.

**The laws**: an action that is not answered ends with itself (`yields_unanswered`), one that is answered
goes on as the delivery of its answer (`yields_answered`), and a step that fails the sweep ends at
`Station.abandon` (`yields_fail`). What each request comes to follows from these.
-/

namespace ChannelSurvey

/-- An entry that is not a message. -/
def Entry.isCall : Entry → Bool
  | .message _ => false
  | _ => true

/-- A journal without its messages. -/
def Journal.calls (j : Journal) : Journal :=
  j.filter Entry.isCall

/-- The calls of two journals in a row. -/
@[simp] theorem Journal.calls_append (j k : Journal) :
    Journal.calls (j ++ k) = Journal.calls j ++ Journal.calls k :=
  List.filter_append j k

/-- Messages are no calls. -/
@[simp] theorem Journal.calls_logged (log : List Severity) : Journal.calls (logged log) = [] := by
  refine List.filter_eq_nil_iff.mpr fun entry hentry => ?_
  obtain ⟨s, _, rfl⟩ := List.mem_map.mp hentry
  exact Bool.false_ne_true

@[simp] theorem Journal.calls_message (s : Severity) (j : Journal) :
    Journal.calls (.message s :: j) = Journal.calls j := rfl

theorem Journal.calls_call {entry : Entry} (call : entry.isCall = true) : Journal.calls [entry] = [entry] :=
  List.filter_eq_self.mpr (by simpa using call)

/-- What is read off the calls of a journal does not change with its messages. -/
theorem Journal.filterMap_calls {α : Type} {f : Entry → Option α} (skip : ∀ s, f (.message s) = none)
    (j : Journal) : j.calls.filterMap f = j.filterMap f := by
  induction j with
  | nil => rfl
  | cons entry rest ih =>
    cases entry with
    | message s => exact ih.trans (List.filterMap_cons_none (skip s)).symm
    | _ =>
      rw [List.filterMap_cons, ← ih]
      rfl

/-- Why a verdict rejects a selection, if it does. -/
def Verdict.rejection? : Verdict → Option Rejection
  | .valid => none
  | .invalid => some .invalid
  | .inProgress => some .inProgress

variable {ρ η : Type}

/-- A run ends at this station and made these calls. -/
structure Run.Yields (run : Run ρ η) (w : Station ρ η) (calls : Journal) : Prop where
  station : run.station = w
  calls : run.journal.calls = calls

namespace Station

variable [Radio ρ] [Host η]

/-- The station after its sweep failed. -/
def abandon (w : Station ρ η) (i : Interface) (f : Failure) : Station ρ η :=
  { w with phase := .failed f, iface := i.clear, host := Host.notify w.host i.clear f }

omit [Host η] in
/-- The interface, with what the radio can do now. -/
def refreshed (w : Station ρ η) : Interface :=
  { w.iface with offChannelCapable := Radio.offChannelCapable w.radio }

variable [BinaryLog] {w w' : Station ρ η} {a : Action} {calls : Journal}

/-! ## Steps -/

/-- A step that asks for nothing is all there is to follow. -/
theorem yields_step {s : Step} (quiet : s.action = none) : (w.follow s).Yields (w.step s) [] := by
  unfold follow
  rw [quiet]
  exact ⟨rfl, Journal.calls_logged s.log⟩

/-- A step that asks for an action yields what executing the action yields. -/
theorem yields_follow {s : Step} (asked : s.action = some a) (h : ((w.step s).execute a).Yields w' calls) :
    (w.follow s).Yields w' calls := by
  unfold follow
  rw [asked]
  refine ⟨h.station, ?_⟩
  simp only [Journal.calls_append, Journal.calls_logged, List.nil_append, h.calls]

/-- What is logged first makes no difference. -/
theorem yields_after {s : Step} (log : List Severity) (h : (w.follow s).Yields w' calls) :
    (w.follow (s.after log)).Yields w' calls := by
  obtain ⟨rfl, rfl⟩ := h
  obtain ⟨phase, iface, asked, own⟩ := s
  cases asked with
  | none => exact ⟨rfl, by simp only [follow, Step.after, Journal.calls_logged]⟩
  | some a =>
    refine ⟨rfl, ?_⟩
    simp only [follow, Step.after, Journal.calls_append, Journal.calls_logged]
    rfl

/-! ## Actions -/

/-- An action without an answer ends the run. -/
theorem execute_unanswered (quiet : (w.perform a).answer = none) :
    w.execute a =
      { station := (w.perform a).station, journal := .message .trace :: (w.perform a).journal } := by
  rw [execute]
  split
  · rfl
  · rename_i answered
    rw [quiet] at answered
    cases answered

/-- An answer is dispatched at once, before anything else happens. -/
theorem execute_answered {e : Event} (answered : (w.perform a).answer = some e) :
    w.execute a =
      { station := ((w.perform a).station.dispatch e).station
        journal := .message .trace :: (w.perform a).journal
          ++ ((w.perform a).station.dispatch e).journal } := by
  rw [execute]
  split
  · rename_i quiet
    rw [quiet] at answered
    cases answered
  · rename_i e' answered'
    obtain rfl : e = e' := Option.some.inj (answered.symm.trans answered')
    dsimp only
    split
    · rename_i quiet
      simp only [dispatch, follow, quiet]
    · rename_i next asked
      simp only [dispatch, follow, asked, List.append_assoc]

/-- An action that is not answered ends with its call. -/
theorem yields_unanswered {entry : Entry} (log : List Severity) (call : entry.isCall = true)
    (did : w.perform a = { station := w', answer := none, journal := logged log ++ [entry] }) :
    (w.execute a).Yields w' [entry] := by
  rw [execute_unanswered (by rw [did]), did]
  refine ⟨rfl, ?_⟩
  simp only [Journal.calls_message, Journal.calls_append, Journal.calls_logged, Journal.calls_call call,
    List.nil_append]

/-- An action that is answered goes on as the delivery of its answer. -/
theorem yields_answered {w₁ : Station ρ η} {e : Event} {entry : Entry} (log : List Severity)
    (call : entry.isCall = true)
    (did : w.perform a = { station := w₁, answer := some e, journal := logged log ++ [entry] })
    (h : (w₁.dispatch e).Yields w' calls) : (w.execute a).Yields w' (entry :: calls) := by
  rw [execute_answered (by rw [did]), did]
  refine ⟨h.station, ?_⟩
  simp only [List.cons_append, Journal.calls_message, Journal.calls_append, Journal.calls_logged,
    Journal.calls_call call, h.calls, List.nil_append]

/-- A failure of the sweep is notified once, with the interface cleared. -/
theorem yields_fail (w : Station ρ η) (i : Interface) (f : Failure) :
    (w.follow (Sweep.fail i f)).Yields (w.abandon i f) [.notified i.clear f] := by
  have did : (w.step (Sweep.fail i f)).perform (.reportFailed f) =
      { station := w.abandon i f, answer := none, journal := logged [] ++ [.notified i.clear f] } := rfl
  exact yields_follow rfl (yields_unanswered [] rfl did)

/-- So a refusal ends an active sweep. -/
theorem yields_refused (r : Refusal) (active : w.phase.isActive = true) :
    (w.dispatch (.refused r)).Yields (w.abandon w.iface (.refused r))
      [.notified w.iface.clear (.refused r)] := by
  rw [dispatch, Sweep.handle_refused active]
  exact yields_fail w w.iface (.refused r)

/-! ## Starts -/

/-- An inactive station starts its sweep on an interface with the capability of its radio. -/
theorem startSweep_eq (inactive : w.phase.isActive = false) :
    w.startSweep = (Sweep.start w.phase w.refreshed).map w.follow := by
  simp only [startSweep, inactive, Bool.false_eq_true, if_false]
  rfl

/-- A start that is accepted finds no active sweep and carries out one step. -/
theorem startSweep_ok {run : Run ρ η} (accepted : w.startSweep = .ok run) :
    ∃ step, Sweep.start w.phase w.refreshed = .ok step ∧ run = w.follow step := by
  cases inactive : w.phase.isActive with
  | true =>
    simp only [startSweep, inactive, if_true] at accepted
    cases accepted
  | false =>
    rw [startSweep_eq inactive] at accepted
    cases hstart : Sweep.start w.phase w.refreshed with
    | error f =>
      rw [hstart] at accepted
      cases accepted
    | ok step =>
      rw [hstart] at accepted
      exact ⟨step, rfl, (Except.ok.inj accepted).symm⟩

/-! ## Notifications -/

/-- Without an active sweep, a notification calls nobody and changes nothing. -/
theorem yields_inactive (inactive : w.phase.isActive = false) (e : Event) : (w.dispatch e).Yields w [] := by
  rw [dispatch, Sweep.handle_inactive inactive]
  exact yields_step rfl

/-- The arrival on the channel that is waited for matters only if it failed. -/
theorem handle_ready (index : Nat) (freq t : UInt32) (status : Int32) (i : Interface) :
    Sweep.handle (.scanning index freq) i (.ready freq t status) =
      if status ≠ 0 then Sweep.fail i (.refused (.offChannelStatus freq status))
      else Sweep.ignore (.scanning index freq) i [.trace] := by
  show (if status ≠ 0 then _ else Sweep.ignore _ i [if freq = freq then .trace else .warn]) = _
  rw [if_pos rfl]
  rfl

/-- A dwell that begins as asked changes nothing. -/
theorem yields_ready {index : Nat} {freq : UInt32} (scanning : w.phase = .scanning index freq) (t : UInt32) :
    (w.dispatch (.ready freq t 0)).Yields w [] := by
  rw [dispatch, scanning, handle_ready, if_neg (fun h => h rfl), ← scanning]
  exact yields_step rfl

/-- The departure from the channel that is waited for asks for the survey, or fails the sweep. -/
theorem handle_cancelled (index : Nat) (freq t : UInt32) (status : Int32) (i : Interface) :
    Sweep.handle (.scanning index freq) i (.cancelled freq t status) =
      if status ≠ 0 then Sweep.fail i (.cancelled freq status)
      else
        { phase := .surveying index freq, iface := i, action := some (.requestTraffic freq),
          log := [.trace] } := by
  show (if status ≠ 0 then _ else if freq = freq then _ else _) = _
  rw [if_pos rfl]

/-- A dwell that ends with an error ends the sweep. -/
theorem yields_cutShort {index : Nat} {freq : UInt32} {status : Int32}
    (scanning : w.phase = .scanning index freq) (bad : status ≠ 0) (t : UInt32) :
    (w.dispatch (.cancelled freq t status)).Yields (w.abandon w.iface (.cancelled freq status))
      [.notified w.iface.clear (.cancelled freq status)] := by
  rw [dispatch, scanning, handle_cancelled, if_pos bad]
  exact yields_fail w w.iface _

/-- A completed dwell is followed by the request for its survey. -/
theorem dispatch_dwelt {index : Nat} {freq : UInt32} (scanning : w.phase = .scanning index freq) (t : UInt32) :
    w.dispatch (.cancelled freq t 0) =
      w.follow
        { phase := .surveying index freq, iface := w.iface, action := some (.requestTraffic freq),
          log := [.trace] } := by
  rw [dispatch, scanning, handle_cancelled, if_neg (fun h => h rfl)]

/-! ## Verdicts -/

/-- What a verdict does to a sweep that waits for it: only the rejection matters. -/
theorem handle_verdict (s : Selection) (i : Interface) (v : Verdict) :
    Sweep.handle (.awaitingVerdict s) i (.verdict v) =
      match v.rejection? with
      | none => { phase := .done s, iface := i.clear, log := [.debug] }
      | some why => Sweep.fail i (.rejected s.number why) := by
  cases v <;> rfl

/-- An accepted channel ends the sweep without a call. -/
theorem yields_accepted {s : Selection} {v : Verdict} (awaiting : w.phase = .awaitingVerdict s)
    (accepted : v.rejection? = none) :
    (w.dispatch (.verdict v)).Yields { w with phase := .done s, iface := w.iface.clear } [] := by
  rw [dispatch, awaiting, handle_verdict, accepted]
  exact yields_step rfl

/-- A rejected one ends it with a notification. -/
theorem yields_rejected {s : Selection} {v : Verdict} {why : Rejection}
    (awaiting : w.phase = .awaitingVerdict s) (rejected : v.rejection? = some why) :
    (w.dispatch (.verdict v)).Yields (w.abandon w.iface (.rejected s.number why))
      [.notified w.iface.clear (.rejected s.number why)] := by
  rw [dispatch, awaiting, handle_verdict, rejected]
  exact yields_fail w w.iface (.rejected s.number why)

/-- Reporting a selection asks the host, and its verdict is dispatched at once. -/
theorem yields_selected {s : Selection} {v : Verdict} {host : η}
    (judged : Host.judge w.host w.iface = (v, host))
    (h : (dispatch { w with host } (.verdict v)).Yields w' calls) :
    (w.execute (.reportSelected s)).Yields w' (.judged w.iface v :: calls) :=
  yields_answered [] rfl (by simp only [perform, judged]; rfl) h

/-! ## Requests -/

variable {radio : ρ} {freq dwell : UInt32} {r : Refusal} {log : List Severity}

/-- An accepted scan leaves the station waiting, with the call on record. -/
theorem yields_kickoff (reply : Radio.kickoff w.radio = { reply := .ok (), radio, log }) :
    (w.execute .requestKickoff).Yields { w with radio } [.kickoff (.ok ())] :=
  yields_unanswered log rfl (by simp only [perform, reply])

/-- A refused scan leaves the call on record and ends the sweep. -/
theorem yields_kickoff_refused (active : w.phase.isActive = true)
    (reply : Radio.kickoff w.radio = { reply := .error r, radio, log }) :
    (w.execute .requestKickoff).Yields ({ w with radio }.abandon w.iface (.refused r))
      [.kickoff (.error r), .notified w.iface.clear (.refused r)] :=
  yields_answered log rfl (by simp only [perform, reply]) (yields_refused r active)

/-- The same for an accepted dwell. -/
theorem yields_offChannel (reply : Radio.goOffChannel w.radio freq dwell = { reply := .ok (), radio, log }) :
    (w.execute (.requestOffChannel freq dwell)).Yields { w with radio } [.offChannel freq dwell (.ok ())] :=
  yields_unanswered log rfl (by simp only [perform, reply])

/-- The same for a refused dwell. -/
theorem yields_offChannel_refused (active : w.phase.isActive = true)
    (reply : Radio.goOffChannel w.radio freq dwell = { reply := .error r, radio, log }) :
    (w.execute (.requestOffChannel freq dwell)).Yields ({ w with radio }.abandon w.iface (.refused r))
      [.offChannel freq dwell (.error r), .notified w.iface.clear (.refused r)] :=
  yields_answered log rfl (by simp only [perform, reply]) (yields_refused r active)

/-- The samples of a survey are dispatched at once. -/
theorem yields_traffic {samples : List Sample}
    (reply : Radio.readTraffic w.radio freq = { reply := .ok samples, radio, log })
    (h : (dispatch { w with radio } (.survey freq samples)).Yields w' calls) :
    (w.execute (.requestTraffic freq)).Yields w' (.traffic freq (.ok samples) :: calls) :=
  yields_answered log rfl (by simp only [perform, reply]) h

/-- A refused survey leaves the call on record and ends the sweep. -/
theorem yields_traffic_refused (active : w.phase.isActive = true)
    (reply : Radio.readTraffic w.radio freq = { reply := .error r, radio, log }) :
    (w.execute (.requestTraffic freq)).Yields ({ w with radio }.abandon w.iface (.refused r))
      [.traffic freq (.error r), .notified w.iface.clear (.refused r)] :=
  yields_answered log rfl (by simp only [perform, reply]) (yields_refused r active)

end Station

end ChannelSurvey

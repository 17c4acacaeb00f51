import ChannelSurvey.MachineLog
import ChannelSurvey.Proofs.Station.Reporting

/-!
# Where a station comes to rest

A call carries out actions until none is left, and then the station rests until its radio notifies it. It must
rest where a notification is due or nothing is awaited at all: while a survey or a verdict is due, nobody would
call again.

**The laws**: working off the queue of actions ends after three of them, whatever the radio and the host
answer, and comes to what `follow` says (`workOffStep_follow`). From a phase at rest every call ends in a phase
at rest, and of a sweep that was started the outcome is open exactly while its kick-off scan or its walk is
underway (`rests_of_calls`).

Both rest on the answers to an action. An answer leads only to an action of lower rank, so each action leaves
room for one less; and it leads to an action the sweep is poised for, or the sweep is done
(`poised_answered`).
-/

namespace ChannelSurvey

/-- The phases in which nothing is due within a call. -/
def Phase.isResting : Phase → Bool
  | idle | kickoff | scanning .. | done _ | failed _ => true
  | surveying .. | roundComplete | awaitingVerdict _ => false

/-- **At rest in a sweep** that was started at some time. -/
structure Phase.Rests (p : Phase) : Prop where
  resting : p.isResting = true
  started : p ≠ .idle

/-- Of a sweep at rest, the outcome is open while the kick-off scan or the walk is underway. -/
theorem Phase.Rests.outcome {p : Phase} (h : p.Rests) :
    p.outcome?.getD .inProgress = .inProgress ↔ p = .kickoff ∨ ∃ index freq, p = .scanning index freq := by
  obtain ⟨resting, started⟩ := h
  cases p with
  | idle => exact absurd rfl started
  | kickoff => exact iff_of_true rfl (.inl rfl)
  | scanning index freq => exact iff_of_true rfl (.inr ⟨index, freq, rfl⟩)
  | surveying index freq | roundComplete | awaitingVerdict s => cases resting
  | done s | failed f =>
    refine iff_of_false (fun h => by cases h) ?_
    rintro (h | ⟨index, freq, h⟩) <;> cases h

/-- No action has a rank above two. -/
theorem Action.rank_le_two (a : Action) : a.rank ≤ 2 := by
  cases a <;> simp [rank]

variable {ρ η : Type}

/-- The same run with entries that came before. -/
def Run.preceded (run : Run ρ η) (journal : Journal) : Run ρ η :=
  { run with journal := journal ++ run.journal }

namespace Station

variable [Radio ρ] [Host η]

/-- Carrying out an action leaves the sweep alone, and makes one call. -/
theorem perform_calls (w : Station ρ η) (a : Action) :
    (w.perform a).station.phase = w.phase ∧ (w.perform a).station.iface = w.iface ∧
      (w.perform a).journal.calls.length = 1 := by
  cases a with
  | requestKickoff | requestOffChannel | requestTraffic =>
    refine ⟨rfl, rfl, ?_⟩
    simp only [perform, Journal.calls_append, Journal.calls_logged, List.nil_append]
    rfl
  | reportSelected s => exact ⟨rfl, rfl, rfl⟩
  | reportFailed f => exact ⟨rfl, rfl, rfl⟩

variable [BinaryLog]

/-! ## Working off actions -/

/-- Works off a queue of actions: carries out the first one, gives its answer to the sweep, and puts what that
asks for at the end. None if actions are left when the limit is reached. -/
def workOff (limit : Nat) (w : Station ρ η) (queue : List Action) : Option (Run ρ η) :=
  match queue, limit with
  | [], _ => some { station := w, journal := [] }
  | _ :: _, 0 => none
  | a :: rest, limit + 1 =>
    let did := w.perform a
    let journal := .message .trace :: did.journal
    match did.answer with
    | none => (workOff limit did.station rest).map (·.preceded journal)
    | some e =>
      let s := Sweep.handle did.station.phase did.station.iface e
      (workOff limit (did.station.step s) (rest ++ s.action.toList)).map (·.preceded (journal ++ logged s.log))

/-- Takes a step and works off what it asks for. -/
def workOffStep (limit : Nat) (w : Station ρ η) (s : Step) : Option (Run ρ η) :=
  (workOff limit (w.step s) s.action.toList).map (·.preceded (logged s.log))

/-- A step comes to what `follow` says if the action it asks for comes to what `execute` says. -/
theorem workOffStep_of {limit : Nat} {w : Station ρ η} {s : Step}
    (rest : ∀ b, s.action = some b → workOff limit (w.step s) [b] = some ((w.step s).execute b)) :
    workOffStep limit w s = some (w.follow s) := by
  cases asked : s.action with
  | none => simp only [workOffStep, workOff, follow, asked, Option.toList_none, Option.map_some, Run.preceded,
      List.append_nil]
  | some b => simp only [workOffStep, follow, asked, Option.toList_some, rest b asked, Option.map_some, Run.preceded]

/-- **Working off one action** ends within a limit above its rank, and comes to carrying it out. -/
theorem workOff_execute {limit : Nat} (w : Station ρ η) (a : Action) (room : a.rank < limit) :
    workOff limit w [a] = some (w.execute a) := by
  induction limit generalizing w a with
  | zero => exact absurd room (Nat.not_lt_zero _)
  | succ limit ih =>
    cases answered : (w.perform a).answer with
    | none =>
      rw [execute_unanswered answered]
      simp only [workOff, answered, Option.map_some, Run.preceded, List.append_nil]
    | some e =>
      have hdispatch : workOffStep limit (w.perform a).station
          (Sweep.handle (w.perform a).station.phase (w.perform a).station.iface e) =
            some ((w.perform a).station.dispatch e) := by
        refine workOffStep_of fun b asked => ih _ b ?_
        -- the answer leads to an action of lower rank, and the limit is lower by one
        exact Nat.lt_of_lt_of_le (rank_lt_of_answer answered asked) (Nat.le_of_lt_succ room)
      obtain ⟨run, hrun, hpreceded⟩ := Option.map_eq_some_iff.mp hdispatch
      rw [execute_answered answered, ← hpreceded]
      simp only [workOff, answered, List.nil_append, hrun, Option.map_some, Run.preceded, List.append_assoc]

/-- **Every step is worked off within three actions**, and comes to what `follow` says. -/
theorem workOffStep_follow {limit : Nat} (w : Station ρ η) (s : Step) (room : 3 ≤ limit) :
    workOffStep limit w s = some (w.follow s) :=
  workOffStep_of fun b _ => workOff_execute _ b (Nat.lt_of_le_of_lt (Action.rank_le_two b) room)

/-- What follows from an action makes no more calls than its rank allows. -/
theorem length_calls_execute (w : Station ρ η) (a : Action) :
    (w.execute a).journal.calls.length ≤ a.rank + 1 := by
  obtain ⟨_, _, honce⟩ := w.perform_calls a
  cases answered : (w.perform a).answer with
  | none =>
    rw [execute_unanswered answered, Journal.calls_message, honce]
    exact Nat.le_add_left 1 a.rank
  | some e =>
    have hdispatch : ((w.perform a).station.dispatch e).journal.calls.length ≤ a.rank := by
      cases asked : (Sweep.handle (w.perform a).station.phase (w.perform a).station.iface e).action with
      | none =>
        rw [dispatch, (yields_step asked).calls]
        exact Nat.zero_le _
      | some b =>
        rw [dispatch, (yields_follow asked ⟨rfl, rfl⟩).calls]
        exact Nat.le_trans (length_calls_execute _ b) (rank_lt_of_answer answered asked)
    simp only [execute_answered answered, List.cons_append, Journal.calls_message, Journal.calls_append,
      List.length_append, honce]
    omega
termination_by a.rank
decreasing_by exact rank_lt_of_answer answered asked

theorem length_calls_follow (w : Station ρ η) (s : Step) : (w.follow s).journal.calls.length ≤ 3 := by
  cases asked : s.action with
  | none =>
    rw [(yields_step asked).calls]
    exact Nat.zero_le 3
  | some a =>
    rw [(yields_follow asked ⟨rfl, rfl⟩).calls]
    exact Nat.le_trans (length_calls_execute _ a) (Nat.succ_le_succ (Action.rank_le_two a))

/-! ## Coming to rest -/

/-- An action without an answer leaves the sweep at rest. -/
theorem rests_unanswered {w : Station ρ η} {a : Action} (poised : Sweep.Poised w.phase w.iface a)
    (quiet : (w.perform a).answer = none) : w.phase.Rests := by
  obtain ⟨phase, iface, radio, host⟩ := w
  cases poised with
  | kickoff | scanning | failed => exact ⟨rfl, fun h => by cases h⟩
  | surveying =>
    simp only [perform] at quiet
    split at quiet <;> cases quiet
  | presented => cases quiet

/-- A refused request leaves an active sweep poised for the report of its failure. -/
theorem poised_refused {p : Phase} (active : p.isActive = true) (i : Interface) (r : Refusal) :
    let s := Sweep.handle p i (.refused r)
    ∃ b, s.action = some b ∧ Sweep.Poised s.phase s.iface b := by
  intro s
  have hfails : s = Sweep.fail i (.refused r) := Sweep.handle_refused active i r
  rw [hfails]
  exact ⟨_, rfl, Sweep.poised_fail i _⟩

/-- A survey that is waited for leaves the sweep poised for what comes next. -/
theorem poised_survey (index : Nat) (freq : UInt32) (i : Interface) (samples : List Sample) :
    let s := Sweep.handle (.surveying index freq) i (.survey freq samples)
    ∃ b, s.action = some b ∧ Sweep.Poised s.phase s.iface b := by
  intro s
  obtain ⟨step, hproceeds, hsurvey⟩ := Sweep.survey_proceeds i index freq samples
  have hstored : s = step.after (Sweep.surveyLog i index samples) := hsurvey
  rw [hstored]
  cases hproceeds with
  | next => exact ⟨_, rfl, .scanning⟩
  | closed => exact (Sweep.closeRound_closed _).poised
  | outOfRange => exact ⟨_, rfl, Sweep.poised_fail i _⟩

/-- **The answer to an action** leaves the sweep poised for another one, or done. -/
theorem poised_answered {w : Station ρ η} {a : Action} {e : Event} (poised : Sweep.Poised w.phase w.iface a)
    (answered : (w.perform a).answer = some e) :
    let s := Sweep.handle w.phase w.iface e
    (s.action = none ∧ s.phase.Rests) ∨ ∃ b, s.action = some b ∧ Sweep.Poised s.phase s.iface b := by
  obtain ⟨phase, iface, radio, host⟩ := w
  cases poised with
  | kickoff | scanning =>
    simp only [perform] at answered
    split at answered
    · cases answered
    · cases answered
      exact .inr (poised_refused rfl iface _)
  | surveying =>
    simp only [perform] at answered
    split at answered
    · cases answered
      exact .inr (poised_survey _ _ iface _)
    · cases answered
      exact .inr (poised_refused rfl iface _)
  | @presented _ s =>
    cases answered
    rw [handle_verdict]
    cases Verdict.rejection? _ with
    | none => exact .inl ⟨rfl, rfl, fun h => by cases h⟩
    | some why => exact .inr ⟨_, rfl, Sweep.poised_fail iface _⟩
  | failed => cases answered

/-- **Carrying out an action the sweep is poised for** comes to rest. -/
theorem rests_execute (w : Station ρ η) {a : Action} (poised : Sweep.Poised w.phase w.iface a) :
    (w.execute a).station.phase.Rests := by
  obtain ⟨hphase, hiface, _⟩ := w.perform_calls a
  cases answered : (w.perform a).answer with
  | none =>
    rw [execute_unanswered answered]
    show (w.perform a).station.phase.Rests
    rw [hphase]
    exact rests_unanswered poised answered
  | some e =>
    have hanswer := poised_answered poised answered
    rw [← hphase, ← hiface] at hanswer
    rw [execute_answered answered]
    show ((w.perform a).station.dispatch e).station.phase.Rests
    rcases hanswer with ⟨quiet, rests⟩ | ⟨b, asked, next⟩
    · rw [dispatch, (yields_step quiet).station]
      exact rests
    · rw [dispatch, (yields_follow asked ⟨rfl, rfl⟩).station]
      exact rests_execute _ next
termination_by a.rank
decreasing_by exact rank_lt_of_answer answered asked

/-- A step that leaves the sweep poised comes to rest. -/
theorem rests_follow (w : Station ρ η) {s : Step}
    (poised : ∃ a, s.action = some a ∧ Sweep.Poised s.phase s.iface a) : (w.follow s).station.phase.Rests := by
  obtain ⟨a, asked, poised⟩ := poised
  rw [(yields_follow asked ⟨rfl, rfl⟩).station]
  exact rests_execute (w.step s) poised

/-- **A start that is accepted comes to rest.** -/
theorem rests_startSweep {w : Station ρ η} {run : Run ρ η} (accepted : w.startSweep = .ok run) :
    run.station.phase.Rests := by
  obtain ⟨step, hstart, rfl⟩ := startSweep_ok accepted
  exact rests_follow w (Sweep.start_started hstart).2.poised

/-- **A notification at rest** leaves the phase as it is, or comes to rest in a sweep. -/
theorem rests_dispatch {w : Station ρ η} (resting : w.phase.isResting = true) (e : Event) :
    (w.dispatch e).station.phase = w.phase ∨ (w.dispatch e).station.phase.Rests := by
  cases undecided : w.phase.isUndecided with
  | true =>
    rcases (Sweep.handle_handled w.phase w.iface e).poised undecided with ⟨quiet, hphase, _⟩ | poised
    · refine .inl ?_
      rw [dispatch, (yields_step quiet).station]
      exact hphase
    · exact .inr (rests_follow w poised)
  | false =>
    have hinactive : w.phase.isActive = false := by
      cases hphase : w.phase with
      | awaitingVerdict s =>
        rw [hphase] at resting
        cases resting
      | done s | failed f => rfl
      | _ =>
        rw [hphase] at undecided
        cases undecided
    exact .inl (congrArg Station.phase (yields_inactive hinactive e).station)

end Station

/-! ## Sessions -/

namespace Session

section

variable [Radio ρ] [Host η] [BinaryLog]

/-- **An occasion at rest** leaves the phase as it is, or comes to rest in a sweep. -/
theorem rests_after {x : Session ρ η} (resting : x.station.phase.isResting = true) (o : Occasion ρ η) :
    (x.after o).station.phase = x.station.phase ∨ (x.after o).station.phase.Rests := by
  cases o with
  | start =>
    cases hstart : x.station.startSweep with
    | error f =>
      simp only [after, hstart]
      exact .inl trivial
    | ok run =>
      simp only [after, hstart]
      exact .inr (Station.rests_startSweep hstart)
  | notification e => exact Station.rests_dispatch resting e
  | changed radio host => exact .inl rfl

/-- A sweep that was started is at rest after any occasions. -/
theorem rests_afterAll {x : Session ρ η} (h : x.station.phase.Rests) (occasions : List (Occasion ρ η)) :
    (x.afterAll occasions).station.phase.Rests := by
  induction occasions generalizing x with
  | nil => exact h
  | cons o rest ih =>
    apply ih
    rcases rests_after h.resting o with same | rests
    · rw [same]
      exact h
    · exact rests

/-- **Every call ends, and ends at rest.** In any phase, on any interface and whatever the radio and the host
answer, a notification is worked off within three actions, each of which makes one call. From a phase at rest
every occasion leads to a phase at rest. Once a start was accepted, the outcome of the sweep is open exactly
while its kick-off scan or its walk is underway, whatever happens next. -/
theorem rests_of_calls (x : Session ρ η) :
    (∀ e limit, 3 ≤ limit →
      x.station.workOffStep limit (Sweep.handle x.station.phase x.station.iface e) =
        some (x.station.dispatch e)) ∧
    (∀ e, (x.station.dispatch e).journal.calls.length ≤ 3) ∧
    (x.station.phase.isResting = true → ∀ o, (x.after o).station.phase.isResting = true) ∧
    ∀ run, x.station.startSweep = .ok run → ∀ occasions,
      let y := (x.after .start).afterAll occasions
      y.station.phase.isResting = true ∧
        (y.station.outcome = .inProgress ↔
          y.station.phase = .kickoff ∨ ∃ index freq, y.station.phase = .scanning index freq) := by
  refine ⟨?_, ?_, ?_, ?_⟩
  · intro e limit room
    exact Station.workOffStep_follow x.station _ room
  · intro e
    exact Station.length_calls_follow x.station _
  · intro resting o
    rcases rests_after resting o with same | rests
    · rw [same]
      exact resting
    · exact rests.resting
  · intro run accepted occasions y
    have hstarted : (x.after .start).station.phase.Rests := by
      simp only [after, accepted]
      exact Station.rests_startSweep accepted
    have hrests : y.station.phase.Rests := rests_afterAll hstarted occasions
    exact ⟨hrests.resting, hrests.outcome⟩

end

/-- A sweep of two channels. The survey of the last one leads to a selection, which is rejected: three actions in
one call. -/
theorem rests_of_calls_rejected :
    let iface : Interface :=
      { channels := [{ number := 1, freq := 2412 }, { number := 6, freq := 2437 }], offChannelCapable := true
        settings := { rounds := 1, dwell := 5 } }
    let radio : ScriptedRadio := { lastly := .ok [{ total := 5000, busy := 0, own := 0, noise := -95 }] }
    let host : ScriptedHost := { verdicts := [.invalid] }
    let x := fresh iface radio host
    let walk : List (Occasion ScriptedRadio ScriptedHost) :=
      [.notification .kickoffComplete, .notification (.cancelled 2412 5 0)]
    let y := (x.after .start).afterAll walk
    let z := y.station.dispatch (.cancelled 2437 5 0)
    x.station.phase.isResting = true ∧ (x.after .start).station.phase.isResting = true ∧
      y.station.phase = .scanning 1 2437 ∧ y.station.outcome = .inProgress ∧
      y.station.workOffStep 3 (Sweep.handle y.station.phase y.station.iface (.cancelled 2437 5 0)) = some z ∧
      z.journal.calls.length = 3 ∧ z.station.phase = .failed (.rejected 1 .invalid) := by
  intro iface radio host x walk y z
  have hstart : x.station.startSweep =
      .ok (x.station.follow
        { phase := .kickoff, iface := iface.clear, action := some .requestKickoff, log := [.info, .debug] }) := rfl
  have hphase : y.station.phase = .scanning 1 2437 := by decide +kernel
  obtain ⟨_, _, hresting, houtcome⟩ := rests_of_calls x
  obtain ⟨_, hopen⟩ := houtcome _ hstart walk
  obtain ⟨hworked, _⟩ := rests_of_calls y
  exact ⟨rfl, hresting rfl .start, hphase, hopen.mpr (.inr ⟨1, 2437, hphase⟩), hworked _ 3 (Nat.le_refl 3),
    by decide +kernel, by decide +kernel⟩

end Session

end ChannelSurvey

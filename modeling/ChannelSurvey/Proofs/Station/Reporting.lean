import ChannelSurvey.MachineLog
import ChannelSurvey.Proofs.Selection.Ideal
import ChannelSurvey.Proofs.Station.Balance
import ChannelSurvey.Proofs.Sweep.Fresh
import ChannelSurvey.Proofs.Sweep.Soundness
import ChannelSurvey.Radio.Scripted

/-!
# What the host is told

A `Session` is a station under watch: it keeps the journal since the last start that was accepted. On every
`Occasion` the station is started, brought a notification, or finds its radio and its host changed.

**The law** (`reports_of_occasions`): of each sweep the host is told once how it ended. It judges a selection
at most once, and sees it `Presented`: on an interface where samples were stored, the selection is the
operating channel and carries its score. It is notified of a failure exactly when the sweep fails, with the
failure the sweep stands at and a clean interface. The sweep is done exactly when the host accepted. After
the end nothing happens until the next start.

`Poised` is what carries the proof through a call: whatever action is about to be carried out, the phase and
the interface are those the action belongs to. `Told` is what holds between calls.
-/

namespace ChannelSurvey

/-- The verdicts of a journal: the interface the host saw, and what it said. -/
def Journal.judged (j : Journal) : List (Interface × Verdict) :=
  j.filterMap fun | .judged i v => some (i, v) | _ => none

@[simp] theorem Journal.judged_append (j k : Journal) :
    Journal.judged (j ++ k) = Journal.judged j ++ Journal.judged k :=
  List.filterMap_append

/-- The judgements are among the calls. -/
theorem Journal.judged_calls (j : Journal) : Journal.judged j.calls = j.judged :=
  filterMap_calls (fun _ => rfl) j

/-- What a run yields fixes its judgements. -/
theorem Run.Yields.judged {ρ η : Type} {run : Run ρ η} {w : Station ρ η} {calls : Journal}
    (h : run.Yields w calls) : run.journal.judged = calls.judged := by
  rw [← Journal.judged_calls, h.calls]

/-- It fixes the notifications too. -/
theorem Run.Yields.notified {ρ η : Type} {run : Run ρ η} {w : Station ρ η} {calls : Journal}
    (h : run.Yields w calls) : run.journal.notified = calls.notified := by
  rw [← Journal.notified_calls, h.calls]

/-- Nothing has been reported of a sweep in this phase. -/
def Phase.isUndecided : Phase → Bool
  | idle | kickoff | scanning .. | surveying .. | roundComplete => true
  | awaitingVerdict _ | done _ | failed _ => false

section

variable [BinaryLog]

/-- **A selection is presented** on an interface where samples were stored: it is what scoring the interface
leads to, it is the operating channel, and its channel is enabled and carries its score. -/
structure Presented (i : Interface) (s : Selection) : Prop where
  surveyed : 0 < i.surveyed
  chosen : i.chosen? = some s
  operating : i.operating = some s.number
  offers : Sweep.Offers i s

namespace Sweep

/-! ## Actions about to be carried out -/

/-- The phase and the interface are those an action belongs to. -/
inductive Poised : Phase → Interface → Action → Prop
  | kickoff {i : Interface} : Poised .kickoff i .requestKickoff
  | scanning {i : Interface} {index : Nat} {freq dwell : UInt32} :
      Poised (.scanning index freq) i (.requestOffChannel freq dwell)
  | surveying {i : Interface} {index : Nat} {freq : UInt32} :
      Poised (.surveying index freq) i (.requestTraffic freq)
  | presented {i : Interface} {s : Selection} (presented : Presented i s) :
      Poised (.awaitingVerdict s) i (.reportSelected s)
  | failed {i : Interface} {f : Failure} (clean : i.isClean = true) : Poised (.failed f) i (.reportFailed f)

/-- What a conclusion leaves is what the host is shown. -/
theorem presented_of_chosen {i : Interface} {s : Selection} (some : i.surveyed ≠ 0)
    (chosen : i.chosen? = .some s) : Presented { i.select.iface with operating := .some s.number } s := by
  have hsurveyed : i.select.iface.surveyed = i.surveyed := by
    unfold Interface.select
    split <;> rfl
  have hagain : i.select.iface.chosen? = i.chosen? := by
    obtain ⟨hideal, hiface⟩ := i.select_again
    rw [Interface.chosen?, hideal, hiface, Interface.chosen?]
  refine ⟨hsurveyed ▸ Nat.pos_of_ne_zero some, ?_, rfl, offers_of_chosen chosen⟩
  -- neither the operating channel nor scoring again makes a difference to what is chosen
  rw [← chosen?_unassigned]
  show i.select.iface.unassigned.chosen? = _
  rw [chosen?_unassigned, hagain, chosen]

/-- A failure is poised to be reported. -/
theorem poised_fail (i : Interface) (f : Failure) : Poised (fail i f).phase (fail i f).iface (.reportFailed f) :=
  .failed (Interface.isClean_clear i)

/-- A start asks for an action that fits where it leads. -/
theorem Started.poised {i : Interface} {step : Step} (started : Started i step) :
    ∃ a, step.action = some a ∧ Poised step.phase step.iface a := by
  cases started with
  | dirty | incapable => exact ⟨_, rfl, poised_fail i _⟩
  | begun => exact ⟨_, rfl, .kickoff⟩

/-- So does the end of a round. -/
theorem Closed.poised {i : Interface} {step : Step} (closing : Closed i step) :
    ∃ a, step.action = some a ∧ Poised step.phase step.iface a := by
  cases closing with
  | again => exact ⟨_, rfl, .scanning⟩
  | noChannel | noData | noIdeal => exact ⟨_, rfl, poised_fail i _⟩
  | selected _ some chosen => exact ⟨_, rfl, .presented (presented_of_chosen some chosen)⟩

/-- **An event that comes before any report** changes nothing, or asks for an action the sweep is poised
for. -/
theorem Handled.poised {p : Phase} {i : Interface} {e : Event} {step : Step} (handled : Handled p i e step)
    (undecided : p.isUndecided = true) :
    (step.action = none ∧ step.phase = p ∧ step.iface = i) ∨
      ∃ a, step.action = some a ∧ Poised step.phase step.iface a := by
  cases handled with
  | ignored => exact .inl ⟨rfl, rfl, rfl⟩
  | refused | notReady | cutShort | noChannel | outOfRange => exact .inr ⟨_, rfl, poised_fail i _⟩
  | opened | next => exact .inr ⟨_, rfl, .scanning⟩
  | dwelt => exact .inr ⟨_, rfl, .surveying⟩
  | closed _ _ closing => exact .inr closing.poised
  | accepted | rejected => cases undecided

end Sweep

/-! ## What has been told -/

/-- **What the host has been told of a sweep**, by its phase: nothing yet; a selection, which it accepted or
rejected; a failure. -/
inductive Told : Phase → Interface → List (Interface × Verdict) → List (Interface × Failure) → Prop
  | nothing {p : Phase} {i : Interface} (undecided : p.isUndecided = true) : Told p i [] []
  | accepted {i j : Interface} {s : Selection} (presented : Presented j s) (clean : i.isClean = true) :
      Told (.done s) i [(j, .valid)] []
  | failed {i : Interface} {f : Failure} (clean : i.isClean = true) : Told (.failed f) i [] [(i, f)]
  | rejected {i j : Interface} {s : Selection} {v : Verdict} {why : Rejection} (presented : Presented j s)
      (bad : v ≠ .valid) (clean : i.isClean = true) :
      Told (.failed (.rejected s.number why)) i [(j, v)] [(i, .rejected s.number why)]

variable {p : Phase} {i : Interface} {judged : List (Interface × Verdict)}
  {notified : List (Interface × Failure)}

/-- Where nothing has been reported, there is nothing told. -/
theorem Told.empty (told : Told p i judged notified) (undecided : p.isUndecided = true) :
    judged = [] ∧ notified = [] := by
  cases told with
  | nothing => exact ⟨rfl, rfl⟩
  | accepted | failed | rejected => cases undecided

/-- Where something has been reported, the sweep is over. -/
theorem Told.inactive (told : Told p i judged notified) (decided : p.isUndecided = false) :
    p.isActive = false := by
  cases told with
  | nothing undecided => rw [undecided] at decided; cases decided
  | accepted | failed | rejected => rfl

/-- The host is notified of the failure the sweep stands at, and of no other. -/
theorem Told.failures (told : Told p i judged notified) :
    (∀ f, p = .failed f → notified = [(i, f)] ∧ i.isClean = true) ∧
      ((∀ f, p ≠ .failed f) → notified = []) := by
  constructor
  · intro f h
    subst h
    cases told with
    | nothing undecided => cases undecided
    | failed clean | rejected _ _ clean => exact ⟨rfl, clean⟩
  · intro never
    cases told with
    | nothing | accepted => rfl
    | failed | rejected => exact absurd rfl (never _)

/-- The host judges one selection at most, and what it accepts is what the sweep is done with. -/
theorem Told.selections (told : Told p i judged notified) :
    judged.length ≤ 1 ∧
      (∀ j v, (j, v) ∈ judged → ∃ s, Presented j s ∧ (p = .done s ↔ v = .valid)) ∧
      ∀ s, p = .done s → ∃ j, (j, .valid) ∈ judged ∧ Presented j s := by
  refine ⟨?_, ?_, ?_⟩
  · cases told with
    | nothing | failed => exact Nat.zero_le 1
    | accepted | rejected => exact Nat.le_refl 1
  · intro j v h
    cases told with
    | nothing | failed => cases h
    | @accepted _ _ s presented =>
      obtain ⟨rfl, rfl⟩ := Prod.mk.inj (List.mem_singleton.mp h)
      exact ⟨s, presented, iff_of_true rfl rfl⟩
    | @rejected _ _ s _ _ presented bad =>
      obtain ⟨rfl, rfl⟩ := Prod.mk.inj (List.mem_singleton.mp h)
      refine ⟨s, presented, iff_of_false ?_ bad⟩
      intro done
      cases done
  · intro s h
    subst h
    cases told with
    | nothing undecided => cases undecided
    | accepted presented => exact ⟨_, List.mem_cons_self, presented⟩

variable {ρ η : Type}

/-- What a run tells the host is the whole of what there is to tell. -/
def Run.Tells (run : Run ρ η) : Prop :=
  Told run.station.phase run.station.iface run.journal.judged run.journal.notified

/-- A run tells what its calls tell. -/
theorem Run.Yields.tells {run : Run ρ η} {w : Station ρ η} {calls : Journal} (h : run.Yields w calls)
    (told : Told w.phase w.iface calls.judged calls.notified) : run.Tells := by
  rw [Run.Tells, h.station, h.judged, h.notified]
  exact told

namespace Station

variable [Radio ρ] [Host η]

/-- A step that was poised tells what its action tells. -/
theorem tells_follow {w : Station ρ η} {step : Step} {a : Action} (asked : step.action = some a)
    (h : ((w.step step).execute a).Tells) : (w.follow step).Tells :=
  (yields_follow asked ⟨rfl, rfl⟩).tells (by rw [Journal.judged_calls, Journal.notified_calls]; exact h)

/-- An event of an undecided sweep tells what the action it leads to tells. -/
theorem tells_dispatch_of {w : Station ρ η} {e : Event} (undecided : w.phase.isUndecided = true)
    (rest : ∀ b, (Sweep.handle w.phase w.iface e).action = some b →
      Sweep.Poised (Sweep.handle w.phase w.iface e).phase (Sweep.handle w.phase w.iface e).iface b →
      ((w.step (Sweep.handle w.phase w.iface e)).execute b).Tells) : (w.dispatch e).Tells := by
  rcases (Sweep.handle_handled w.phase w.iface e).poised undecided with ⟨quiet, hphase, _⟩ | ⟨b, asked, poised⟩
  · exact (yields_step quiet).tells (.nothing (by rw [step, hphase]; exact undecided))
  · exact tells_follow asked (rest b asked poised)

/-- Whatever the sweep is poised for but a request for a survey leaves nothing to tell. -/
theorem tells_execute_low (w : Station ρ η) {a : Action} (poised : Sweep.Poised w.phase w.iface a)
    (low : a.rank ≤ 1) : (w.execute a).Tells := by
  obtain ⟨phase, iface, radio, host⟩ := w
  have hclean := Interface.isClean_clear iface
  cases poised with
  | kickoff =>
    rcases hreply : Radio.kickoff radio with ⟨reply, after, log⟩
    cases reply with
    | ok u => exact (yields_kickoff hreply).tells (.nothing rfl)
    | error r => exact (yields_kickoff_refused rfl hreply).tells (.failed hclean)
  | @scanning _ index freq dwell =>
    rcases hreply : Radio.goOffChannel radio freq dwell with ⟨reply, after, log⟩
    cases reply with
    | ok u => exact (yields_offChannel hreply).tells (.nothing rfl)
    | error r => exact (yields_offChannel_refused rfl hreply).tells (.failed hclean)
  | surveying => exact absurd low (Nat.not_succ_le_self 1)
  | @presented _ s presented =>
    rcases hjudged : Host.judge host iface with ⟨v, after⟩
    cases hwhy : v.rejection? with
    | none =>
      obtain rfl : v = .valid := by cases v <;> first | rfl | cases hwhy
      exact (yields_selected hjudged (yields_accepted rfl rfl)).tells (.accepted presented hclean)
    | some why =>
      have hbad : v ≠ .valid := fun hvalid => by rw [hvalid] at hwhy; cases hwhy
      exact (yields_selected hjudged (yields_rejected rfl hwhy)).tells (.rejected presented hbad hclean)
  | @failed _ f clean =>
    have did : (⟨.failed f, iface, radio, host⟩ : Station ρ η).perform (.reportFailed f) =
        { station := ⟨.failed f, iface, radio, Host.notify host iface f⟩, answer := none,
          journal := logged [] ++ [.notified iface f] } := rfl
    exact (yields_unanswered [] rfl did).tells (.failed clean)

/-- **An action the sweep is poised for** leaves nothing to tell. The answer to a request for a survey leads
to no other survey at once. -/
theorem tells_execute (w : Station ρ η) {a : Action} (poised : Sweep.Poised w.phase w.iface a) :
    (w.execute a).Tells := by
  by_cases low : a.rank ≤ 1
  · exact tells_execute_low w poised low
  · obtain ⟨phase, iface, radio, host⟩ := w
    cases poised with
    | @surveying _ index freq =>
      rcases hreply : Radio.readTraffic radio freq with ⟨reply, after, log⟩
      cases reply with
      | ok samples =>
        have hdispatch :
            (dispatch ⟨.surveying index freq, iface, after, host⟩ (.survey freq samples)).Tells := by
          refine tells_dispatch_of rfl fun b asked poised => tells_execute_low _ poised ?_
          have hasked : (Sweep.onSurvey (.surveying index freq) iface freq samples).action = some b := asked
          exact Sweep.onSurvey_rank hasked
        refine (yields_traffic hreply ⟨rfl, rfl⟩).tells ?_
        show Told _ _ (Journal.judged (Journal.calls _)) (Journal.notified (Journal.calls _))
        rw [Journal.judged_calls, Journal.notified_calls]
        exact hdispatch
      | error r => exact (yields_traffic_refused rfl hreply).tells (.failed (Interface.isClean_clear iface))
    | kickoff | scanning | presented => exact absurd (Nat.le_refl 1) low
    | failed => exact absurd (Nat.zero_le 1) low

end Station

end

/-! ## Sessions -/

/-- A station under watch, with what happened since the last start that was accepted. -/
structure Session (ρ η : Type) where
  station : Station ρ η
  journal : Journal := []

/-- What the surroundings of a station do: they start it, bring it a notification, or put another radio and
host in place of its own. -/
inductive Occasion (ρ η : Type) where
  | start
  | notification (e : Event)
  | changed (radio : ρ) (host : η)

def Occasion.silenced {ρ η : Type} : Occasion ρ η → Occasion (Silenced ρ) η
  | start => start
  | notification e => notification e
  | changed radio host => changed ⟨radio⟩ host

namespace Session

section

variable {ρ η : Type}

/-- A station that never ran. -/
def fresh (iface : Interface) (radio : ρ) (host : η) : Session ρ η :=
  { station := { phase := .idle, iface, radio, host } }

variable [Radio ρ] [Host η] [BinaryLog]

/-- What is seen on an occasion. A start that is refused changes nothing. -/
def after (x : Session ρ η) : Occasion ρ η → Session ρ η
  | .start =>
    match x.station.startSweep with
    | .ok run => { station := run.station, journal := run.journal }
    | .error _ => x
  | .notification e =>
    let run := x.station.dispatch e
    { station := run.station, journal := x.journal ++ run.journal }
  | .changed radio host => { x with station := { x.station with radio, host } }

def afterAll (x : Session ρ η) (occasions : List (Occasion ρ η)) : Session ρ η :=
  occasions.foldl after x

/-- What the host has been told of the current sweep is what its phase says. -/
def Tells (x : Session ρ η) : Prop :=
  Told x.station.phase x.station.iface x.journal.judged x.journal.notified

/-- **One occasion leaves nothing to tell.** -/
theorem tells_after {x : Session ρ η} (h : x.Tells) (o : Occasion ρ η) : (x.after o).Tells := by
  cases o with
  | start =>
    cases hstart : x.station.startSweep with
    | error f =>
      simp only [after, hstart]
      exact h
    | ok run =>
      obtain ⟨step, hstep, rfl⟩ := Station.startSweep_ok hstart
      obtain ⟨a, asked, poised⟩ := (Sweep.start_started hstep).2.poised
      simp only [after, hstart]
      exact Station.tells_follow asked (Station.tells_execute _ poised)
  | notification e =>
    cases undecided : x.station.phase.isUndecided with
    | false =>
      have hyields := Station.yields_inactive (h.inactive undecided) e
      simp only [Tells, after, Journal.judged_append, Journal.notified_append, hyields.station, hyields.judged,
        hyields.notified]
      show Told _ _ (_ ++ []) (_ ++ [])
      rw [List.append_nil, List.append_nil]
      exact h
    | true =>
      have hrun : (x.station.dispatch e).Tells :=
        Station.tells_dispatch_of undecided fun b _ poised => Station.tells_execute _ poised
      obtain ⟨hjudged, hnotified⟩ := h.empty undecided
      simp only [Tells, after, Journal.judged_append, Journal.notified_append, hjudged, hnotified, List.nil_append]
      exact hrun
  | changed radio host => exact h

/-- Every occasion of a session tells all of them, by induction on the occasions. -/
theorem tells_afterAll {x : Session ρ η} (h : x.Tells) (occasions : List (Occasion ρ η)) :
    (x.afterAll occasions).Tells := by
  induction occasions generalizing x with
  | nil => exact h
  | cons o rest ih => exact ih (tells_after h o)

/-! ## With the radio silenced -/

/-- The same session with the radio silenced: nothing is missing but messages, and there is one error for
each notification. -/
structure Silent (x : Session ρ η) (y : Session (Silenced ρ) η) : Prop where
  station : y.station = x.station.silenced
  calls : y.journal.calls = x.journal.calls
  errors : y.journal.errors = y.journal.notified.length

/-- One occasion leaves a session and its silenced copy in step. -/
theorem silent_after {x : Session ρ η} {y : Session (Silenced ρ) η} (h : Silent x y) (o : Occasion ρ η) :
    Silent (x.after o) (y.after o.silenced) := by
  obtain ⟨station, journal⟩ := y
  obtain ⟨rfl, calls, errors⟩ := h
  cases o with
  | start =>
    cases hstart : x.station.startSweep with
    | error f =>
      obtain ⟨g, hsilent⟩ := Station.startSweep_silenced_refused hstart
      simp only [after, Occasion.silenced, hstart, hsilent]
      exact ⟨rfl, calls, errors⟩
    | ok run =>
      obtain ⟨silent, hsilent, hyields⟩ := Station.yields_startSweep_silenced hstart
      simp only [after, Occasion.silenced, hstart, hsilent]
      exact ⟨hyields.station, hyields.calls, Station.errors_startSweep hsilent⟩
  | notification e =>
    have hyields := Station.yields_dispatch_silenced x.station e
    refine ⟨hyields.station, ?_, ?_⟩
    · simp only [after, Occasion.silenced, Journal.calls_append, hyields.calls, calls]
    · simp only [after, Occasion.silenced, Journal.errors_append, Journal.notified_append, List.length_append,
        errors, Station.errors_dispatch]
  | changed radio host => exact ⟨rfl, calls, errors⟩

/-- Any number of occasions leaves them in step. -/
theorem silent_afterAll {x : Session ρ η} {y : Session (Silenced ρ) η} (h : Silent x y)
    (occasions : List (Occasion ρ η)) :
    Silent (x.afterAll occasions) (y.afterAll (occasions.map (·.silenced))) := by
  induction occasions generalizing x y with
  | nil => exact h
  | cons o rest ih => exact ih (silent_after h o)

/-- **Of each sweep the host is told once how it ended.** After any occasions, for any radio and any host:

* the host was notified exactly when the sweep failed, once, with the failure the sweep stands at, seeing the
  interface as it is, which is clean;
* it judged at most one selection, which was presented, and the sweep is done with that selection exactly
  when the verdict was acceptance; no sweep is done without;
* the sweep itself wrote one error for each notification, as shows when the radio is silenced, which makes no
  other difference;
* where no sweep is active, a notification calls neither radio nor host and changes nothing. -/
theorem reports_of_occasions (iface : Interface) (radio : ρ) (host : η) (occasions : List (Occasion ρ η)) :
    let x := (fresh iface radio host).afterAll occasions
    let silent := (fresh iface (Silenced.mk radio) host).afterAll (occasions.map (·.silenced))
    (∀ f, x.station.phase = .failed f →
      x.journal.notified = [(x.station.iface, f)] ∧ x.station.iface.isClean = true) ∧
    ((∀ f, x.station.phase ≠ .failed f) → x.journal.notified = []) ∧
    x.journal.judged.length ≤ 1 ∧
    (∀ i v, (i, v) ∈ x.journal.judged →
      ∃ s, Presented i s ∧ (x.station.phase = .done s ↔ v = .valid)) ∧
    (∀ s, x.station.phase = .done s → ∃ i, (i, .valid) ∈ x.journal.judged ∧ Presented i s) ∧
    (silent.station = x.station.silenced ∧ silent.journal.calls = x.journal.calls ∧
      silent.journal.errors = x.journal.notified.length) ∧
    (x.station.phase.isActive = false → ∀ e, (x.station.dispatch e).Yields x.station []) := by
  intro x silent
  have hfresh : (fresh iface radio host).Tells := Told.nothing rfl
  have htells : x.Tells := tells_afterAll hfresh occasions
  have hsilent : Silent x silent := silent_afterAll ⟨rfl, rfl, rfl⟩ occasions
  have hmessages : silent.journal.errors = x.journal.notified.length := by
    rw [hsilent.errors, ← Journal.notified_calls, hsilent.calls, Journal.notified_calls]
  obtain ⟨hfailed, hnever⟩ := Told.failures htells
  obtain ⟨honce, hjudged, hdone⟩ := Told.selections htells
  exact ⟨hfailed, hnever, honce, hjudged, hdone, ⟨hsilent.station, hsilent.calls, hmessages⟩,
    fun inactive => Station.yields_inactive inactive⟩

end

/-- A sweep of one channel whose selection is rejected, a notification that comes too late, and another
sweep whose selection is accepted. -/
theorem reports_of_occasions_secondTry :
    let iface : Interface :=
      { channels := [{ number := 1, freq := 2412 }], offChannelCapable := true
        settings := { rounds := 1, dwell := 5 } }
    let radio : ScriptedRadio := { lastly := .ok [{ total := 5000, busy := 0, own := 0, noise := -95 }] }
    let host : ScriptedHost := { verdicts := [.invalid] }
    let sweep : List (Occasion ScriptedRadio ScriptedHost) :=
      [.start, .notification .kickoffComplete, .notification (.cancelled 2412 5 0)]
    let x := (fresh iface radio host).afterAll sweep
    let y := (fresh iface radio host).afterAll (sweep ++ .notification .kickoffComplete :: sweep)
    let s : Selection := { number := 1, freq := 2412, score := -64.0 }
    x.station.phase = .failed (.rejected 1 .invalid) ∧
      x.journal.notified = [(x.station.iface, .rejected 1 .invalid)] ∧
      y.station.phase = .done s ∧ y.journal.notified = [] ∧
      ∃ i, (i, .valid) ∈ y.journal.judged ∧ Presented i s := by
  intro iface radio host sweep x y s
  have hfailed : x.station.phase = .failed (.rejected 1 .invalid) := by decide +kernel
  have hdone : y.station.phase = .done s := by decide +kernel
  obtain ⟨hx, _⟩ := reports_of_occasions iface radio host sweep
  obtain ⟨_, hy, _, _, hjudged, _⟩ :=
    reports_of_occasions iface radio host (sweep ++ .notification .kickoffComplete :: sweep)
  have hnever : ∀ f, y.station.phase ≠ .failed f := fun f h => by
    rw [hdone] at h
    cases h
  exact ⟨hfailed, (hx _ hfailed).1, hdone, hy hnever, hjudged s hdone⟩

end Session

end ChannelSurvey

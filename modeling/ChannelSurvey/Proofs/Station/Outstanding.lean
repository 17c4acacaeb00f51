import ChannelSurvey.Proofs.Station.Ledger
import ChannelSurvey.Proofs.Sweep.Handled
import ChannelSurvey.Radio.Scripted

/-!
# At most one dwell outstanding

A radio can be away on one channel at a time. The steps of a sweep compare frequencies only, so what keeps
the notifications of an earlier sweep apart from those of the current one is the order of the queue.

**The law** (`one_dwell_outstanding`): wherever starts and deliveries lead, at most one accepted dwell is
still to end, and survey counters are asked for only when the end of the latest dwell is delivered, which
the current sweep asked for on that frequency. The end of an earlier sweep's kick-off scan may open the walk
of a later one, and a failed dwell that is left over may end it, but neither counts as a dwell.

What carries the induction is `Queued`. Ends of kick-off scans may pile up, but the walk of a sweep begins
at the delivery of one of them, so whatever an earlier sweep left behind in front of it is gone by then:
either the departure from one dwell, or nothing.
-/

namespace ChannelSurvey

variable {ρ η : Type}

theorem Run.Yields.noteAll {run : Run ρ η} {w : Station ρ η} {calls : Journal} (h : run.Yields w calls)
    (l : Ledger) : l.noteAll run.journal = l.noteAll calls := by
  rw [← l.noteAll_calls run.journal, h.calls]

theorem Run.Yields.surveyed {run : Run ρ η} {w : Station ρ η} {calls : Journal} (h : run.Yields w calls) :
    run.journal.surveyed = calls.surveyed := by
  rw [← Journal.surveyed_calls run.journal, h.calls]

namespace Station

variable [Radio ρ] [Queueing ρ]

/-- **Where a run pauses**, from a queue, after asking for these surveys: with one dwell more queued, or with the sweep
over. -/
inductive Pauses (queue : List Event) (asked : List UInt32) (run : Run ρ η) : Prop
  | dwelling {index : Nat} {freq t₁ t₂ : UInt32} {s₁ s₂ : Int32}
      (phase : run.station.phase = .scanning index freq)
      (queued : Queueing.pending run.station.radio = queue ++ [.ready freq t₁ s₁, .cancelled freq t₂ s₂])
      (noted : ∀ l : Ledger, l.noteAll run.journal = l.dwelt freq)
      (surveyed : run.journal.surveyed = asked)
  | ended (phase : run.station.phase.isActive = false)
      (queued : Queueing.pending run.station.radio = queue)
      (noted : ∀ l : Ledger, l.noteAll run.journal = l)
      (surveyed : run.journal.surveyed = asked)

variable {w w' : Station ρ η} {queue : List Event} {asked : List UInt32} {calls : Journal} {run : Run ρ η}

theorem pauses_dwelling {index : Nat} {freq t₁ t₂ : UInt32} {s₁ s₂ : Int32} (h : run.Yields w' calls)
    (phase : w'.phase = .scanning index freq)
    (queued : Queueing.pending w'.radio = queue ++ [.ready freq t₁ s₁, .cancelled freq t₂ s₂])
    (noted : ∀ l : Ledger, l.noteAll calls = l.dwelt freq) (surveyed : calls.surveyed = asked) :
    Pauses queue asked run := by
  rw [← h.station] at phase queued
  exact .dwelling phase queued (fun l => (h.noteAll l).trans (noted l)) (h.surveyed.trans surveyed)

/-- A run that ends the sweep leaves the queue as it was and asks for nothing. -/
theorem pauses_ended (h : run.Yields w' calls) (phase : w'.phase.isActive = false)
    (queued : Queueing.pending w'.radio = queue) (noted : ∀ l : Ledger, l.noteAll calls = l)
    (surveyed : calls.surveyed = asked) : Pauses queue asked run := by
  rw [← h.station] at phase queued
  exact .ended phase queued (fun l => (h.noteAll l).trans (noted l)) (h.surveyed.trans surveyed)

variable [Host η] [BinaryLog]

/-- A failure does so. -/
theorem pauses_fail (w : Station ρ η) (i : Interface) (f : Failure) :
    Pauses (Queueing.pending w.radio) [] (w.follow (Sweep.fail i f)) :=
  pauses_ended (yields_fail w i f) rfl rfl (fun _ => rfl) rfl

theorem pauses_after {s : Step} (log : List Severity) (h : Pauses queue asked (w.follow s)) :
    Pauses queue asked (w.follow (s.after log)) := by
  have hafter : (w.follow (s.after log)).Yields (w.follow s).station (w.follow s).journal.calls :=
    yields_after log ⟨rfl, rfl⟩
  cases h with
  | dwelling phase queued noted surveyed =>
    exact pauses_dwelling hafter phase queued (fun l => (l.noteAll_calls _).trans (noted l))
      ((Journal.surveyed_calls _).trans surveyed)
  | ended phase queued noted surveyed =>
    exact pauses_ended hafter phase queued (fun l => (l.noteAll_calls _).trans (noted l))
      ((Journal.surveyed_calls _).trans surveyed)

/-- Heading for a stop pauses on the way there, or ends refused. -/
theorem pauses_toward (w : Station ρ η) (i : Interface) (s : Stop) :
    Pauses (Queueing.pending w.radio) [] (w.follow (Sweep.toward i s)) := by
  rcases hanswer : Radio.goOffChannel w.radio s.freq i.settings.dwell with ⟨reply, radio, log⟩
  cases reply with
  | ok u =>
    obtain ⟨t₁, t₂, s₁, s₂, hqueued⟩ :=
      Queueing.dwell_accepted w.radio s.freq i.settings.dwell (by rw [hanswer])
    rw [hanswer] at hqueued
    have hyields := yields_follow (w := w) (s := Sweep.toward i s) rfl (yields_offChannel hanswer)
    exact pauses_dwelling hyields rfl hqueued (fun _ => rfl) rfl
  | error r =>
    have hqueued := Queueing.dwell_refused w.radio s.freq i.settings.dwell r (by rw [hanswer])
    rw [hanswer] at hqueued
    have hyields := yields_follow (w := w) (s := Sweep.toward i s) rfl (yields_offChannel_refused rfl hanswer)
    exact pauses_ended hyields rfl hqueued (fun _ => rfl) rfl

/-- A verdict ends the sweep either way. -/
theorem pauses_verdict {s : Selection} (v : Verdict) (awaiting : w.phase = .awaitingVerdict s) :
    Pauses (Queueing.pending w.radio) [] (w.dispatch (.verdict v)) := by
  cases hv : v.rejection? with
  | none => exact pauses_ended (yields_accepted awaiting hv) rfl rfl (fun _ => rfl) rfl
  | some why => exact pauses_ended (yields_rejected awaiting hv) rfl rfl (fun _ => rfl) rfl

omit [Host η] [BinaryLog] in
/-- A call that accepts nothing may come first. -/
theorem pauses_call (entry : Entry) {run' : Run ρ η} (silent : ∀ l : Ledger, l.note entry = l)
    (yields : run'.Yields run.station (entry :: run.journal.calls)) (h : Pauses queue asked run) :
    Pauses queue (Journal.surveyed [entry] ++ asked) run' := by
  have hnoted : ∀ l : Ledger, l.noteAll (entry :: run.journal.calls) = l.noteAll run.journal := fun l => by
    show (l.note entry).noteAll run.journal.calls = _
    rw [silent, Ledger.noteAll_calls]
  have hsurveyed : Journal.surveyed (entry :: run.journal.calls) =
      Journal.surveyed [entry] ++ run.journal.surveyed := by
    rw [← Journal.surveyed_calls run.journal]
    exact List.filterMap_append (l := [entry])
  cases h with
  | dwelling phase queued noted surveyed =>
    exact pauses_dwelling yields phase queued (fun l => (hnoted l).trans (noted l)) (surveyed ▸ hsurveyed)
  | ended phase queued noted surveyed =>
    exact pauses_ended yields phase queued (fun l => (hnoted l).trans (noted l)) (surveyed ▸ hsurveyed)

theorem pauses_selected {i : Interface} {s : Selection} {log : List Severity} :
    Pauses (Queueing.pending w.radio) []
      (w.follow { phase := .awaitingVerdict s, iface := i, action := some (.reportSelected s), log }) := by
  rcases hjudged : Host.judge w.host i with ⟨v, host⟩
  have hverdict := pauses_verdict (w := { w with phase := .awaitingVerdict s, iface := i, host }) v rfl
  refine pauses_call (.judged i v) (fun _ => rfl) ?_ hverdict
  exact yields_follow rfl (yields_selected hjudged ⟨rfl, rfl⟩)

/-- The end of a round goes on with a dwell or ends the sweep. -/
theorem pauses_closed {i : Interface} {step : Step} (closing : Sweep.Closed i step) :
    Pauses (Queueing.pending w.radio) [] (w.follow step) := by
  cases closing with
  | again => exact pauses_after _ (pauses_toward w _ _)
  | noChannel | noData | noIdeal => exact pauses_after _ (pauses_fail w _ _)
  | selected => exact pauses_selected

/-- A survey that is waited for pauses without asking for another one. -/
theorem pauses_survey {index : Nat} {freq : UInt32} (samples : List Sample)
    (surveying : w.phase = .surveying index freq) :
    Pauses (Queueing.pending w.radio) [] (w.dispatch (.survey freq samples)) := by
  have hstep : Sweep.handle w.phase w.iface (.survey freq samples) =
      Sweep.onSurvey (.surveying index freq) w.iface freq samples := by rw [surveying]; rfl
  obtain ⟨step, hproceeds, hsurvey⟩ := Sweep.survey_proceeds w.iface index freq samples
  rw [dispatch, hstep, hsurvey]
  refine pauses_after _ ?_
  cases hproceeds with
  | next => exact pauses_toward w _ _
  | closed => exact pauses_closed (Sweep.closeRound_closed _)
  | outOfRange => exact pauses_fail w _ _

/-- After a dwell, one survey is asked for. -/
theorem pauses_dwelt (w : Station ρ η) (index : Nat) (freq : UInt32) (log : List Severity) :
    Pauses (Queueing.pending w.radio) [freq]
      (w.follow
        { phase := .surveying index freq, iface := w.iface, action := some (.requestTraffic freq), log }) := by
  have hqueued := Queueing.survey_queues_none w.radio freq
  rcases hanswer : Radio.readTraffic w.radio freq with ⟨reply, radio, own⟩
  rw [hanswer] at hqueued
  cases reply with
  | ok samples =>
    have hsurvey := pauses_survey (w := { w with phase := .surveying index freq, radio }) samples rfl
    rw [hqueued] at hsurvey
    refine pauses_call (.traffic freq (.ok samples)) (fun _ => rfl) ?_ hsurvey
    exact yields_follow rfl (yields_traffic hanswer ⟨rfl, rfl⟩)
  | error r =>
    have hrefused := yields_traffic_refused (w := { w with phase := .surveying index freq }) rfl hanswer
    exact pauses_ended (yields_follow rfl hrefused) rfl hqueued (fun _ => rfl) rfl

/-! ## The queue at rest -/

omit [Queueing ρ] [Radio ρ] [Host η] [BinaryLog]

/-- **The invariant**: which notifications are queued in a phase at rest. -/
inductive Queued : Phase → Ledger → Prop
  /-- Between walks: the departure from one dwell may be left over, ends of kick-off scans follow. -/
  | waiting {p : Phase} {l : Ledger} (settled : p.isActive = false ∨ p = .kickoff) (left : Option Dwell)
      (scans : List Nat) (tickets : l.tickets = left.toList.map .departure ++ scans.map .kickoff) :
      Queued p l
  /-- On the way to a channel: ends of kick-off scans may be left over, arrival and departure follow. -/
  | arriving {index : Nat} {l : Ledger} {d : Dwell} (latest : l.accepted.head? = some d)
      (own : d.sweep = l.sweep) (scans : List Nat)
      (tickets : l.tickets = scans.map .kickoff ++ [.arrival d, .departure d]) :
      Queued (.scanning index d.freq) l
  /-- On a channel: only the departure is left. -/
  | leaving {index : Nat} {l : Ledger} {d : Dwell} (latest : l.accepted.head? = some d)
      (own : d.sweep = l.sweep) (tickets : l.tickets = [.departure d]) :
      Queued (.scanning index d.freq) l

/-- At rest, at most one dwell is still to end. -/
theorem Queued.one {p : Phase} {l : Ledger} (h : Queued p l) :
    (l.tickets.filter Ticket.isDeparture).length ≤ 1 := by
  have hscans : ∀ scans : List Nat, (scans.map Ticket.kickoff).filter Ticket.isDeparture = [] := by
    intro scans
    refine List.filter_eq_nil_iff.mpr fun t ht => ?_
    obtain ⟨n, _, rfl⟩ := List.mem_map.mp ht
    exact Bool.false_ne_true
  cases h with
  | waiting settled left scans tickets =>
    rw [tickets, List.filter_append, hscans, List.append_nil]
    cases left with
    | none => exact Nat.zero_le _
    | some d => exact Nat.le_refl _
  | arriving latest own scans tickets =>
    rw [tickets, List.filter_append, hscans]
    exact Nat.le_refl _
  | leaving latest own tickets =>
    rw [tickets]
    exact Nat.le_refl _

/-- The head of the queue ends the latest dwell, which the current sweep asked for on this frequency. -/
def Due (l : Ledger) (e : Event) (freq : UInt32) : Prop :=
  ∃ d t, e = .cancelled freq t 0 ∧ l.tickets.head? = some (.departure d) ∧ l.accepted.head? = some d ∧
    d.freq = freq ∧ d.sweep = l.sweep

variable [Radio ρ] [Queueing ρ]

/-- The tickets are those of the queue, in its order, and fit the phase. -/
structure Consistent (w : Station ρ η) (l : Ledger) : Prop where
  matched : List.Forall₂ Ticket.Answered l.tickets (Queueing.pending w.radio)
  queued : Queued w.phase l

/-- A run ends consistent, after asking for these surveys. -/
structure Upholds (l : Ledger) (asked : List UInt32) (run : Run ρ η) : Prop where
  consistent : Consistent run.station (l.noteAll run.journal)
  surveyed : run.journal.surveyed = asked

/-- From a queue of nothing but ends of kick-off scans, wherever a run pauses is consistent. -/
theorem upholds_pauses {l : Ledger} (scans : List Nat) (h : Pauses queue asked run)
    (matched : List.Forall₂ Ticket.Answered l.tickets queue) (tickets : l.tickets = scans.map .kickoff) :
    Upholds l asked run := by
  cases h with
  | dwelling phase queued noted surveyed =>
    refine ⟨?_, surveyed⟩
    rw [noted]
    constructor
    · rw [queued]
      exact List.rel_append matched (.cons .arrival (.cons .departure .nil))
    · rw [phase]
      refine .arriving (d := l.next _) rfl rfl scans ?_
      rw [← tickets]
      rfl
  | ended phase queued noted surveyed =>
    refine ⟨?_, surveyed⟩
    rw [noted]
    exact ⟨queued ▸ matched, .waiting (Or.inl phase) none scans tickets⟩

variable [Host η] [BinaryLog]

/-- What is ignored upholds the ledger. -/
theorem upholds_ignore {l : Ledger} (log : List Severity) (h : Consistent w l) :
    Upholds l [] (w.follow (Sweep.ignore w.phase w.iface log)) := by
  have hyields := yields_step (w := w) (s := Sweep.ignore w.phase w.iface log) rfl
  refine ⟨?_, hyields.surveyed⟩
  rw [hyields.station, hyields.noteAll]
  exact h

/-- After a failure only what is queued already is still to come. -/
theorem upholds_fail {l : Ledger} (i : Interface) (f : Failure) (left : Option Dwell) (scans : List Nat)
    (matched : List.Forall₂ Ticket.Answered l.tickets (Queueing.pending w.radio))
    (tickets : l.tickets = left.toList.map .departure ++ scans.map .kickoff) :
    Upholds l [] (w.follow (Sweep.fail i f)) := by
  have hyields := yields_fail w i f
  refine ⟨?_, hyields.surveyed⟩
  rw [hyields.station, hyields.noteAll]
  exact ⟨matched, .waiting (Or.inl rfl) left scans tickets⟩

theorem upholds_after {l : Ledger} {s : Step} (log : List Severity) (h : Upholds l asked (w.follow s)) :
    Upholds l asked (w.follow (s.after log)) := by
  have hafter : (w.follow (s.after log)).Yields (w.follow s).station (w.follow s).journal.calls :=
    yields_after log ⟨rfl, rfl⟩
  refine ⟨?_, (hafter.surveyed.trans (Journal.surveyed_calls _)).trans h.surveyed⟩
  rw [hafter.station, hafter.noteAll, Ledger.noteAll_calls]
  exact h.consistent

/-- The kick-off scan of a sweep is queued last, or refused. -/
theorem upholds_begun {l : Ledger} (i : Interface) (log : List Severity) (left : Option Dwell) (scans : List Nat)
    (matched : List.Forall₂ Ticket.Answered l.tickets (Queueing.pending w.radio))
    (tickets : l.tickets = left.toList.map .departure ++ scans.map .kickoff) :
    Upholds l [] (w.follow { phase := .kickoff, iface := i, action := some .requestKickoff, log }) := by
  rcases hanswer : Radio.kickoff w.radio with ⟨reply, radio, own⟩
  cases reply with
  | ok u =>
    have hqueued := Queueing.kickoff_accepted w.radio (by rw [hanswer])
    rw [hanswer] at hqueued
    have hyields := yields_kickoff (w := { w with phase := .kickoff, iface := i }) hanswer
    have hfollow := yields_follow (w := w)
      (s := { phase := .kickoff, iface := i, action := some .requestKickoff, log }) rfl hyields
    refine ⟨?_, hfollow.surveyed⟩
    rw [hfollow.station, hfollow.noteAll]
    constructor
    · show List.Forall₂ _ (l.tickets ++ [.kickoff l.sweep]) (Queueing.pending radio)
      rw [hqueued]
      exact List.rel_append matched (.cons .kickoff .nil)
    · refine .waiting (Or.inr rfl) left (scans ++ [l.sweep]) ?_
      show l.tickets ++ [.kickoff l.sweep] = _
      rw [tickets, List.map_append, List.append_assoc]
      rfl
  | error r =>
    have hqueued := Queueing.kickoff_refused w.radio r (by rw [hanswer])
    rw [hanswer] at hqueued
    have hyields := yields_kickoff_refused (w := { w with phase := .kickoff, iface := i }) rfl hanswer
    have hfollow := yields_follow (w := w)
      (s := { phase := .kickoff, iface := i, action := some .requestKickoff, log }) rfl hyields
    refine ⟨?_, hfollow.surveyed⟩
    rw [hfollow.station, hfollow.noteAll]
    refine ⟨?_, .waiting (Or.inl rfl) left scans tickets⟩
    show List.Forall₂ _ l.tickets (Queueing.pending radio)
    rw [hqueued]
    exact matched

/-! ## One delivery -/

/-- An event outside of a sweep upholds the ledger. -/
theorem upholds_inactive {l : Ledger} (e : Event) (inactive : w.phase.isActive = false) (h : Consistent w l) :
    Upholds l [] (w.dispatch e) := by
  rw [dispatch, Sweep.handle_inactive inactive]
  exact upholds_ignore _ h

/-- The end of a kick-off scan opens a walk if one is waited for, and is ignored otherwise. -/
theorem upholds_kickoffComplete {l : Ledger} (scans : List Nat) (waiting : w.phase = .kickoff)
    (matched : List.Forall₂ Ticket.Answered l.tickets (Queueing.pending w.radio))
    (tickets : l.tickets = scans.map .kickoff) : Upholds l [] (w.dispatch .kickoffComplete) := by
  have hhandled := Sweep.handle_handled w.phase w.iface .kickoffComplete
  rw [dispatch]
  generalize Sweep.handle w.phase w.iface .kickoffComplete = step at hhandled
  rw [waiting] at hhandled
  cases hhandled with
  | ignored =>
    rw [← waiting]
    exact upholds_ignore _ ⟨matched, .waiting (Or.inr waiting) none scans tickets⟩
  | opened => exact upholds_pauses scans (pauses_after _ (pauses_toward w _ _)) matched tickets
  | noChannel => exact upholds_pauses scans (pauses_after _ (pauses_fail w _ _)) matched tickets

/-- Before a walk has begun, a departure that is left over fails the sweep or is ignored. -/
theorem upholds_leftOver {l : Ledger} (freq t : UInt32) (s : Int32) (scans : List Nat)
    (waiting : w.phase = .kickoff)
    (matched : List.Forall₂ Ticket.Answered l.tickets (Queueing.pending w.radio))
    (tickets : l.tickets = scans.map .kickoff) : Upholds l [] (w.dispatch (.cancelled freq t s)) := by
  have hstep : Sweep.handle w.phase w.iface (.cancelled freq t s) =
      if s ≠ 0 then Sweep.fail w.iface (.cancelled freq s)
      else Sweep.ignore w.phase w.iface [.warn] := by
    rw [waiting]
    rfl
  rw [dispatch, hstep]
  split
  · exact upholds_fail _ _ none scans matched tickets
  · exact upholds_ignore _ ⟨matched, .waiting (Or.inr waiting) none scans tickets⟩

/-- The arrival on the channel that is waited for leaves only the departure from it. -/
theorem upholds_ready {l : Ledger} {index : Nat} {d : Dwell} (t : UInt32) (s : Int32)
    (scanning : w.phase = .scanning index d.freq) (latest : l.accepted.head? = some d)
    (own : d.sweep = l.sweep)
    (matched : List.Forall₂ Ticket.Answered l.tickets (Queueing.pending w.radio))
    (tickets : l.tickets = [.departure d]) : Upholds l [] (w.dispatch (.ready d.freq t s)) := by
  rw [dispatch, scanning, handle_ready]
  split
  · exact upholds_fail _ _ (some d) [] matched tickets
  · have hqueued : Queued w.phase l := scanning ▸ .leaving latest own tickets
    rw [← scanning]
    exact upholds_ignore _ ⟨matched, hqueued⟩

/-- The departure from the channel leads to its survey, or fails the sweep. -/
theorem upholds_cancelled {l : Ledger} {index : Nat} {freq : UInt32} (t : UInt32) (s : Int32)
    (scanning : w.phase = .scanning index freq)
    (matched : List.Forall₂ Ticket.Answered l.tickets (Queueing.pending w.radio))
    (tickets : l.tickets = []) :
    ∃ asked, Upholds l asked (w.dispatch (.cancelled freq t s)) ∧ ∀ f ∈ asked, s = 0 ∧ f = freq := by
  rw [dispatch, scanning, handle_cancelled]
  split
  · exact ⟨[], upholds_fail _ _ none [] matched tickets, fun _ hf => absurd hf List.not_mem_nil⟩
  · rename_i good
    have hpauses := pauses_dwelt w index freq [.trace]
    refine ⟨[freq], upholds_pauses [] hpauses matched tickets, fun f hf => ?_⟩
    exact ⟨Decidable.not_not.mp good, List.mem_singleton.mp hf⟩

omit [Host η] [BinaryLog] [Radio ρ] [Queueing ρ] in
/-- The head of the queue answers the first ticket, and the rest stays matched. -/
theorem matched_delivered {l : Ledger} {t : Ticket} {ts : List Ticket} {e : Event} {rest : List Event}
    (tickets : l.tickets = t :: ts) (matched : List.Forall₂ Ticket.Answered l.tickets (e :: rest)) :
    Ticket.Answered t e ∧ l.delivered.tickets = ts ∧
      List.Forall₂ Ticket.Answered l.delivered.tickets rest := by
  have hdelivered : l.delivered.tickets = ts := congrArg List.tail tickets
  rw [tickets] at matched
  rw [hdelivered]
  obtain ⟨answered, others⟩ := List.forall₂_cons.mp matched
  exact ⟨answered, rfl, others⟩

/-- **One delivery keeps a station consistent**, and asks for a survey only where one is due. -/
theorem upholds_delivered {l : Ledger} {e : Event} {radio : ρ} (h : Consistent w l)
    (queued : Queueing.pending w.radio = e :: Queueing.pending radio) :
    ∃ asked, Upholds l.delivered asked (dispatch { w with radio } e) ∧ ∀ f ∈ asked, Due l e f := by
  obtain ⟨p, i, before, host⟩ := w
  obtain ⟨matched, shape⟩ := h
  have hnone : ∀ f ∈ ([] : List UInt32), Due l e f := fun _ hf => absurd hf List.not_mem_nil
  rw [queued] at matched
  -- the shape of the queue and its first ticket say which notification is delivered
  cases shape with
  | waiting settled left scans tickets =>
    cases left with
    | some d =>
      obtain ⟨answered, htickets, hmatched⟩ := matched_delivered tickets matched
      cases answered
      refine ⟨[], ?_, hnone⟩
      rcases settled with inactive | rfl
      · exact upholds_inactive _ inactive ⟨hmatched, .waiting (Or.inl inactive) none scans htickets⟩
      · exact upholds_leftOver _ _ _ scans rfl hmatched htickets
    | none =>
      cases scans with
      | nil =>
        rw [tickets] at matched
        cases matched
      | cons n scans =>
        obtain ⟨answered, htickets, hmatched⟩ := matched_delivered tickets matched
        cases answered
        refine ⟨[], ?_, hnone⟩
        rcases settled with inactive | rfl
        · exact upholds_inactive _ inactive ⟨hmatched, .waiting (Or.inl inactive) none scans htickets⟩
        · exact upholds_kickoffComplete scans rfl hmatched htickets
  | @arriving index _ d latest own scans tickets =>
    cases scans with
    | cons n scans =>
      -- the walk has begun already, so one more end of a scan is ignored
      obtain ⟨answered, htickets, hmatched⟩ := matched_delivered tickets matched
      cases answered
      have hconsistent : Consistent { phase := .scanning index d.freq, iface := i, radio, host : Station ρ η }
          l.delivered := ⟨hmatched, .arriving latest own scans htickets⟩
      exact ⟨[], upholds_ignore [.warn] hconsistent, hnone⟩
    | nil =>
      obtain ⟨answered, htickets, hmatched⟩ := matched_delivered tickets matched
      cases answered
      exact ⟨[], upholds_ready _ _ rfl latest own hmatched htickets, hnone⟩
  | @leaving index _ d latest own tickets =>
    obtain ⟨answered, htickets, hmatched⟩ := matched_delivered tickets matched
    cases answered with
    | @departure _ t s =>
      obtain ⟨asked, hupholds, hasked⟩ := upholds_cancelled (w := ⟨_, i, radio, host⟩) t s rfl hmatched htickets
      refine ⟨asked, hupholds, fun f hf => ?_⟩
      obtain ⟨rfl, rfl⟩ := hasked f hf
      exact ⟨d, t, rfl, by rw [tickets]; rfl, latest, rfl, own⟩

omit [Radio ρ] [Queueing ρ] [Host η] [BinaryLog] in
theorem Queued.inactive {p : Phase} {l : Ledger} (h : Queued p l) (inactive : p.isActive = false) :
    ∃ (left : Option Dwell) (scans : List Nat),
      l.tickets = left.toList.map .departure ++ scans.map .kickoff := by
  cases h with
  | waiting settled left scans tickets => exact ⟨left, scans, tickets⟩
  | arriving | leaving => cases inactive

/-- **One start keeps a station consistent**, and asks for no survey. -/
theorem upholds_started {l : Ledger} (h : Consistent w l) (accepted : w.startSweep = .ok run) :
    Upholds l.started [] run := by
  obtain ⟨step, hstart, rfl⟩ := startSweep_ok accepted
  obtain ⟨inactive, started⟩ := Sweep.start_started hstart
  obtain ⟨left, scans, tickets⟩ := h.queued.inactive inactive
  cases started with
  | dirty | incapable => exact upholds_after _ (upholds_fail _ _ left scans h.matched tickets)
  | begun => exact upholds_begun _ _ left scans h.matched tickets

/-! ## Whole histories -/

/-- **Every reachable station is consistent.** -/
theorem consistent_of_reachable {l : Ledger} (h : Reachable w l) : Consistent w l := by
  induction h with
  | fresh idle empty =>
    refine ⟨?_, .waiting (Or.inl (by rw [idle]; rfl)) none [] rfl⟩
    rw [empty]
    exact .nil
  | started before accepted ih => exact (upholds_started ih accepted).consistent
  | delivered before queued taken ih =>
    obtain ⟨asked, hupholds, _⟩ := upholds_delivered ih (taken ▸ queued)
    exact hupholds.consistent
  | changed before kept ih => exact ⟨kept ▸ ih.matched, ih.queued⟩

omit [Queueing ρ] in
/-- The end of a dwell of an earlier sweep, if the dwell was completed, changes nothing. -/
theorem yields_leftOver {l : Ledger} {d : Dwell} (h : Queued w.phase l)
    (head : l.tickets.head? = some (.departure d)) (earlier : d.sweep ≠ l.sweep) (freq t : UInt32) :
    (w.dispatch (.cancelled freq t 0)).Yields w [] := by
  obtain ⟨p, i, radio, host⟩ := w
  cases h with
  | waiting settled left scans tickets =>
    rcases settled with inactive | rfl
    · exact yields_inactive inactive _
    · exact yields_step rfl
  | arriving latest own scans tickets =>
    rw [tickets] at head
    cases scans <;> cases head
  | leaving latest own tickets =>
    rw [tickets] at head
    cases head
    exact absurd own earlier

/-- **At most one dwell is outstanding**, across any number of sweeps. In every reachable station the
tickets of the ledger are answered by the queue, in its order, and at most one of them stands for the end of
a dwell. A start asks for no survey, and a delivery only where one is `Due`. The completed end of an earlier
sweep's dwell changes nothing and asks for nothing. -/
theorem one_dwell_outstanding {l : Ledger} (h : Reachable w l) :
    List.Forall₂ Ticket.Answered l.tickets (Queueing.pending w.radio) ∧
    (l.tickets.filter Ticket.isDeparture).length ≤ 1 ∧
    (∀ run, w.startSweep = .ok run → run.journal.surveyed = []) ∧
    ∀ e (radio : ρ), Queueing.pending w.radio = e :: Queueing.pending radio →
      (∀ freq ∈ (dispatch { w with radio } e).journal.surveyed, Due l e freq) ∧
      ∀ d freq t, l.tickets.head? = some (.departure d) → d.sweep ≠ l.sweep → e = .cancelled freq t 0 →
        (dispatch { w with radio } e).Yields { w with radio } [] := by
  have hconsistent := consistent_of_reachable h
  refine ⟨hconsistent.matched, hconsistent.queued.one, fun run accepted => ?_, fun e radio queued => ?_⟩
  · exact (upholds_started hconsistent accepted).surveyed
  · obtain ⟨asked, hupholds, hdue⟩ := upholds_delivered hconsistent queued
    refine ⟨fun freq hfreq => ?_, fun d freq t head earlier he => ?_⟩
    · rw [hupholds.surveyed] at hfreq
      exact hdue freq hfreq
    · rw [he]
      exact yields_leftOver (w := { w with radio }) hconsistent.queued head earlier freq t

end Station

/-! ## A restart -/

/-- A radio that accepts every request. Dwells begin with the status it is set to and are completed. -/
structure ObligingRadio where
  arrival : Int32 := 0
  pending : List Event := []

namespace ObligingRadio

instance : Radio ObligingRadio where
  offChannelCapable _ := true
  kickoff r := { reply := .ok (), radio := { r with pending := r.pending ++ [.kickoffComplete] } }
  goOffChannel r freq dwell :=
    { reply := .ok ()
      radio := { r with pending := r.pending ++ [.ready freq dwell r.arrival, .cancelled freq dwell 0] } }
  readTraffic r _ := { reply := .ok [], radio := r }

instance : Queueing ObligingRadio where
  pending := pending
  kickoff_accepted _ _ := rfl
  kickoff_refused _ _ refused := by cases refused
  dwell_accepted _ _ _ _ := ⟨_, _, _, _, rfl⟩
  dwell_refused _ _ _ _ refused := by cases refused
  survey_queues_none _ _ := rfl

variable {η : Type} [Host η] [BinaryLog] {w : Station ObligingRadio η} {l : Ledger}

/-- The next notification is delivered. -/
theorem reachable_next (h : Reachable w l) (e : Event) (rest : List Event) (queued : w.radio.pending = e :: rest) :
    Reachable (Station.dispatch { w with radio := { w.radio with pending := rest } } e).station
      (l.delivered.noteAll (Station.dispatch { w with radio := { w.radio with pending := rest } } e).journal) :=
  h.delivered queued rfl

/-- The run of a start, where it is accepted. -/
def begun (w : Station ObligingRadio η) : Run ObligingRadio η :=
  w.startSweep.toOption.getD { station := w, journal := [] }

/-- A sweep is started while none is running. -/
theorem reachable_begun (h : Reachable w l) (inactive : w.phase.isActive = false) :
    Reachable (begun w).station (l.started.noteAll (begun w).journal) := by
  obtain ⟨step, hstart⟩ := Sweep.start_accepted w.refreshed inactive
  have haccepted : w.startSweep = .ok (w.follow step) := by
    rw [Station.startSweep_eq inactive, hstart]
    rfl
  have hbegun : begun w = w.follow step := by
    rw [begun, haccepted]
    rfl
  rw [hbegun]
  exact h.started haccepted

/-- The radio is set to another status between calls. -/
theorem reachable_set (h : Reachable w l) (arrival : Int32) :
    Reachable { w with radio := { w.radio with arrival } } l :=
  h.changed rfl

end ObligingRadio

namespace Station

/-- The arrival on the channel fails the first sweep, and the departure from it is still queued when the second one
starts. Its delivery changes nothing; the departure that follows the second sweep's own arrival is due. -/
theorem one_dwell_outstanding_restarted :
    let _ : BinaryLog := ⟨fun x => x⟩
    let left : ObligingRadio := { pending := [.kickoffComplete] }
    ∃ (w w' : Station ObligingRadio ScriptedHost) (l l' : Ledger) (d : Dwell),
      (Reachable w l ∧ w.radio.pending = [.cancelled 2412 5 0, .kickoffComplete] ∧
        l.tickets.head? = some (.departure d) ∧ d.sweep = 1 ∧ l.sweep = 2 ∧
        (dispatch { w with radio := left } (.cancelled 2412 5 0)).Yields { w with radio := left } []) ∧
      Reachable w' l' ∧ w'.radio.pending = [.cancelled 2412 5 0] ∧ l'.sweep = 2 ∧
        Due l' (.cancelled 2412 5 0) 2412 := by
  intro log left
  let first : Station ObligingRadio ScriptedHost :=
    { phase := .idle
      iface :=
        { channels := [{ number := 1, freq := 2412 }], offChannelCapable := true
          settings := { rounds := 1, dwell := 5 } }
      radio := { arrival := -1 }
      host := {} }
  have hstarted := ObligingRadio.reachable_begun (Reachable.fresh (w := first) rfl rfl) rfl
  have harriving := ObligingRadio.reachable_next hstarted .kickoffComplete [] (by decide +kernel)
  have hfailed := ObligingRadio.reachable_next harriving (.ready 2412 5 (-1)) [.cancelled 2412 5 0] (by decide +kernel)
  have hrestarted := ObligingRadio.reachable_begun (ObligingRadio.reachable_set hfailed 0) (by decide +kernel)
  have hscanned := ObligingRadio.reachable_next hrestarted (.cancelled 2412 5 0) [.kickoffComplete] (by decide +kernel)
  have harriving' := ObligingRadio.reachable_next hscanned .kickoffComplete [] (by decide +kernel)
  have hleaving := ObligingRadio.reachable_next harriving' (.ready 2412 5 0) [.cancelled 2412 5 0] (by decide +kernel)
  obtain ⟨-, -, -, hleft⟩ := one_dwell_outstanding hrestarted
  obtain ⟨-, -, -, hown⟩ := one_dwell_outstanding hleaving
  let d : Dwell := { serial := 0, sweep := 1, freq := 2412 }
  have hstale := (hleft (.cancelled 2412 5 0) left (by decide +kernel)).2 d 2412 5 (by decide +kernel)
    (by decide +kernel) rfl
  have hdue := (hown (.cancelled 2412 5 0) {} (by decide +kernel)).1 2412 (by decide +kernel)
  refine ⟨_, _, _, _, d, ⟨hrestarted, ?_, ?_, rfl, ?_, hstale⟩, hleaving, ?_, ?_, hdue⟩ <;> decide +kernel

end Station

end ChannelSurvey

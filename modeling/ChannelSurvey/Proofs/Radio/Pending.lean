import ChannelSurvey.Proofs.Station.Outstanding
import ChannelSurvey.Rehearsal

/-!
# The queue of a simulated radio

A simulated radio is `Queueing`: its notifications are `pending`, and every accepted request queues what
answers it. Delivering them one after the other stays among what is `Reachable`, so what holds of every
queueing radio holds of rehearsals: at most one dwell is still to end (`departures_deliver`).
-/

namespace ChannelSurvey

namespace SimulatedRadio

/-- An accepted scan is queued behind what is pending. -/
theorem pending_requestKickoff (r : SimulatedRadio) (accepted : r.requestKickoff.reply = .ok ()) :
    r.requestKickoff.radio.pending = r.pending ++ [.kickoffComplete] := by
  unfold requestKickoff at accepted ⊢
  split at accepted
  · cases accepted
  · rename_i willing
    rw [if_neg willing]

/-- A refused scan leaves the radio as it was. -/
theorem radio_requestKickoff (r : SimulatedRadio) {why : Refusal} (refused : r.requestKickoff.reply = .error why) :
    r.requestKickoff.radio = r := by
  unfold requestKickoff at refused ⊢
  split at refused
  · rename_i unwilling
    rw [if_pos unwilling]
  · cases refused

/-- An accepted dwell queues the arrival, and the departure with its status. -/
theorem pending_requestOffChannel (r : SimulatedRadio) (freq dwell : UInt32)
    (accepted : (r.requestOffChannel freq dwell).reply = .ok ()) :
    (r.requestOffChannel freq dwell).radio.pending =
      r.pending ++ [.ready freq dwell 0,
        .cancelled freq dwell
          (if (r.requestOffChannel freq dwell).radio.cutsShort.contains freq then cutShortStatus else 0)] := by
  unfold requestOffChannel at accepted ⊢
  split at accepted
  · cases accepted
  · rename_i willing
    rw [if_neg willing]

theorem radio_requestOffChannel (r : SimulatedRadio) (freq dwell : UInt32) {why : Refusal}
    (refused : (r.requestOffChannel freq dwell).reply = .error why) :
    (r.requestOffChannel freq dwell).radio = r := by
  unfold requestOffChannel at refused ⊢
  split at refused
  · rename_i unwilling
    rw [if_pos unwilling]
  · cases refused

/-- A survey is answered at once and queues nothing. -/
theorem pending_requestTraffic (r : SimulatedRadio) (freq : UInt32) :
    (r.requestTraffic freq).radio.pending = r.pending := by
  unfold requestTraffic
  split
  · rfl
  · split <;> rfl

/-- The notifications of a simulated radio are those in `pending`. -/
instance : Queueing SimulatedRadio where
  pending := pending
  kickoff_accepted := pending_requestKickoff
  kickoff_refused r _ refused := congrArg pending (r.radio_requestKickoff refused)
  dwell_accepted r freq dwell accepted := ⟨dwell, dwell, 0, _, r.pending_requestOffChannel freq dwell accepted⟩
  dwell_refused r freq dwell _ refused := congrArg pending (r.radio_requestOffChannel freq dwell refused)
  survey_queues_none := pending_requestTraffic

end SimulatedRadio

/-- A notification of the end of a dwell. -/
def Event.isDeparture : Event → Bool
  | .cancelled .. => true
  | _ => false

/-- As many ends of dwells are queued as there are tickets for them. -/
theorem length_departures {tickets : List Ticket} {queue : List Event}
    (matched : List.Forall₂ Ticket.Answered tickets queue) :
    (tickets.filter Ticket.isDeparture).length = (queue.filter Event.isDeparture).length := by
  induction matched with
  | nil => rfl
  | cons answered _ ih =>
    cases answered with
    | kickoff | arrival => exact ih
    | departure => exact congrArg (· + 1) ih

namespace Rehearsal

/-- Delivering notifications leads to reachable stations. -/
theorem reachable_deliver {η : Type} [Host η] [BinaryLog] {w : Rehearsal η} {l : Ledger}
    (h : Reachable w l) (limit : Nat) : ∃ l', Reachable (deliver w limit).station l' := by
  induction limit generalizing w l with
  | zero => exact ⟨l, h⟩
  | succ limit ih =>
    unfold deliver SimulatedRadio.nextEvent
    split
    · exact ⟨l, h⟩
    · rename_i e radio hnext
      split at hnext
      · cases hnext
      · rename_i first rest queued
        cases hnext
        exact ih (h.delivered queued rfl)

/-- **In a rehearsal at most one dwell is still to end**, however far it has come. -/
theorem departures_deliver {η : Type} [Host η] [BinaryLog] {w : Rehearsal η} {run : Run SimulatedRadio η}
    (idle : w.phase = .idle) (quiet : w.radio.pending = []) (accepted : w.startSweep = .ok run) (limit : Nat) :
    ((deliver run.station limit).station.radio.pending.filter Event.isDeparture).length ≤ 1 := by
  have hstarted := (Reachable.fresh idle quiet).started accepted
  obtain ⟨l, hreached⟩ := reachable_deliver hstarted limit
  have hconsistent := Station.consistent_of_reachable hreached
  have hmatched : List.Forall₂ Ticket.Answered l.tickets (deliver run.station limit).station.radio.pending :=
    hconsistent.matched
  rw [← length_departures hmatched]
  exact hconsistent.queued.one

end Rehearsal

end ChannelSurvey

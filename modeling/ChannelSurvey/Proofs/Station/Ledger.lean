import ChannelSurvey.Proofs.Station.Carrying
import Mathlib.Data.List.Forall2

/-!
# Accounting for notifications

A `Queueing` radio keeps its notifications in one queue. A `Ledger` is kept beside it: it numbers the
sweeps, lists the dwells that were accepted, and holds for every queued notification the `Ticket` of the
request it answers. `Reachable` is what starts and deliveries lead to, in any order, with a ledger that is
written from the journals alone.

Nothing is assumed of a radio between two calls but that its queue stays what it is: what it can do, what
it will refuse and what its surveys will say may change at any time, as may the interface and the host.
-/

namespace ChannelSurvey

/-- A radio whose notifications form one queue: an accepted scan queues its end, an accepted dwell the
arrival on the frequency and the departure from it. Dwell times and statuses are whatever they are. -/
class Queueing (ρ : Type) [Radio ρ] where
  /-- Notifications not delivered yet, first one first. -/
  pending : ρ → List Event
  kickoff_accepted (r : ρ) : (Radio.kickoff r).reply = .ok () →
    pending (Radio.kickoff r).radio = pending r ++ [.kickoffComplete]
  kickoff_refused (r : ρ) (why : Refusal) : (Radio.kickoff r).reply = .error why →
    pending (Radio.kickoff r).radio = pending r
  dwell_accepted (r : ρ) (freq dwell : UInt32) : (Radio.goOffChannel r freq dwell).reply = .ok () →
    ∃ t₁ t₂ s₁ s₂, pending (Radio.goOffChannel r freq dwell).radio =
      pending r ++ [.ready freq t₁ s₁, .cancelled freq t₂ s₂]
  dwell_refused (r : ρ) (freq dwell : UInt32) (why : Refusal) :
    (Radio.goOffChannel r freq dwell).reply = .error why →
    pending (Radio.goOffChannel r freq dwell).radio = pending r
  survey_queues_none (r : ρ) (freq : UInt32) : pending (Radio.readTraffic r freq).radio = pending r

/-- A dwell that was accepted: its number among them, the sweep that asked for it, its frequency. -/
structure Dwell where
  serial : Nat
  sweep : Nat
  freq : UInt32
  deriving DecidableEq

/-- What a notification answers. -/
inductive Ticket where
  | kickoff (sweep : Nat)
  | arrival (d : Dwell)
  | departure (d : Dwell)
  deriving DecidableEq

namespace Ticket

/-- The notification has the form this ticket asks for. -/
inductive Answered : Ticket → Event → Prop
  | kickoff {n : Nat} : Answered (.kickoff n) .kickoffComplete
  | arrival {d : Dwell} {t : UInt32} {s : Int32} : Answered (.arrival d) (.ready d.freq t s)
  | departure {d : Dwell} {t : UInt32} {s : Int32} : Answered (.departure d) (.cancelled d.freq t s)

def isDeparture : Ticket → Bool
  | departure _ => true
  | _ => false

end Ticket

/-- What is known of the requests of a station. -/
structure Ledger where
  /-- Sweeps started so far; the current one has this number. -/
  sweep : Nat := 0
  /-- Dwells accepted so far, the latest first. -/
  accepted : List Dwell := []
  /-- What the queued notifications answer. -/
  tickets : List Ticket := []

namespace Ledger

def started (l : Ledger) : Ledger :=
  { l with sweep := l.sweep + 1 }

def delivered (l : Ledger) : Ledger :=
  { l with tickets := l.tickets.tail }

/-- The dwell that is accepted next, on a frequency. -/
def next (l : Ledger) (freq : UInt32) : Dwell :=
  { serial := l.accepted.length, sweep := l.sweep, freq }

def scanned (l : Ledger) : Ledger :=
  { l with tickets := l.tickets ++ [.kickoff l.sweep] }

def dwelt (l : Ledger) (freq : UInt32) : Ledger :=
  { l with
    accepted := l.next freq :: l.accepted
    tickets := l.tickets ++ [.arrival (l.next freq), .departure (l.next freq)] }

/-- Writes down what one entry of a journal says was accepted. -/
def note (l : Ledger) : Entry → Ledger
  | .kickoff (.ok _) => l.scanned
  | .offChannel freq _ (.ok _) => l.dwelt freq
  | _ => l

def noteAll (l : Ledger) (j : Journal) : Ledger :=
  j.foldl note l

/-- Messages leave no trace in a ledger. -/
theorem noteAll_calls (l : Ledger) (j : Journal) : l.noteAll j.calls = l.noteAll j := by
  induction j generalizing l with
  | nil => rfl
  | cons entry rest ih =>
    cases entry with
    | message s => exact ih l
    | _ => exact ih _

end Ledger

/-- The frequencies whose survey counters a journal asks for. -/
def Journal.surveyed (j : Journal) : List UInt32 :=
  j.filterMap fun | .traffic freq _ => some freq | _ => none

theorem Journal.surveyed_calls (j : Journal) : Journal.surveyed j.calls = j.surveyed :=
  filterMap_calls (fun _ => rfl) j

variable {ρ η : Type} [Radio ρ] [Queueing ρ] [Host η] [BinaryLog]

/-- **What starts and deliveries lead to.** A station begins idle with nothing queued. Notifications are
delivered from the head of the queue. Between calls anything but the phase and the queue may change. -/
inductive Reachable : Station ρ η → Ledger → Prop
  | fresh {w : Station ρ η} (idle : w.phase = .idle) (empty : Queueing.pending w.radio = []) :
      Reachable w {}
  | started {w : Station ρ η} {l : Ledger} {run : Run ρ η} (before : Reachable w l)
      (accepted : w.startSweep = .ok run) : Reachable run.station (l.started.noteAll run.journal)
  | delivered {w : Station ρ η} {l : Ledger} {e : Event} {rest : List Event} {radio : ρ}
      (before : Reachable w l) (queued : Queueing.pending w.radio = e :: rest)
      (taken : Queueing.pending radio = rest) :
      Reachable (Station.dispatch { w with radio } e).station
        (l.delivered.noteAll (Station.dispatch { w with radio } e).journal)
  | changed {w : Station ρ η} {l : Ledger} {radio : ρ} {host : η} {iface : Interface}
      (before : Reachable w l) (kept : Queueing.pending radio = Queueing.pending w.radio) :
      Reachable { w with radio, host, iface } l

end ChannelSurvey

import ChannelSurvey.Radio
import ChannelSurvey.Sweep.Step

/-!
# A sweep in its surroundings

A `Station` is a sweep with its interface, its radio and its host. `perform` carries out one action there
and says what answers it, if anything does at once. What happens is written down in a `Journal`, entry by
entry: messages, requests with their replies, verdicts and notifications.
-/

namespace ChannelSurvey

/-- A sweep in its surroundings. -/
structure Station (ρ η : Type) where
  phase : Phase
  iface : Interface
  radio : ρ
  host : η

/-- One thing that happened while actions were carried out. -/
inductive Entry where
  | message (s : Severity)
  | kickoff (reply : Except Refusal Unit)
  | offChannel (freq dwell : UInt32) (reply : Except Refusal Unit)
  | traffic (freq : UInt32) (reply : Except Refusal (List Sample))
  /-- The host judged a selection, seeing this interface. -/
  | judged (i : Interface) (v : Verdict)
  /-- The host was told of a failure, seeing this interface. -/
  | notified (i : Interface) (f : Failure)

abbrev Journal := List Entry

def Journal.log (j : Journal) : List Severity :=
  j.filterMap fun | .message s => some s | _ => none

/-- Messages as journal entries. -/
def logged (log : List Severity) : Journal :=
  log.map .message

/-- A station after a call, with what happened during it. -/
structure Run (ρ η : Type) where
  station : Station ρ η
  journal : Journal

/-- A station after one action: the event that answers it, if any, and what happened. -/
structure Performed (ρ η : Type) where
  station : Station ρ η
  answer : Option Event
  journal : Journal

namespace Station

variable {ρ η : Type}

/-- The station after a step of its sweep. -/
def step (w : Station ρ η) (s : Step) : Station ρ η :=
  { w with phase := s.phase, iface := s.iface }

/-- What is known of the sweep; an idle one counts as in progress. -/
def outcome (w : Station ρ η) : Outcome :=
  w.phase.outcome?.getD .inProgress

variable [Radio ρ] [Host η]

/-- Performs one action. A request that is accepted has no answer yet; a refusal, survey counters and a
verdict come back at once. -/
def perform (w : Station ρ η) : Action → Performed ρ η
  | .requestKickoff =>
    let a := Radio.kickoff w.radio
    { station := { w with radio := a.radio }
      answer := match a.reply with | .ok _ => none | .error r => some (.refused r)
      journal := logged a.log ++ [.kickoff a.reply] }
  | .requestOffChannel freq dwell =>
    let a := Radio.goOffChannel w.radio freq dwell
    { station := { w with radio := a.radio }
      answer := match a.reply with | .ok _ => none | .error r => some (.refused r)
      journal := logged a.log ++ [.offChannel freq dwell a.reply] }
  | .requestTraffic freq =>
    let a := Radio.readTraffic w.radio freq
    { station := { w with radio := a.radio }
      answer := match a.reply with
        | .ok samples => some (.survey freq samples)
        | .error r => some (.refused r)
      journal := logged a.log ++ [.traffic freq a.reply] }
  | .reportSelected _ =>
    let (v, host) := Host.judge w.host w.iface
    { station := { w with host }, answer := some (.verdict v), journal := [.judged w.iface v] }
  | .reportFailed f =>
    { station := { w with host := Host.notify w.host w.iface f }
      answer := none
      journal := [.notified w.iface f] }

end Station

end ChannelSurvey

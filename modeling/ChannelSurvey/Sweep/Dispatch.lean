import ChannelSurvey.Sweep.Rank

/-!
# Carrying a sweep out

`startSweep` begins a sweep at a station and `dispatch` delivers one notification to it. Both carry out the
action that a step asks for and whatever follows from its answer (`execute`), until nothing is left to do.

**Why this ends**: `rank_lt_of_answer`.
-/

namespace ChannelSurvey

namespace Station

variable {ρ η : Type} [Radio ρ] [Host η] [BinaryLog]

/-- Carries out an action and everything that follows from it. -/
def execute (w : Station ρ η) (a : Action) : Run ρ η :=
  let did := w.perform a
  match _ : did.answer with
  | none => { station := did.station, journal := .message .trace :: did.journal }
  | some e =>
    let s := Sweep.handle did.station.phase did.station.iface e
    let journal := .message .trace :: did.journal ++ logged s.log
    match _ : s.action with
    | none => { station := did.station.step s, journal }
    | some next =>
      let rest := execute (did.station.step s) next
      { station := rest.station, journal := journal ++ rest.journal }
termination_by a.rank
decreasing_by exact rank_lt_of_answer ‹_› ‹_›

/-- Takes a step of the sweep and carries out what it asks for. -/
def follow (w : Station ρ η) (s : Step) : Run ρ η :=
  match s.action with
  | none => { station := w.step s, journal := logged s.log }
  | some a =>
    let rest := (w.step s).execute a
    { station := rest.station, journal := logged s.log ++ rest.journal }

/-- Delivers one notification and carries out everything it triggers. -/
def dispatch (w : Station ρ η) (e : Event) : Run ρ η :=
  w.follow (Sweep.handle w.phase w.iface e)

/-- Begins a sweep with what the radio can do now, and carries out its first actions. While a sweep is
running nothing changes. -/
def startSweep (w : Station ρ η) : Except Failure (Run ρ η) :=
  if w.phase.isActive then .error .alreadyRunning
  else
    let i := { w.iface with offChannelCapable := Radio.offChannelCapable w.radio }
    (Sweep.start w.phase i).map w.follow

end Station

end ChannelSurvey

import ChannelSurvey.Sweep.Phase

/-!
# The steps of a sweep

Every step takes the phase and the interface and gives a `Step`: the phase and the interface after it,
the action it asks for, and what it wrote to the log. Nothing here talks to a radio.

* `start` begins a sweep, `handle` feeds it one event.
* `advance` moves the walk to the next enabled channel, `closeRound` ends a round: another round, or the
  selection.
* `fail` is the one way into `failed`. Like the successful end it clears the interface.

**A step asks for at most one action.** An event that arrives in the wrong phase, or for another
frequency than the one the sweep waits for, changes nothing and is logged.
-/

namespace ChannelSurvey

/-- The result of one step of a sweep. -/
structure Step where
  phase : Phase
  iface : Interface
  action : Option Action := none
  log : List Severity := []

namespace Step

/-- The same step with messages logged before its own. -/
def after (s : Step) (log : List Severity) : Step :=
  { s with log := log ++ s.log }

end Step

namespace Sweep

/-- A step that changes nothing. -/
def ignore (p : Phase) (i : Interface) (log : List Severity) : Step :=
  { phase := p, iface := i, log }

/-- Ends the sweep with a failure: the interface is cleared and the service told. -/
def fail (i : Interface) (f : Failure) : Step :=
  { phase := .failed f, iface := i.clear, action := some (.reportFailed f), log := [.error, .debug] }

/-! ## The walk -/

/-- The first enabled channel at or after a position, with its position. -/
def nextEnabled (i : Interface) : Option (Channel × Nat) :=
  (i.channels.zipIdx.drop i.position).find? fun c => !c.1.disabled

/-- Asks for the next enabled channel at or after the position of the walk, or completes the round. A
position past the end of the list fails the sweep. -/
def advance (p : Phase) (i : Interface) : Step :=
  if !p.isActive then ignore p i [.warn]
  else if i.channels.length < i.position then fail i (.unmet .positionInRange)
  else
    match nextEnabled i with
    | some (c, index) =>
      { phase := .scanning index c.freq
        iface := { i with position := index }
        action := some (.requestOffChannel c.freq i.settings.dwell) }
    | none => { phase := .roundComplete, iface := { i with position := i.channels.length } }

/-! ## The end of a round -/

/-- Selects the ideal channel and hands it over. -/
def conclude [BinaryLog] (i : Interface) : Step :=
  if i.surveyed = 0 then fail i .noUsableData
  else
    let choice := i.select
    match choice.ideal.bind choice.iface.selection? with
    | none => (fail choice.iface .noIdealChannel).after choice.log
    | some s =>
      { phase := .awaitingVerdict s
        iface := { choice.iface with operating := some s.number }
        action := some (.reportSelected s)
        log := choice.log ++ [.debug, .info, .debug] }

/-- Starts the walk over for another round. -/
def nextRound (i : Interface) : Step :=
  let s := (advance .roundComplete { i with position := 0 }).after [.debug]
  match s.phase with
  | .roundComplete => (fail s.iface (.unmet .channelEnabled)).after s.log
  | _ => s

/-- Closes a round that is complete: another one while rounds are owed, else the selection. -/
def closeRound [BinaryLog] (p : Phase) (i : Interface) : Step :=
  match p with
  | .roundComplete =>
    let i := { i with roundsDone := i.roundsDone + 1 }
    if i.roundsDone < i.settings.target then nextRound i else conclude i
  | _ => ignore p i [.warn]

/-! ## Events -/

/-- The kick-off scan is over: the walk begins. Without an enabled channel there is nothing to survey. -/
def onKickoffComplete (p : Phase) (i : Interface) : Step :=
  match p with
  | .kickoff =>
    let s := (advance p i.clear).after [.debug]
    match s.phase with
    | .roundComplete => (fail s.iface .noUsableData).after s.log
    | _ => s
  | _ => ignore p i [.warn]

/-- A refused request ends an active sweep. -/
def onRefused (p : Phase) (i : Interface) (r : Refusal) : Step :=
  if p.isActive then fail i (.refused r) else ignore p i []

/-- The radio arrived on a channel. Only a failure status matters. -/
def onReady (p : Phase) (i : Interface) (freq : UInt32) (status : Int32) : Step :=
  if status ≠ 0 then onRefused p i (.offChannelStatus freq status)
  else
    match p with
    | .scanning _ wanted => ignore p i [if wanted = freq then .trace else .warn]
    | _ => ignore p i [.warn]

/-- The radio left the channel: after a completed dwell the survey is due. -/
def onCancelled (p : Phase) (i : Interface) (freq : UInt32) (status : Int32) : Step :=
  if !p.isActive then ignore p i []
  else if status ≠ 0 then fail i (.cancelled freq status)
  else
    match p with
    | .scanning index wanted =>
      if wanted = freq then
        { phase := .surveying index freq, iface := i, action := some (.requestTraffic freq), log := [.trace] }
      else ignore p i [.warn]
    | _ => ignore p i [.warn]

/-- The survey counters arrived: they are stored, and the walk goes on. -/
def onSurvey [BinaryLog] (p : Phase) (i : Interface) (freq : UInt32) (samples : List Sample) : Step :=
  match p with
  | .surveying index wanted =>
    if wanted = freq then
      let stored := i.recordAll index samples
      let remarks := (if samples.isEmpty then [.debug] else []) ++ samples.flatMap (i.recordLog index)
      let s := (advance p { stored with position := index + 1 }).after (remarks ++ [.trace])
      match s.phase with
      | .roundComplete => (closeRound s.phase s.iface).after s.log
      | _ => s
    else ignore p i [.warn]
  | _ => ignore p i [.warn]

/-- The verdict on the selection: acceptance ends the sweep, anything else fails it. -/
def onVerdict (p : Phase) (i : Interface) (v : Verdict) : Step :=
  match p with
  | .awaitingVerdict s =>
    match v with
    | .valid => { phase := .done s, iface := i.clear, log := [.debug] }
    | .invalid => fail i (.rejected s.number .invalid)
    | .inProgress => fail i (.rejected s.number .inProgress)
  | _ => ignore p i [.warn]

/-- Feeds one event to a sweep. Without an active sweep every event is ignored. -/
def handle [BinaryLog] (p : Phase) (i : Interface) (e : Event) : Step :=
  if !p.isActive then ignore p i [.debug]
  else
    match e with
    | .kickoffComplete => onKickoffComplete p i
    | .ready freq _ status => onReady p i freq status
    | .cancelled freq _ status => onCancelled p i freq status
    | .survey freq samples => onSurvey p i freq samples
    | .refused r => onRefused p i r
    | .verdict v => onVerdict p i v

/-! ## Starting -/

/-- Begins a sweep on an interface without survey data. A running sweep is left alone. -/
def start (p : Phase) (i : Interface) : Except Failure Step :=
  if p.isActive then .error .alreadyRunning
  else if i.surveyed ≠ 0 then .ok ((fail i (.unmet .noSurveyData)).after [.info])
  else if !i.offChannelCapable then .ok ((fail i (.unmet .offChannelCapable)).after [.info])
  else
    .ok
      { phase := .kickoff
        iface := i.clear
        action := some .requestKickoff
        log := [.info, .debug] }

/-- What a start that finds a sweep running writes to the log. -/
def alreadyRunningLog : List Severity := [.warn]

end Sweep

end ChannelSurvey

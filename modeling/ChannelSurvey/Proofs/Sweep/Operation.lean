import ChannelSurvey.Sweep.Step

/-!
# Operating a sweep from outside

A `State` is a sweep with the interface it works on, and an `Operation` is anything its surroundings can
ask of it: begin, take an event, run one of the steps that stand open on their own, forget a finished
sweep. `State.afterAll` carries out operations one after the other, in whatever order they come.

The steps that stand open on their own need not be called in turn: the walk can be told to advance while a
survey or a verdict is due, and a round to close that a later call would have closed anyway.
-/

namespace ChannelSurvey.Sweep

/-- A sweep with the interface it works on. -/
structure State where
  phase : Phase
  iface : Interface

/-- What can be asked of a sweep from outside. -/
inductive Operation where
  | start
  | handle (e : Event)
  | ready (freq dwell : UInt32) (status : Int32)
  | cancelled (freq dwell : UInt32) (status : Int32)
  | refused (r : Refusal)
  | advance
  | closeRound
  | reset

/-- A sweep that never ran, on channels without survey data. -/
def State.new (channels : List Channel) (offChannelCapable : Bool) (settings : Settings) : State :=
  { phase := .idle, iface := { channels, offChannelCapable, settings } }

variable [BinaryLog]

/-- The step an operation takes. A start that is refused changes nothing. -/
def Operation.step (x : State) : Operation → Step
  | .start =>
    match Sweep.start x.phase x.iface with
    | .ok s => s
    | .error _ => ignore x.phase x.iface alreadyRunningLog
  | .handle e => Sweep.handle x.phase x.iface e
  | .ready freq _ status => onReady x.phase x.iface freq status
  | .cancelled freq _ status => onCancelled x.phase x.iface freq status
  | .refused r => onRefused x.phase x.iface r
  | .advance => Sweep.advance x.phase x.iface
  | .closeRound => Sweep.closeRound x.phase x.iface
  | .reset => { phase := x.phase.reset, iface := x.iface }

namespace State

def after (x : State) (o : Operation) : State :=
  { phase := (o.step x).phase, iface := (o.step x).iface }

/-- The state after operations, one after the other. -/
def afterAll (x : State) (ops : List Operation) : State :=
  ops.foldl after x

end State

omit [BinaryLog] in
/-- Where an operation counts a round by itself, the count has room for one more. -/
def Operation.hasRoom (x : State) : Operation → Bool
  | .closeRound => x.phase != .roundComplete || x.iface.roundsDone.toNat + 1 < UInt32.size
  | _ => true

/-- Along these operations the count of rounds never wraps. -/
def State.hasRoom (x : State) : List Operation → Bool
  | [] => true
  | o :: rest => o.hasRoom x && (x.after o).hasRoom rest

end ChannelSurvey.Sweep

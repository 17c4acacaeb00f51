import ChannelSurvey.Score

/-!
# Choosing the ideal channel

Every usable channel is scored against the baseline of the sweep, and the lowest score wins. The first
candidate holds the place until a strictly lower score comes, so of equal scores the lower position
wins.

`Interface.assessed` is the interface after the scoring, `Interface.candidates` the scores by position,
and `ideal?` the winner among candidates; `Interface.select` puts the three together.
-/

namespace ChannelSurvey

/-- What a finished sweep settles on. -/
structure Selection where
  number : UInt8
  freq : UInt32
  /-- Mean interference factor when it was selected. -/
  score : Float
  deriving DecidableEq, Inhabited

/-- The winner so far against the next candidate: only a strictly lower score takes over. -/
def better (held : Option (Nat × Float)) (next : Nat × Float) : Option (Nat × Float) :=
  match held with
  | none => some next
  | some (place, best) => if best ≤ next.2 then some (place, best) else some next

/-- The position of the lowest score, the first of equal ones. -/
def ideal? (candidates : List (Nat × Float)) : Option Nat :=
  (candidates.foldl better none).map (·.1)

namespace Interface

variable [BinaryLog]

/-- Every usable channel scored against `baseline`. -/
def assessed (i : Interface) (baseline : Int8) : Interface :=
  { i with channels := i.channels.map fun c => if c.isUsable then c.assess baseline else c }

/-- The usable channels that have a score against `baseline`, by position. -/
def candidates (i : Interface) (baseline : Int8) : List (Nat × Float) :=
  i.channels.zipIdx.filterMap fun (c, index) =>
    if c.isUsable then (c.assessment baseline).map (index, ·) else none

/-- Each usable channel is announced, scored and summed up. -/
def selectLog (i : Interface) : List Severity :=
  i.channels.flatMap fun c => if c.isUsable then .debug :: (c.assessLog ++ [.debug]) else []

/-- The outcome of a selection: the scored interface and the position of the ideal channel. -/
structure Choice where
  iface : Interface
  ideal : Option Nat
  log : List Severity

/-- Scores the usable channels and picks the ideal one. Without any noise floor there is nothing to
score. -/
def select (i : Interface) : Choice :=
  match i.baseline with
  | none => { iface := i, ideal := none, log := [] }
  | some baseline =>
    { iface := i.assessed baseline
      ideal := ideal? (i.candidates baseline)
      log := i.selectLog }

/-- The selection that the channel at `index` stands for, once it has a score. -/
def selection? (i : Interface) (index : Nat) : Option Selection := do
  let c ← i.channels[index]?
  let score ← c.score
  return { number := c.number, freq := c.freq, score }

end Interface

end ChannelSurvey

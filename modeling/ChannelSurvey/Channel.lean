import ChannelSurvey.Sample

/-!
# Channels

A channel has an identity (`number`, `freq`), a flag that keeps it out of every survey, and the survey
data of the current sweep. `clear` drops the survey data and keeps the rest.
-/

namespace ChannelSurvey

/-- One channel the radio can operate on, with what the current sweep knows about it. -/
structure Channel where
  number : UInt8
  /-- Center frequency in MHz. -/
  freq : UInt32
  /-- A disabled channel is never surveyed and never selected. -/
  disabled : Bool := false
  /-- Lowest noise floor among the samples. -/
  quietest : Option Int8 := none
  count : UInt32 := 0
  samples : Array Sample := #[]
  /-- Mean interference factor of the last selection. -/
  score : Option Float := none
  deriving DecidableEq, Inhabited

namespace Channel

/-- A channel takes part in a selection when it is enabled and has data. -/
def isUsable (c : Channel) : Bool :=
  0 < c.count && !c.samples.isEmpty && !c.disabled

def isClean (c : Channel) : Bool :=
  c.samples.isEmpty && c.count == 0 && c.quietest.isNone && c.score.isNone

def clear (c : Channel) : Channel :=
  { c with quietest := none, count := 0, samples := #[], score := none }

/-- Appends a sample and folds its noise floor into the minimum. -/
def record (c : Channel) (s : Sample) : Channel :=
  { c with
    quietest := some (quieter c.quietest s.noise)
    count := c.count + 1
    samples := c.samples.push s }

end Channel

end ChannelSurvey

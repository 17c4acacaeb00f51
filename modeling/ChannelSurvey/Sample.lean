/-!
# Survey samples

A sample is what the radio counted while it dwelt on one channel: how long it stayed, for how long it
sensed the channel busy, how much of that was its own transmission, and the noise floor it read.
-/

namespace ChannelSurvey

/-- One survey measurement. The three times share one unit, and `busy` includes `own`. -/
structure Sample where
  /-- Time spent on the channel. -/
  total : UInt64
  /-- Time the channel was sensed busy. -/
  busy : UInt64
  /-- Time spent transmitting ourselves. -/
  own : UInt64
  /-- Noise floor in dBm. -/
  noise : Int8
  deriving DecidableEq, Repr, Inhabited

/-- A sample is consistent when our own transmissions are part of the busy time and the busy time is
part of the dwell. -/
def Sample.isConsistent (s : Sample) : Bool :=
  s.own ≤ s.busy && s.busy ≤ s.total

/-- A sample is degenerate when no share of foreign traffic can be read off it: no time is left beside
our own transmissions, or more was transmitted than was busy. -/
def Sample.isDegenerate (s : Sample) : Bool :=
  s.total ≤ s.own || s.busy < s.own

/-- The lowest noise floor known once `noise` has been read. -/
def quieter (known : Option Int8) (noise : Int8) : Int8 :=
  match known with
  | some lowest => min lowest noise
  | none => noise

end ChannelSurvey

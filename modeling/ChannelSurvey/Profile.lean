/-!
# Traffic profiles

What a simulated channel is like: which share of a dwell it is busy, how much of that we transmit, how
loud the noise is, and by how much a single sample may deviate.
-/

namespace ChannelSurvey

/-- Traffic conditions on one simulated channel. -/
structure Profile where
  /-- Share of the dwell the channel is sensed busy. -/
  busy : Float := 0.3
  /-- Share of the dwell spent on our own transmissions. -/
  own : Float := 0.0
  /-- Mean noise floor in dBm. -/
  noise : Int8 := -95
  /-- Greatest deviation of the noise floor of a sample, in dB. -/
  noiseJitter : UInt8 := 1
  /-- Greatest deviation of `busy` in a sample. -/
  busyJitter : Float := 0.05
  deriving DecidableEq, Inhabited

/-- The parts of a profile that are shares of a dwell. -/
inductive Share where
  | busy
  | own
  | busyJitter
  deriving DecidableEq, Repr, Inhabited

def Profile.share (p : Profile) : Share → Float
  | .busy => p.busy
  | .own => p.own
  | .busyJitter => p.busyJitter

/-- A share lies between zero and one; a number that is none does not. -/
def isShare (x : Float) : Bool :=
  0.0 ≤ x && x ≤ 1.0

end ChannelSurvey

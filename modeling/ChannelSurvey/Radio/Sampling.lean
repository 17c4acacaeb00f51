import ChannelSurvey.Decimal.Nearest
import ChannelSurvey.Profile
import ChannelSurvey.Random.Deviation
import ChannelSurvey.Sample

/-!
# Drawing a sample from a profile

A sample of a simulated channel is drawn from its profile and a generator: the busy share deviates by
`busyJitter`, the noise floor by `noiseJitter`, and the shares are turned into times of the dwell. A draw
is made only for a jitter that is positive (and finite), the busy share first.

A profile need not be valid. Shares outside their range are clamped; the lower bound of the busy share is
the clamped share of our own transmissions, so a share that is no number leaves no bound to clamp to, and
then there is no sample.
-/

namespace ChannelSurvey

/-- `x` moved between `low` and `high`; none when the bounds are not in order. A number that is none
stays what it is. -/
def clamp? (low high x : Float) : Option Float :=
  if low ≤ high then some (if x < low then low else if high < x then high else x) else none

/-- The lesser of a float and a bound. -/
def atMost (most x : Float) : Float :=
  if x < most then x else most

/-- A noise floor moved into the range of a reading. -/
def clampNoise (dbm : Int) : Int8 :=
  Int8.ofInt (max (-128) (min 127 dbm))

namespace Profile

open ChannelSurvey.Random (Generator)

/-- The busy share of one sample, before clamping. -/
def drawBusy (p : Profile) (g : Generator) : Float × Generator :=
  if p.busyJitter.isFinite && 0 < p.busyJitter then
    let (d, g) := g.realDeviation (atMost 1.0 p.busyJitter)
    (p.busy + d, g)
  else (p.busy, g)

/-- The noise floor of one sample. -/
def drawNoise (p : Profile) (g : Generator) : Int8 × Generator :=
  if 0 < p.noiseJitter then
    let (d, g) := g.wholeDeviation p.noiseJitter.toNat
    (clampNoise (p.noise.toInt + d), g)
  else (p.noise, g)

/-- The time spent on a channel: a thousand counts per millisecond, and at least one millisecond. -/
def dwellTime (dwell : UInt32) : UInt64 :=
  (max dwell 1).toUInt64 * 1000

/-- The part of a time that a share stands for. -/
def timeShare (time : UInt64) (share : Float) : UInt64 :=
  Decimal.nearestCount (time.toFloat * share)

/-- One sample of a dwell. -/
def sample? (p : Profile) (dwell : UInt32) (g : Generator) : Option (Sample × Generator) := do
  let total := dwellTime dwell
  let (drawn, g) := p.drawBusy g
  let own ← clamp? 0.0 1.0 p.own
  let busy ← clamp? own 1.0 drawn
  let (noise, g) := p.drawNoise g
  let busyTime := timeShare total busy
  return ({ total, busy := busyTime, own := min (timeShare total own) busyTime, noise }, g)

end Profile

end ChannelSurvey

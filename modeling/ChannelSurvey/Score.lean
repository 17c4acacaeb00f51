import ChannelSurvey.Interface

/-!
# Interference scores

With `baseline` the lowest noise floor of the whole sweep, a sample's factor is

    log2 ((busy - own) / (total - own) * 2 ^ (noise - baseline))

so each factor counts doublings: of the share of foreign traffic, and of the noise, one per dB. A
channel's score is the mean factor of its samples; lower is better.

Two kinds of samples have no such value. A degenerate one has no factor at all and is left out of the
mean. One without foreign traffic would have `log2 0`, and gets `idleFactor`, below which no factor
falls.

**The logarithm is a parameter** (`BinaryLog`): the machine's logarithm has no equations to reason with,
so a statement about scores says itself what it asks of the logarithm, and all other arithmetic is the
float arithmetic of the language.
-/

namespace ChannelSurvey

class BinaryLog where
  log2 : Float → Float

/-- The least factor a sample can have: a channel without foreign traffic. -/
def idleFactor : Float := -64.0

/-- `2 ^ e` for an exponent of a normal float, put together from its bits. -/
def twoPow (e : Int) : Float :=
  Float.ofBits (UInt64.ofNat ((e + 1023).toNat * 0x10000000000000))

/-- `x`, but not below `least`. A number that is none counts as below. -/
def atLeast (least x : Float) : Float :=
  if least ≤ x then x else least

/-- The sum of `xs`, from the left, over their number; nothing for no numbers. -/
def mean (xs : List Float) : Option Float :=
  if xs.isEmpty then none else some (xs.foldl (· + ·) 0 / xs.length.toUInt64.toFloat)

namespace Sample

/-- The share of foreign traffic in the time we did not transmit, weighted by the noise above
`baseline`. -/
def ratio (s : Sample) (baseline : Int8) : Float :=
  (s.busy - s.own).toFloat / (s.total - s.own).toFloat * twoPow (s.noise.toInt - baseline.toInt)

/-- The interference factor of a sample; none for a degenerate one. -/
def factor [BinaryLog] (s : Sample) (baseline : Int8) : Option Float :=
  if s.isDegenerate then none
  else if s.ratio baseline ≤ 0 then some idleFactor
  else some (atLeast idleFactor (BinaryLog.log2 (s.ratio baseline)))

end Sample

namespace Channel

variable [BinaryLog]

/-- The factors of the samples that have one, in order of arrival. -/
def factors (c : Channel) (baseline : Int8) : List Float :=
  c.samples.toList.filterMap (·.factor baseline)

/-- Scores a channel by the mean of its factors. A channel that is disabled or holds no sample keeps
what it has. -/
def assess (c : Channel) (baseline : Int8) : Channel :=
  if c.samples.isEmpty || c.disabled then c else { c with score := mean (c.factors baseline) }

/-- The score that `assess` arrives at; none when it leaves the channel alone. -/
def assessment (c : Channel) (baseline : Int8) : Option Float :=
  if c.samples.isEmpty || c.disabled then none else mean (c.factors baseline)

/-- Scoring mentions every sample, and warns of the degenerate ones. -/
def assessLog (c : Channel) : List Severity :=
  if c.samples.isEmpty || c.disabled then []
  else c.samples.toList.map fun s => if s.isDegenerate then .warn else .debug

end Channel

/-- The baseline of a sweep: the lowest noise floor among all samples and the one on record. -/
def Interface.baseline (i : Interface) : Option Int8 :=
  ((i.channels.flatMap fun c => c.samples.toList.map (·.noise)) ++ i.quietest.toList).min?

end ChannelSurvey

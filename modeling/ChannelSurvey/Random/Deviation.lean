import ChannelSurvey.Random.Generator

/-!
# Random deviations

Two draws around zero: `realDeviation` a float between `-reach` and `reach`, `wholeDeviation` a whole
number in the same sense. The whole one scales a word to the size of the range and looks at a second word
only when the fraction left over could carry, which makes it almost free of bias.
-/

namespace ChannelSurvey.Random.Generator

/-- A float from `0` up to, not including, `1`: the high bits of a wide word as the fraction of a float
between one and two. -/
def unitFloat (w : UInt64) : Float :=
  Float.ofBits (w >>> 12 ||| 0x3FF0000000000000) - 1.0

/-- A float between `-reach` and `reach`. -/
def realDeviation (g : Generator) (reach : Float) : Float × Generator :=
  let (w, g) := g.wideWord
  (unitFloat w * (reach - -reach) + -reach, g)

/-- A whole number between `-reach` and `reach`. -/
def wholeDeviation (g : Generator) (reach : Nat) : Int × Generator :=
  let size := 2 * reach + 1
  let (x, g) := g.word
  let scaled := x.toNat * size
  let whole := scaled / UInt32.size
  let fraction := scaled % UInt32.size
  if UInt32.size - size < fraction then
    let (y, g) := g.word
    let carry := if UInt32.size ≤ fraction + y.toNat * size / UInt32.size then 1 else 0
    ((whole + carry : Nat) - (reach : Int), g)
  else ((whole : Int) - reach, g)

end ChannelSurvey.Random.Generator

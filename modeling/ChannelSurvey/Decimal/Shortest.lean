/-!
# The shortest decimal that reads back

A float stands for every real number that rounds to it: an interval around `mantissa · 2 ^ exponent`
whose ends belong to it when the mantissa is even. `shortest` gives the decimal `digits · 10 ^ scale`
with the fewest digits inside that interval, and the nearest of those. Two of them can be equally near,
as 2251799813685247.7 and 2251799813685247.8 are to 2251799813685247.75; a `Tie` says which one is taken.

A coarser grid is tried before a finer one. On one grid only the two neighbours of the value need a
look: if any point of the grid lies in the interval, one of these two does. Everything is counted in
quarters of the last binary place, so both ends of the interval are whole numbers.
-/

namespace ChannelSurvey.Decimal

/-- The numbers that round to one float, in quarters of its last place: `4 · mantissa` lies between
`low` and `high`, and the ends count when `closed`. -/
structure Interval where
  low : Nat
  high : Nat
  closed : Bool

/-- Which of two decimals equally near to a value is taken. -/
inductive Tie where
  | upper
  | even
  deriving DecidableEq, Inhabited

/-- Whether the lesser of two decimals equally near is taken, when `below` are its digits. -/
def Tie.takesLower : Tie → Nat → Bool
  | .upper, _ => false
  | .even, below => below % 2 == 0

/-- The least mantissa of a normal float, `2 ^ 52`. -/
def leastNormal : Nat := 0x10000000000000

/-- The interval of `mantissa · 2 ^ exponent`. Below a power of two the floats lie twice as dense, so
the lower end is half as far away, except next to the subnormal numbers. -/
def Interval.around (mantissa : Nat) (exponent : Int) : Interval where
  low := if mantissa = leastNormal ∧ -1074 < exponent then 4 * mantissa - 1 else 4 * mantissa - 2
  high := 4 * mantissa + 2
  closed := mantissa % 2 = 0

/-- A quarter of the last place as a fraction of `10 ^ scale`: `quarter = num / den · 10 ^ scale`. -/
structure Ratio where
  num : Nat
  den : Nat

/-- `2 ^ (exponent - 2)` measured in `10 ^ scale`. -/
def Ratio.ofPlaces (exponent scale : Int) : Ratio where
  num := Nat.pow 2 (exponent - 2).toNat * Nat.pow 10 (-scale).toNat
  den := Nat.pow 2 (2 - exponent).toNat * Nat.pow 10 scale.toNat

/-- Whether `n · 10 ^ scale` lies in the interval. -/
def Interval.holds (i : Interval) (r : Ratio) (n : Nat) : Bool :=
  if i.closed then i.low * r.num ≤ n * r.den && n * r.den ≤ i.high * r.num
  else i.low * r.num < n * r.den && n * r.den < i.high * r.num

/-- The point of one grid that is nearest to the value, if the interval holds any point of it. -/
def onGrid (tie : Tie) (mantissa : Nat) (exponent scale : Int) : Option Nat :=
  let i := Interval.around mantissa exponent
  let r := Ratio.ofPlaces exponent scale
  let value := 4 * mantissa * r.num
  let below := value / r.den
  let rest := value % r.den
  let lowerFirst : Bool := 2 * rest < r.den || (2 * rest == r.den && tie.takesLower below)
  match i.holds r below, i.holds r (below + 1) with
  | true, true => some (if lowerFirst then below else below + 1)
  | true, false => some below
  | false, true => some (below + 1)
  | false, false => none

/-- How many digits stand before the point of `mantissa · 2 ^ exponent`; zero or less for a value
below one. No float is as small as `10 ^ -400`, so `400` more places leave a whole part. -/
def magnitude (mantissa : Nat) (exponent : Int) : Int :=
  let lifted := mantissa * Nat.pow 10 400 * Nat.pow 2 exponent.toNat / Nat.pow 2 (-exponent).toNat
  (Nat.toDigits 10 lifted).length - 400

/-- The first grid with a hit, from `scale` downwards, among `tries` grids. -/
def search (tie : Tie) (mantissa : Nat) (exponent : Int) : Nat → Int → Nat × Int
  | 0, scale => (0, scale)
  | tries + 1, scale =>
    match onGrid tie mantissa exponent scale with
    | some n => (n, scale)
    | none => search tie mantissa exponent tries (scale - 1)

/-- The shortest decimal `digits · 10 ^ scale` that reads back as `mantissa · 2 ^ exponent`. Seventeen
digits always suffice. -/
def shortest (tie : Tie) (mantissa : Nat) (exponent : Int) : Nat × Int :=
  search tie mantissa exponent 17 (magnitude mantissa exponent - 1)

end ChannelSurvey.Decimal

/-!
# Numerals

A numeral is read in two steps: `Numeral.read` splits its text into parts, `Numeral.value?` gives the
number. A numeral with neither a fraction nor an exponent is a whole number while it fits a signed or
unsigned 64-bit word; every other one is a float.

**How a float arises.** The digits are gathered into a significand as long as it fits 64 bits; digits
after that only shift the exponent, or are dropped behind the point. The significand is turned into a
float and then multiplied or divided by a power of ten. This is quick and can be off by a unit in the last
place. Minus zero is a float, because no whole number is minus zero.
-/

namespace ChannelSurvey.Json

inductive Number where
  | integer (n : Int)
  | real (x : Float)
  deriving DecidableEq, Inhabited

/-- The number as a float, the nearest one. -/
def Number.toFloat : Number → Float
  | real x => x
  | integer (.ofNat n) => (UInt64.ofNat n).toFloat
  | integer (.negSucc n) => -(UInt64.ofNat (n + 1)).toFloat

structure Numeral where
  negative : Bool
  /-- Digits before the point. -/
  whole : List Char
  /-- Digits behind the point, if there is one. -/
  fraction : List Char := []
  exponent : Option Int := none
  deriving DecidableEq, Inhabited

/-- The digits a text starts with, and the rest. -/
def spanDigits (cs : List Char) : List Char × List Char :=
  (cs.takeWhile Char.isDigit, cs.dropWhile Char.isDigit)

namespace Numeral

/-- The digits of a whole part: at least one, and no zero before others. -/
def readWhole (cs : List Char) : Option (List Char × List Char) :=
  match spanDigits cs with
  | ([], _) => none
  | ('0' :: _ :: _, _) => none
  | (digits, rest) => some (digits, rest)

/-- A point and at least one digit, or nothing. -/
def readFraction (cs : List Char) : Option (List Char × List Char) :=
  match cs with
  | '.' :: cs =>
    match spanDigits cs with
    | ([], _) => none
    | (digits, rest) => some (digits, rest)
  | cs => some ([], cs)

/-- At least one digit of an exponent with a given sign. -/
def readPower (sign : Int) (cs : List Char) : Option (Option Int × List Char) :=
  match spanDigits cs with
  | ([], _) => none
  | (digits, rest) => some (some (sign * Nat.ofDigitChars 10 digits 0), rest)

/-- An exponent, or nothing. -/
def readExponent (cs : List Char) : Option (Option Int × List Char) :=
  match cs with
  | 'e' :: '+' :: cs | 'E' :: '+' :: cs => readPower 1 cs
  | 'e' :: '-' :: cs | 'E' :: '-' :: cs => readPower (-1) cs
  | 'e' :: cs | 'E' :: cs => readPower 1 cs
  | cs => some (none, cs)

/-- Reads a numeral behind its sign. -/
def readUnsigned (negative : Bool) (cs : List Char) : Option (Numeral × List Char) := do
  let (whole, cs) ← readWhole cs
  let (fraction, cs) ← readFraction cs
  let (exponent, cs) ← readExponent cs
  return ({ negative, whole, fraction, exponent }, cs)

def read (cs : List Char) : Option (Numeral × List Char) :=
  match cs with
  | '-' :: cs => readUnsigned true cs
  | cs => readUnsigned false cs

/-! ## The number of a numeral -/

/-- Appends digits to a significand while it fits 64 bits; the digits left over follow. -/
def gather (n : Nat) : List Char → Nat × List Char
  | [] => (n, [])
  | d :: ds =>
    let m := 10 * n + (d.toNat - '0'.toNat)
    if m < UInt64.size then gather m ds else (n, d :: ds)

/-- `10 ^ k` as a float. -/
def powerOfTen (k : Nat) : Float :=
  Float.ofScientific 1 false k

/-- `x · 10 ^ e`, in steps where the power is no float; none when the result is too large. -/
def scale? (x : Float) (e : Int) : Option Float :=
  if e.natAbs ≤ 308 then
    if 0 ≤ e then
      let y := x * powerOfTen e.natAbs
      if y.isInf then none else some y
    else some (x / powerOfTen e.natAbs)
  else if x == 0 then some x
  else if 0 ≤ e then none
  else scale? (x / powerOfTen 308) (e + 308)
termination_by (-e).toNat

/-- The float of a numeral, without its sign; none beyond the range of floats. -/
def magnitude? (n : Numeral) : Option Float :=
  let (significand, surplus) := gather 0 n.whole
  let (significand, dropped) := gather significand n.fraction
  let places := n.fraction.length - dropped.length
  scale? (UInt64.ofNat significand).toFloat ((n.exponent.getD 0) + surplus.length - places)

/-- The number of a numeral; none for a float beyond the range. -/
def value? (n : Numeral) : Option Number :=
  let (whole, surplus) := gather 0 n.whole
  let isWhole := n.fraction.isEmpty && n.exponent.isNone && surplus.isEmpty
  if isWhole && !n.negative then some (.integer whole)
  else if isWhole && whole != 0 && whole ≤ UInt64.size / 2 then some (.integer (-(whole : Int)))
  else n.magnitude?.map fun x => .real (if n.negative then -x else x)

end Numeral

def readNumber (cs : List Char) : Option (Number × List Char) := do
  let (numeral, rest) ← Numeral.read cs
  let number ← numeral.value?
  return (number, rest)

end ChannelSurvey.Json

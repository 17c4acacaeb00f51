import ChannelSurvey.Decimal.Rounding

/-!
# Decimals with a fixed number of places

`fixed style places x` writes the exact value of a float rounded to `places` decimals, a half going
to the even digit. A float is `± mantissa · 2 ^ exponent`, so the rounding is done on whole numbers
(`units`) and nothing is lost on the way.

**What a style decides** is the sign of a negative value that rounds to zero: a `FixedStyle` either
keeps it (`-0.000000`) or drops it.
-/

namespace ChannelSurvey.Decimal

open Float.Model (UnpackedFloat)

/-- What a fixed-place text leaves open. -/
structure FixedStyle where
  /-- Whether a negative value that rounds to zero keeps its sign. -/
  signedZero : Bool

/-- Tables and single figures keep the sign of whatever was rounded. -/
def FixedStyle.printed : FixedStyle := ⟨true⟩

/-- Recorded figures write every zero alike. -/
def FixedStyle.recorded : FixedStyle := ⟨false⟩

/-- `mantissa · 2 ^ exponent` in units of `10 ^ -places`, rounded. -/
def units (places mantissa : Nat) : Int → Nat
  | .ofNat up => mantissa * Nat.pow 10 places * Nat.pow 2 up
  | .negSucc down => roundDiv (mantissa * Nat.pow 10 places) (Nat.pow 2 (down + 1))

/-- `n` units of `10 ^ -places`: the whole part, a point, and exactly `places` digits. -/
def pointed (places n : Nat) : String :=
  let fraction := toString (n % Nat.pow 10 places)
  let zeros := String.ofList (List.replicate (places - fraction.length) '0')
  toString (n / Nat.pow 10 places) ++ "." ++ zeros ++ fraction

/-- The sign in front of `n` units. -/
def FixedStyle.mark (style : FixedStyle) (sign : UnpackedFloat.Sign) (n : Nat) : String :=
  match sign with
  | .positive => ""
  | .negative => if n = 0 ∧ !style.signedZero then "" else "-"

/-- The value of `x` with exactly `places` decimals. -/
def fixed (style : FixedStyle) (places : Nat) (x : Float) : String :=
  match x.toModel.unpack with
  | .notANumber => "NaN"
  | .infinity .positive => "inf"
  | .infinity .negative => "-inf"
  | .zero sign => style.mark sign 0 ++ pointed places 0
  | .finite sign mantissa exponent _ =>
    let n := units places mantissa exponent
    style.mark sign n ++ pointed places n

end ChannelSurvey.Decimal

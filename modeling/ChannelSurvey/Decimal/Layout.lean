import ChannelSurvey.Decimal.Shortest

/-!
# Laying out a shortest decimal

The digits of a float are one matter (`shortest`), their layout another: where positional notation
ends, whether a whole number keeps `.0`, which of two last digits is set when both are equally near. A
`Layout` holds those decisions. Two are in use: `plain`, which is always positional, and `document`, which
JSON documents and complaints about them use.
-/

namespace ChannelSurvey.Decimal

open Float.Model (UnpackedFloat)

/-- How the digits of a float are set. -/
structure Layout where
  /-- Whether a value whose first digit counts `10 ^ power` is written without an exponent. -/
  positional : Int → Bool
  /-- What follows a whole number. -/
  whole : String
  /-- Which of two shortest decimals equally near is set. -/
  tie : Tie

/-- Always positional; a whole number has no point: `0.00001`, `100000000000000000000`, `3`. -/
def Layout.plain : Layout := ⟨fun _ => true, "", .upper⟩

/-- Positional from `0.00001` up to sixteen digits before the point, with an exponent beyond; a whole
number keeps `.0`: `1.5`, `3.0`, `1e+20`, `2.5e-7`. -/
def Layout.document : Layout := ⟨fun power => -5 ≤ power ∧ power ≤ 15, ".0", .even⟩

/-- Digits without the zeros at their end, and how many zeros went. -/
def trimZeros (digits : List Char) : List Char × Nat :=
  let zeros := (digits.reverse.takeWhile (· = '0')).length
  (digits.take (digits.length - zeros), zeros)

/-- `digits · 10 ^ scale` without an exponent. -/
def Layout.positionally (layout : Layout) (digits : List Char) (scale : Int) : String :=
  let point := digits.length + scale
  if 0 ≤ scale then
    String.ofList (digits ++ List.replicate scale.toNat '0') ++ layout.whole
  else if 0 < point then
    String.ofList (digits.take point.toNat) ++ "." ++ String.ofList (digits.drop point.toNat)
  else
    "0." ++ String.ofList (List.replicate (-point).toNat '0' ++ digits)

/-- `digits · 10 ^ scale` with one digit before the point and a signed exponent. -/
def scientifically (digits : List Char) (scale : Int) : String :=
  let power := digits.length + scale - 1
  let head := String.ofList (digits.take 1)
  let tail := digits.drop 1
  head ++ (if tail.isEmpty then "" else "." ++ String.ofList tail) ++ "e"
    ++ (if 0 ≤ power then "+" else "-") ++ toString power.natAbs

/-- A positive float's text. -/
def Layout.magnitude (layout : Layout) (mantissa : Nat) (exponent : Int) : String :=
  let (n, scale) := shortest layout.tie mantissa exponent
  let (digits, zeros) := trimZeros (Nat.toDigits 10 n)
  let scale := scale + zeros
  if layout.positional (digits.length + scale - 1) then layout.positionally digits scale
  else scientifically digits scale

/-- The sign of a float's text. -/
def signText : UnpackedFloat.Sign → String
  | .positive => ""
  | .negative => "-"

/-- The shortest text that reads back as `x`. -/
def Layout.render (layout : Layout) (x : Float) : String :=
  match x.toModel.unpack with
  | .notANumber => "NaN"
  | .infinity sign => signText sign ++ "inf"
  | .zero sign => signText sign ++ "0" ++ layout.whole
  | .finite sign mantissa exponent _ => signText sign ++ layout.magnitude mantissa exponent

end ChannelSurvey.Decimal

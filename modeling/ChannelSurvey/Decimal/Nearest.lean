/-!
# The nearest counter value

`nearestCount x` is the whole number nearest to a float, a half going up, as a 64-bit counter: negative
values and numbers that are none give zero, values too large the largest counter.
-/

namespace ChannelSurvey.Decimal

/-- The whole number nearest to `mantissa · 2 ^ exponent`; a half goes up. -/
def nearestNat (mantissa : Nat) : Int → Nat
  | .ofNat up => mantissa * Nat.pow 2 up
  | .negSucc down => (mantissa + Nat.pow 2 down) / Nat.pow 2 (down + 1)

/-- The counter value nearest to a float. -/
def nearestCount (x : Float) : UInt64 :=
  match x.toModel.unpack with
  | .finite .positive mantissa exponent _ => UInt64.ofNat (min (nearestNat mantissa exponent) (UInt64.size - 1))
  | .infinity .positive => UInt64.ofNat (UInt64.size - 1)
  | .finite .negative .. | .infinity .negative | .zero _ | .notANumber => 0

end ChannelSurvey.Decimal

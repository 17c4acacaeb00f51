/-!
# Rounding a quotient to a whole number

`roundDiv num den` is the whole number nearest to `num / den`, a half going to the even neighbour.
Every decimal this library writes with a fixed number of places goes through it.

**The law** (`roundDiv_mono`): a greater number is not rounded to less. A whole quotient is left as it is
(`roundDiv_mul`), and a common factor changes nothing (`roundDiv_mul_mul`).
-/

namespace ChannelSurvey.Decimal

/-- The whole number nearest to `num / den`; a half goes to the even neighbour. -/
def roundDiv (num den : Nat) : Nat :=
  let quotient := num / den
  let rest := num % den
  if 2 * rest < den ∨ (2 * rest = den ∧ quotient % 2 = 0) then quotient else quotient + 1

/-- A greater number is not rounded to less. -/
theorem roundDiv_mono {num num' : Nat} (h : num ≤ num') (den : Nat) : roundDiv num den ≤ roundDiv num' den := by
  have hquotient : num / den ≤ num' / den := Nat.div_le_div_right h
  have hsplit := Nat.div_add_mod num den
  have hsplit' := Nat.div_add_mod num' den
  unfold roundDiv
  simp only
  rcases Nat.lt_or_eq_of_le hquotient with hlt | heq
  · split <;> split <;> omega
  · -- with equal quotients the rests are in order
    rw [← heq] at hsplit' ⊢
    split <;> split <;> omega

/-- A whole quotient is left as it is. -/
theorem roundDiv_mul (quotient : Nat) {den : Nat} (h : 0 < den) : roundDiv (quotient * den) den = quotient := by
  unfold roundDiv
  simp only
  rw [Nat.mul_mod_left, Nat.mul_div_cancel quotient h, if_pos (Or.inl (by omega))]

/-- A common factor changes nothing. -/
theorem roundDiv_mul_mul (num den : Nat) {c : Nat} (h : 0 < c) : roundDiv (num * c) (den * c) = roundDiv num den := by
  have hrest : num * c % (den * c) = num % den * c := Nat.mul_mod_mul_right ..
  have hquotient : num * c / (den * c) = num / den := Nat.mul_div_mul_right _ _ h
  have hdouble : 2 * (num % den * c) = 2 * (num % den) * c := by ac_rfl
  simp only [roundDiv, hrest, hquotient, hdouble, Nat.mul_lt_mul_right h, Nat.mul_left_inj (Nat.ne_of_gt h)]

end ChannelSurvey.Decimal

import ChannelSurvey.Score
import Mathlib.Data.Prod.Lex

/-!
# The order of scores

Floats that are numbers are ordered by where they lie on the line. `place` says where: first by sign and
kind, then by exponent, then by mantissa, the last two counted the other way for negative numbers.

**The laws** (`le_iff_place`, `lt_iff_place`): of two numbers, one is at most the other exactly when its
place is. So numbers are totally ordered. A comparison with something that is no number says nothing.
-/

namespace ChannelSurvey

open Float.Model (UnpackedFloat)

/-- The place of a float on the line, from its parts. What is no number is put at zero. -/
def unpackedPlace : UnpackedFloat → Int ×ₗ Int ×ₗ Int
  | .infinity .negative => toLex (-2, toLex (0, 0))
  | .finite .negative m e _ => toLex (-1, toLex (-e, -m))
  | .zero _ | .notANumber => toLex (0, toLex (0, 0))
  | .finite .positive m e _ => toLex (1, toLex (e, m))
  | .infinity .positive => toLex (2, toLex (0, 0))

def place (x : Float) : Int ×ₗ Int ×ₗ Int :=
  unpackedPlace x.toModel.unpack

/-- Negation turns the order of the whole numbers around. -/
theorem compare_neg (a b : Int) : compare (-a) (-b) = (compare a b).swap := by
  rw [Int.compare_swap]
  rcases Int.lt_trichotomy a b with h | rfl | h
  · rw [compare_gt_iff_gt.mpr h, compare_gt_iff_gt.mpr (Int.neg_lt_neg h)]
  · rw [Std.ReflOrd.compare_self, Std.ReflOrd.compare_self]
  · rw [compare_lt_iff_lt.mpr h, compare_lt_iff_lt.mpr (Int.neg_lt_neg h)]

theorem compare_natCast (m n : Nat) : compare (m : Int) (n : Int) = compare m n := by
  rcases Nat.lt_trichotomy m n with h | rfl | h
  · rw [compare_lt_iff_lt.mpr h, compare_lt_iff_lt.mpr (Int.ofNat_lt.mpr h)]
  · rw [Std.ReflOrd.compare_self, Std.ReflOrd.compare_self]
  · rw [compare_gt_iff_gt.mpr h, compare_gt_iff_gt.mpr (Int.ofNat_lt.mpr h)]

/-- Numbers compare as their places do. -/
theorem compare_unpackedPlace {a b : UnpackedFloat} (ha : a.isNaN = false) (hb : b.isNaN = false) :
    a.compare b = some (compare (unpackedPlace a) (unpackedPlace b)) := by
  cases a with
  | notANumber => cases ha
  | infinity s =>
    cases b with
    | notANumber => cases hb
    | infinity t => cases s <;> cases t <;> rfl
    | zero t => cases s <;> rfl
    | finite t m e pos => cases s <;> cases t <;> rfl
  | zero s =>
    cases b with
    | notANumber => cases hb
    | infinity t => cases t <;> rfl
    | zero t => rfl
    | finite t m e pos => cases t <;> rfl
  | finite s m₁ e₁ pos₁ =>
    cases b with
    | notANumber => cases hb
    | infinity t => cases s <;> cases t <;> rfl
    | zero t => cases s <;> rfl
    | finite t m₂ e₂ pos₂ =>
      cases s <;> cases t
      · show some ((compare e₁ e₂).then (compare m₁ m₂)).swap =
          some ((compare (-e₁) (-e₂)).then (compare (-m₁ : Int) (-m₂)))
        rw [Ordering.swap_then, compare_neg, compare_neg, compare_natCast]
      · rfl
      · rfl
      · show some ((compare e₁ e₂).then (compare m₁ m₂)) =
          some ((compare e₁ e₂).then (compare (m₁ : Int) m₂))
        rw [compare_natCast]

variable {x y z : Float}

/-- **Of two numbers, one is at most the other** exactly when its place is. -/
theorem le_iff_place (hx : x.isNaN = false) (hy : y.isNaN = false) : x ≤ y ↔ place x ≤ place y := by
  have hle : x ≤ y ↔ (x.toModel.unpack.compare y.toModel.unpack).any (·.isLE) = true := decide_eq_true_iff
  rw [hle, compare_unpackedPlace hx hy, Option.any_some, Ordering.isLE_iff_ne_gt]
  exact compare_le_iff_le

/-- One number is below another just when its place is. -/
theorem lt_iff_place (hx : x.isNaN = false) (hy : y.isNaN = false) : x < y ↔ place x < place y := by
  have hlt : x < y ↔ (x.toModel.unpack.compare y.toModel.unpack == some .lt) = true := decide_eq_true_iff
  rw [hlt, compare_unpackedPlace hx hy, beq_iff_eq, Option.some_inj]
  exact compare_lt_iff_lt

/-- What can be compared is a number. -/
theorem numbers_of_compare {a b : UnpackedFloat} {o : Ordering} (h : a.compare b = some o) :
    a.isNaN = false ∧ b.isNaN = false := by
  cases a with
  | notANumber => cases h
  | _ =>
    cases b with
    | notANumber => cases h
    | _ => exact ⟨rfl, rfl⟩

/-- Only numbers compare: what stands in the order is no NaN. -/
theorem numbers_of_le (h : x ≤ y) : x.isNaN = false ∧ y.isNaN = false := by
  have hcompare : (x.toModel.unpack.compare y.toModel.unpack).any (·.isLE) = true := of_decide_eq_true h
  obtain ⟨o, ho, -⟩ := (Option.any_eq_true ..).mp hcompare
  exact numbers_of_compare ho

/-- The same for the strict order. -/
theorem numbers_of_lt (h : x < y) : x.isNaN = false ∧ y.isNaN = false := by
  have hcompare : (x.toModel.unpack.compare y.toModel.unpack == some .lt) = true := of_decide_eq_true h
  exact numbers_of_compare (beq_iff_eq.mp hcompare)

/-- The order of the numbers is transitive. -/
theorem number_le_trans (hxy : x ≤ y) (hyz : y ≤ z) : x ≤ z := by
  obtain ⟨hx, hy⟩ := numbers_of_le hxy
  have hz := (numbers_of_le hyz).2
  exact (le_iff_place hx hz).mpr (((le_iff_place hx hy).mp hxy).trans ((le_iff_place hy hz).mp hyz))

/-- A number stands in the order to itself, which a NaN does not. -/
theorem number_le_refl (hx : x.isNaN = false) : x ≤ x :=
  (le_iff_place hx hx).mpr le_rfl

/-- Of two numbers, one is at most the other or lies above it. -/
theorem number_lt_of_not_le (hx : x.isNaN = false) (hy : y.isNaN = false) (h : ¬ x ≤ y) : y < x := by
  rw [le_iff_place hx hy] at h
  exact (lt_iff_place hy hx).mpr (not_le.mp h)

/-- Any two numbers compare. -/
theorem number_le_of_not_lt (hx : x.isNaN = false) (hy : y.isNaN = false) (h : ¬ x < y) : y ≤ x := by
  rw [lt_iff_place hx hy] at h
  exact (le_iff_place hy hx).mpr (not_lt.mp h)

/-- What is at most another number is not above it. -/
theorem number_not_lt_of_le (h : x ≤ y) : ¬ y < x := by
  obtain ⟨hx, hy⟩ := numbers_of_le h
  rw [lt_iff_place hy hx]
  exact not_lt.mpr ((le_iff_place hx hy).mp h)

theorem number_le_of_lt (hx : x.isNaN = false) (hy : y.isNaN = false) (h : x < y) : x ≤ y :=
  (le_iff_place hx hy).mpr ((lt_iff_place hx hy).mp h).le

/-- The strict order carries over to what is above. -/
theorem number_lt_of_lt_of_le (hx : x.isNaN = false) (hy : y.isNaN = false) (hz : z.isNaN = false)
    (hxy : x < y) (hyz : y ≤ z) : x < z :=
  (lt_iff_place hx hz).mpr (((lt_iff_place hx hy).mp hxy).trans_le ((le_iff_place hy hz).mp hyz))

end ChannelSurvey

import ChannelSurvey.Proofs.Binary.Rounding

/-!
# Floats come back from their bits as they were

The result of an operation is packed into 64 bits and unpacked by the next one. A number that is kept
canonically, and is not too large, is the same afterwards.

**The law** (`unpack_pack`): packing and then unpacking a bounded number gives it back. So the bounds of
`Binary.Rounding` hold of the operations on floats (`Small.add`, `Small.sub`, `Small.mul`), and what is
unpacked from any bits is canonical (`canonical_unpack`).
-/

namespace ChannelSurvey.Binary

open Float.Model (Format UnpackedFloat)
open Float.Model.UnpackedFloat

variable {m : Nat} {e : Int}

/-! ## Components -/

/-- The digits with the leading one put back. -/
theorem toNat_implicit (f : BitVec 52) : (1#1 ++ f).toNat = 2 ^ 52 + f.toNat := by
  rw [BitVec.toNat_append, ← Nat.shiftLeft_add_eq_or_of_lt f.isLt]
  rfl

/-- Finite numbers of equal mantissas and exponents are equal, whatever the proofs of positivity. -/
theorem finite_congr {s : Sign} {m m' : Nat} {e e' : Int} {pos : 0 < m} {pos' : 0 < m'} (hm : m = m')
    (he : e = e') : UnpackedFloat.finite s m e pos = .finite s m' e' pos' := by
  subst hm he
  rfl

/-- Unpacking the packed parts of a number that is finite gives them back, with the hidden digit put in front of the
fraction of a normal one. -/
theorem unpack_packComponents (s : Sign) (biased : BitVec 11) (f : BitVec 52) (below : biased ≠ -1#11) :
    unpack Format.binary64 (packComponents Format.binary64 s biased f) =
      if biased = 0#11 then
        if h : f = 0#52 then .zero s
        else .finite s f.toNat (-1074) (Nat.pos_of_ne_zero fun none => h (BitVec.toNat_inj.mp none))
      else
        .finite s (2 ^ 52 + f.toNat) (biased.toNat - 1075)
          (Nat.lt_of_lt_of_le (Nat.two_pow_pos 52) (Nat.le_add_right _ _)) := by
  unfold unpack
  simp only [unpackMantissa_packComponents, unpackExponent_packComponents, unpackSign_packComponents,
    Sign.ofBitVec_toBitVec, if_neg below]
  split
  · rename_i hzero
    split
    · rfl
    · refine finite_congr rfl ?_
      rw [hzero]
      rfl
  · exact finite_congr (toNat_implicit f) rfl

/-- A whole number that fits its bits. -/
theorem toNat_ofNat_of_lt {w n : Nat} (h : n < 2 ^ w) : (BitVec.ofNat w n).toNat = n := by
  rw [BitVec.toNat_ofNat, Nat.mod_eq_of_lt h]

/-! ## Packing and unpacking -/

/-- **A bounded number comes back as it was.** -/
theorem unpack_pack {u : UnpackedFloat} (h : Bounded 971 u) :
    unpack Format.binary64 (pack Format.binary64 u) = u := by
  cases u with
  | notANumber | infinity _ => cases h
  | zero s => exact unpack_packedZero
  | finite s m e pos =>
    obtain ⟨⟨fits, bottom, full⟩, top⟩ := h
    let biased := (e + ((2 ^ 10 - 1 : Nat) : Int) + ((52 : Nat) : Int)).toNat
    have hbiased : (biased : Int) = e + 1075 := by omega
    have hpack : pack Format.binary64 (.finite s m e pos) =
        if 2 ^ 11 ≤ biased + 1 then packedInfinity Format.binary64 s
        else if m.log2 + 1 = 53 then packComponents Format.binary64 s (BitVec.ofNat 11 biased) (BitVec.ofNat 52 m)
        else packComponents Format.binary64 s 0#11 (BitVec.ofNat 52 m) := rfl
    rw [hpack, if_neg (by omega)]
    split
    · rename_i hlog
      have hfull : 2 ^ 52 ≤ m := (Nat.le_log2 (Nat.ne_of_gt pos)).mp (by omega)
      have hexponent : (BitVec.ofNat 11 biased).toNat = biased := toNat_ofNat_of_lt (by omega)
      have hdigits : (BitVec.ofNat 52 m).toNat = m - 2 ^ 52 := by
        rw [BitVec.toNat_ofNat]
        omega
      have hbelow : BitVec.ofNat 11 biased ≠ -1#11 := BitVec.toNat_ne.mpr (by
        show _ ≠ 2047
        omega)
      have hsome : BitVec.ofNat 11 biased ≠ 0#11 := BitVec.toNat_ne.mpr (by
        show _ ≠ 0
        omega)
      rw [unpack_packComponents s _ _ hbelow, if_neg hsome]
      exact finite_congr (by omega) (by omega)
    · -- fewer digits than 53 stand at the least exponent only
      rename_i hlog
      have hlog' : m.log2 < 53 := (Nat.log2_lt (Nat.ne_of_gt pos)).mpr fits
      have hshort : m < 2 ^ 52 := (Nat.log2_lt (Nat.ne_of_gt pos)).mp (by omega)
      have hdigits : (BitVec.ofNat 52 m).toNat = m := toNat_ofNat_of_lt hshort
      have hsome : BitVec.ofNat 52 m ≠ 0#52 := BitVec.toNat_ne.mpr (by
        show _ ≠ 0
        omega)
      rw [unpack_packComponents s _ _ (by decide), if_pos rfl, dif_neg hsome]
      exact finite_congr hdigits (by omega)

/-- What the bits of a number stand for. -/
theorem bounded_unpack {w : BitVec 64} {b : Int} (below : @unpackExponent Format.binary64 w ≠ -1#11)
    (bottom : -1074 ≤ b) (top : (@unpackExponent Format.binary64 w).toNat - 1075 ≤ b) :
    Bounded b (unpack Format.binary64 w) := by
  have hbias : ((Format.binary64.exponentBias : Int) + (52 : Nat)) = 1075 := by decide
  have hdigits : (@unpackMantissa Format.binary64 w).toNat < 2 ^ 52 := BitVec.isLt _
  unfold unpack
  simp only
  rw [if_neg below]
  split
  · rename_i hzero
    split
    · trivial
    · have hexponent : (@unpackExponent Format.binary64 w).toNat = 0 := by
        rw [hzero]
        rfl
      exact ⟨⟨by omega, by omega, .inr (by omega)⟩, by omega⟩
  · rename_i hsome
    have hexponent : (@unpackExponent Format.binary64 w).toNat ≠ 0 := fun none =>
      hsome (BitVec.toNat_inj.mp none)
    have hmantissa : (1#1 ++ @unpackMantissa Format.binary64 w).toNat = _ := toNat_implicit _
    exact ⟨⟨by omega, by omega, .inl (by omega)⟩, by omega⟩

/-- Whatever is unpacked is canonical. -/
theorem canonical_unpack {w : BitVec 64} {s : Sign} {pos : 0 < m}
    (h : unpack Format.binary64 w = .finite s m e pos) : Canonical m e := by
  by_cases habove : @unpackExponent Format.binary64 w = -1#11
  · unfold unpack at h
    simp only at h
    rw [if_pos habove] at h
    split at h <;> cases h
  · have hbounded := bounded_unpack habove (Int.le_max_right ..) (Int.le_max_left _ (-1074))
    rw [h] at hbounded
    exact hbounded.1

/-! ## Floats -/

/-- A float less than `2 ^ (53 + b)` on either side of zero. -/
def Small (b : Int) (x : Float) : Prop :=
  Bounded b x.toModel.unpack

section

variable {a b c : Int} {x y : Float}

theorem Small.number (h : Small b x) : x.isNaN = false :=
  Bounded.number h

/-- A small number is finite. -/
theorem Small.isFinite (h : Small b x) : x.isFinite = true := by
  show x.toModel.unpack.isFinite = true
  unfold Small at h
  generalize x.toModel.unpack = u at h
  cases u with
  | notANumber | infinity _ => cases h
  | zero _ | finite _ _ _ _ => rfl

/-- A float made of a bounded number is that number. -/
theorem unpack_of_pack {u : UnpackedFloat} (made : x.toModel = Float.Model.pack u) (h : Bounded b u)
    (top : b ≤ 971) : x.toModel.unpack = u :=
  (congrArg Float.Model.unpack made).trans (unpack_pack (h.mono top))

/-- What is packed from a bounded number is small. -/
theorem small_of_pack {u : UnpackedFloat} (made : x.toModel = Float.Model.pack u) (h : Bounded b u)
    (top : b ≤ 971) : Small b x := by
  rw [Small, unpack_of_pack made h top]
  exact h

/-- A sum of small numbers is small: two more binary digits cover the carry and the rounding. -/
theorem Small.add (hx : Small b x) (hy : Small b y) (top : b + 2 ≤ 971) : Small (b + 2) (x + y) :=
  small_of_pack rfl (add_bounded hx hy) top

/-- So is a difference. -/
theorem Small.sub (hx : Small b x) (hy : Small b y) (top : b + 2 ≤ 971) : Small (b + 2) (x - y) :=
  small_of_pack rfl (sub_bounded hx hy) top

/-- A sign changes no size. -/
theorem Small.neg (h : Small b x) (top : b ≤ 971) : Small b (-x) :=
  small_of_pack rfl (neg_bounded h) top

/-- A product has the exponents of its factors and their digits together. -/
theorem Small.mul (hx : Small a x) (hy : Small b y) (le : a + b + 54 ≤ c) (above : -1074 < c) (top : c ≤ 971) :
    Small c (x * y) :=
  small_of_pack rfl (mul_bounded hx hy le above) top

/-- A bound may be widened. -/
theorem Small.mono (h : Small a x) (le : a ≤ b) : Small b x :=
  Bounded.mono h le

end

theorem unpack_zero : (0.0 : Float).toModel.unpack = .zero .positive :=
  rfl

theorem unpack_one : (1.0 : Float).toModel.unpack = .finite .positive (2 ^ 52) (-52) (Nat.two_pow_pos 52) :=
  rfl

end ChannelSurvey.Binary

import ChannelSurvey.Json.Reader
import ChannelSurvey.Json.Value
import ChannelSurvey.Proofs.Json.Passing

/-!
# What is written is read back

A reader recovers a value from a text (`Recovers`) if it gets it from there whatever blanks stand before the text and
whatever stands behind it that does not belong to it. Whole numbers and truth values are recovered from the texts
they are written as.

**Whole numbers** (`readNumber_integerText`). The digits of a number are the ones it is written with, without a zero
before others, and gathering them gives the number as long as it fits 64 bits. A negative number is one again
because it is not zero and its digits fit 63.
-/

namespace ChannelSurvey.Json

variable {rest : List Char}

/-- The reader gets the value from the text. -/
def Recovers {α : Type} (reader : Reader α) (text : List Char) (a : α) : Prop :=
  ∀ b rest, Blanks b → Parted rest → reader (b ++ (text ++ rest)) = .ok (a, rest)

/-! ## Digits -/

/-- Only zero is written with a zero in front. -/
theorem head_toDigits (n : Nat) (h : (Nat.toDigits 10 n).head? = some '0') : n = 0 := by
  induction n using Nat.strongRecOn with
  | ind n ih =>
    rw [Nat.toDigits_eq_if (by decide)] at h
    split at h
    · have hdigit : ∀ m < 10, m.digitChar = '0' → m = 0 := by decide
      exact hdigit n ‹n < 10› (Option.some.inj h)
    · rw [List.head?_append, List.head?_eq_some_head Nat.toDigits_ne_nil, Option.some_or,
        ← List.head?_eq_some_head Nat.toDigits_ne_nil] at h
      have := ih (n / 10) (by omega) h
      omega

/-- A number is written without zeros before others. -/
theorem wholePart_toDigits (n : Nat) : WholePart (Nat.toDigits 10 n) := by
  refine ⟨⟨Nat.toDigits_ne_nil, fun c hc => Nat.isDigit_of_mem_toDigits (by decide) (by decide) hc⟩, ?_⟩
  intro more h
  have hzero : n = 0 := head_toDigits n (by rw [h]; rfl)
  rw [hzero, Nat.toDigits_zero] at h
  exact (List.cons.inj h).2.symm

/-- More digits never make a number smaller. -/
theorem le_ofDigitChars (ds : List Char) (n : Nat) : n ≤ Nat.ofDigitChars 10 ds n := by
  induction ds generalizing n with
  | nil => exact Nat.le_refl n
  | cons d ds ih =>
    rw [Nat.ofDigitChars_cons]
    have := ih (10 * n + (d.toNat - '0'.toNat))
    omega

namespace Numeral

/-- Digits whose number fits are gathered to the end. -/
theorem gather_eq (ds : List Char) (n : Nat) (fits : Nat.ofDigitChars 10 ds n < UInt64.size) :
    gather n ds = (Nat.ofDigitChars 10 ds n, []) := by
  induction ds generalizing n with
  | nil => rfl
  | cons d ds ih =>
    rw [Nat.ofDigitChars_cons] at fits ⊢
    have hle := le_ofDigitChars ds (10 * n + (d.toNat - '0'.toNat))
    rw [gather, if_pos (Nat.lt_of_le_of_lt hle fits)]
    exact ih _ fits

/-- A number of 64 bits is gathered from its digits without overflow. -/
theorem gather_toDigits {n : Nat} (fits : n < UInt64.size) : gather 0 (Nat.toDigits 10 n) = (n, []) := by
  rw [gather_eq _ _ (by rwa [Nat.ofDigitChars_ten_toDigits]), Nat.ofDigitChars_ten_toDigits]

/-- Digits alone are read as a numeral without a fraction and an exponent. -/
theorem readUnsigned_whole {w : List Char} (whole : WholePart w) (parted : Parted rest) (negative : Bool) :
    readUnsigned negative (w ++ rest) = some ({ negative, whole := w }, rest) := by
  have hw := readWhole_append whole parted.digit
  have hf := readFraction_append .none parted.digit parted.point
  rw [List.nil_append] at hf
  simp only [readUnsigned, hw, hf, readExponent_parted parted, Option.bind_eq_bind, Option.bind_some]
  rfl

/-- A number of 64 bits has its own value. -/
theorem value?_natural {n : Nat} (fits : n < UInt64.size) :
    value? { negative := false, whole := Nat.toDigits 10 n } = some (.integer n) := by
  simp [value?, gather_toDigits fits]

/-- So has a negative one of as many bits with the sign. -/
theorem value?_negative {n : Nat} (nonzero : n ≠ 0) (fits : n ≤ UInt64.size / 2) :
    value? { negative := true, whole := Nat.toDigits 10 n } = some (.integer (-n)) := by
  have hsize : n < UInt64.size := Nat.lt_of_le_of_lt fits (by decide)
  simp [value?, gather_toDigits hsize, nonzero, fits]

end Numeral

/-- **A whole number is read back** from what it is written as, if it fits a word of 64 bits. -/
theorem readNumber_integerText {z : Int} (low : -(UInt64.size / 2 : Nat) ≤ z) (high : z < UInt64.size)
    (parted : Parted rest) : readNumber (integerText z ++ rest) = some (.integer z, rest) := by
  cases z with
  | ofNat n =>
    have hwhole := wholePart_toDigits n
    have hread := (Numeral.read_digits hwhole.toDigits rest).trans (Numeral.readUnsigned_whole hwhole parted false)
    have hvalue := Numeral.value?_natural (Int.ofNat_lt.mp high)
    simp only [readNumber, integerText, hread, hvalue, Option.bind_eq_bind, Option.bind_some]
    rfl
  | negSucc n =>
    have hread := Numeral.readUnsigned_whole (wholePart_toDigits (n + 1)) parted true
    have hvalue := Numeral.value?_negative (n := n + 1) (by omega) (by omega)
    simp only [readNumber, integerText, List.cons_append, Numeral.read, hread, hvalue, Option.bind_eq_bind,
      Option.bind_some]
    rfl

/-- No blank stands before a written number. -/
theorem skipBlanks_integerText (z : Int) (rest : List Char) :
    skipBlanks (integerText z ++ rest) = integerText z ++ rest := by
  have hdark : ∃ c tail, integerText z = c :: tail ∧ isBlank c = false := by
    cases z with
    | ofNat n =>
      obtain ⟨c, tail, heq, dark, -⟩ := (numeralText_whole (wholePart_toDigits n)).head
      exact ⟨c, tail, heq, dark⟩
    | negSucc n => exact ⟨'-', _, rfl, rfl⟩
  obtain ⟨c, tail, heq, dark⟩ := hdark
  rw [heq, List.cons_append, skipBlanks_cons dark]

/-! ## Scalars -/

/-- A reader of whole numbers recovers those between its bounds. -/
theorem recovers_integerReader (wanted : String) {low high z : Int} (least : -(UInt64.size / 2 : Nat) ≤ low)
    (greatest : high < UInt64.size) (lower : low ≤ z) (upper : z ≤ high) :
    Recovers (integerReader wanted low high) (integerText z) z := by
  intro b rest blanks parted
  have hread := readNumber_integerText (Int.le_trans least lower) (Int.lt_of_le_of_lt upper greatest) parted
  rw [integerReader, skipBlanks_blanks blanks, skipBlanks_integerText, hread]
  exact if_pos ⟨lower, upper⟩

/-- What is recovered may be converted. -/
theorem Recovers.map {α β : Type} {reader : Reader α} {text : List Char} {a : α} (h : Recovers reader text a)
    (f : α → β) :
    Recovers (fun cs => do let (x, rest) ← reader cs; return (f x, rest)) text (f a) := by
  intro b rest blanks parted
  simp only [h b rest blanks parted]
  rfl

/-- A number of 32 bits comes back from its digits. -/
theorem recovers_word (n : UInt32) : Recovers wordReader (integerText n.toNat) n := by
  have h : Recovers wordReader (integerText n.toNat) (UInt32.ofNat (n.toNat : Int).toNat) :=
    (recovers_integerReader "u32" (by decide) (by decide) (by omega) (by have := n.toNat_lt; omega)).map
      fun z => UInt32.ofNat z.toNat
  rwa [Int.toNat_natCast, UInt32.ofNat_toNat] at h

/-- So does one of 64 bits. -/
theorem recovers_counter (n : UInt64) : Recovers counterReader (integerText n.toNat) n := by
  have h : Recovers counterReader (integerText n.toNat) (UInt64.ofNat (n.toNat : Int).toNat) :=
    (recovers_integerReader "u64" (by decide) (by decide) (by omega) (by have := n.toNat_lt; omega)).map
      fun z => UInt64.ofNat z.toNat
  rwa [Int.toNat_natCast, UInt64.ofNat_toNat] at h

/-- And one of eight bits with a sign. -/
theorem recovers_level (n : Int8) : Recovers levelReader (integerText n.toInt) n := by
  have hlow : -128 ≤ n.toInt := n.le_toInt
  have hhigh : n.toInt ≤ 127 := Int.lt_add_one_iff.mp n.toInt_lt
  have h : Recovers levelReader (integerText n.toInt) (Int8.ofInt n.toInt) :=
    (recovers_integerReader "i8" (by decide) (by decide) hlow hhigh).map Int8.ofInt
  rwa [Int8.ofInt_toInt] at h

/-- A truth value comes back from its word. -/
theorem recovers_bool (value : Bool) (sp : Spacing) (level : Nat) :
    Recovers boolReader ((Value.bool value).write sp level) value := by
  intro b rest blanks _
  rw [boolReader, skipBlanks_blanks blanks]
  cases value <;> rfl

/-! ## Written values are well formed -/

/-- A written number is a value of the grammar. -/
theorem derives_integerText (z : Int) : Derives .value (integerText z) := by
  cases z with
  | ofNat n => exact .numeral (numeralText_whole (wholePart_toDigits n))
  | negSucc n =>
    have h := NumeralText.negative (wholePart_toDigits (n + 1)) .none .none
    rw [List.append_nil, List.append_nil] at h
    exact .numeral h

/-- So is a written truth value. -/
theorem derives_bool (value : Bool) (sp : Spacing) (level : Nat) :
    Derives .value ((Value.bool value).write sp level) := by
  cases value
  · exact .false
  · exact .true

end ChannelSurvey.Json

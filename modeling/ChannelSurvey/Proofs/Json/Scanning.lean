import ChannelSurvey.Proofs.Json.Grammar

/-!
# Scanning strings and numerals

What has the form of a string is passed over up to its closing quote (`skipText_body`), and what spells characters
is read as those (`readText_spells`). A numeral is read whole when the text behind it cannot make it longer
(`Numeral.read_append`); `Parted` says which texts these are.
-/

namespace ChannelSurvey.Json

variable {b cs rest : List Char} {c : Char}

/-! ## Blanks -/

/-- Blanks in front make no difference behind them. -/
theorem skipBlanks_blanks (blanks : Blanks b) (cs : List Char) : skipBlanks (b ++ cs) = skipBlanks cs :=
  List.dropWhile_append_of_pos blanks

/-- At a character that is not blank there is nothing to pass over. -/
theorem skipBlanks_cons (dark : isBlank c = false) (cs : List Char) : skipBlanks (c :: cs) = c :: cs := by
  rw [skipBlanks, List.dropWhile_cons_of_neg (by rw [dark]; exact Bool.false_ne_true)]

/-- The next character stands behind the blanks. -/
theorem next?_blanks (blanks : Blanks b) (cs : List Char) : next? (b ++ cs) = next? cs := by
  rw [next?, skipBlanks_blanks blanks, ← next?]

/-- A character that is not blank is the next one. -/
theorem next?_cons (dark : isBlank c = false) (cs : List Char) : next? (c :: cs) = some (c, cs) := by
  rw [next?, skipBlanks_cons dark]

/-- Among blanks there is no next character. -/
theorem next?_eq_none (blanks : Blanks b) : next? b = none := by
  rw [← List.append_nil b, next?_blanks blanks]
  rfl

/-! ## Strings -/

/-- The letter `u` is no escape of one letter. -/
theorem ne_of_escaped? {e c : Char} (known : escaped? e = some c) : e ≠ 'u' := by
  rintro rfl
  cases known

/-- A string is passed over up to its closing quote. -/
theorem skipText_body {w : List Char} (h : StringBody w) (rest : List Char) :
    skipText (w ++ '"' :: rest) = some rest := by
  induction h with
  | nil => simp [skipText]
  | plain printable _ backslash _ ih => simp [skipText, printable, backslash, ih]
  | short known _ ih =>
    obtain ⟨c, hc⟩ := Option.isSome_iff_exists.mp known
    simp [skipText, ne_of_escaped? hc, hc, ih]
  | unit hex _ ih => simp [skipText, hex, ih]

/-- No surrogate is both the first and the second of a pair. -/
theorem not_low_of_high {n : Nat} (high : isHighSurrogate n = true) : isLowSurrogate n = false := by
  simp only [isHighSurrogate, isLowSurrogate, Bool.and_eq_true, decide_eq_true_eq, Bool.and_eq_false_iff,
    decide_eq_false_iff_not] at *
  omega

/-- A string is read as the characters it spells. -/
theorem readText_spells {w t : List Char} (h : Spells w t) (rest : List Char) :
    readText (w ++ '"' :: rest) = some (t, rest) := by
  induction h with
  | nil => simp [readText]
  | plain printable _ backslash _ ih => simp [readText, printable, backslash, ih]
  | short known _ ih => simp [readText, ne_of_escaped? known, known, ih]
  | unit hex low high _ ih => simp [readText, hex, low, high, ih]
  | pair hex high hex' low _ ih => simp [readText, hex, high, not_low_of_high high, hex', low, ih]

/-! ## Numerals -/

/-- A text that does not go on with a digit. -/
def Undigited (rest : List Char) : Prop :=
  ∀ c, rest.head? = some c → c.isDigit = false

/-- A text that makes no numeral before it longer. -/
structure Parted (rest : List Char) : Prop where
  digit : Undigited rest
  point : ∀ more, rest ≠ '.' :: more
  small : ∀ more, rest ≠ 'e' :: more
  capital : ∀ more, rest ≠ 'E' :: more

/-- Only digits, a point and the letters of an exponent can lengthen a numeral. -/
theorem parted_cons (digit : c.isDigit = false) (point : c ≠ '.') (small : c ≠ 'e') (capital : c ≠ 'E') :
    Parted (c :: rest) := by
  refine ⟨fun d hd => ?_, fun more h => ?_, fun more h => ?_, fun more h => ?_⟩
  · obtain rfl := Option.some.inj hd
    exact digit
  · exact point (List.cons.inj h).1
  · exact small (List.cons.inj h).1
  · exact capital (List.cons.inj h).1

/-- Blanks part a numeral from whatever follows. -/
theorem parted_blanks (blanks : Blanks b) (parted : Parted rest) : Parted (b ++ rest) := by
  cases b with
  | nil => exact parted
  | cons c b =>
    have hc := blanks c List.mem_cons_self
    simp only [isBlank, Bool.or_eq_true, decide_eq_true_eq] at hc
    rcases hc with ((rfl | rfl) | rfl) | rfl <;>
      exact parted_cons (by decide) (by decide) (by decide) (by decide)

/-- Digits are taken up to the first character that is none. -/
theorem spanDigits_append {ds : List Char} (digits : ∀ c ∈ ds, c.isDigit = true) (stop : Undigited rest) :
    spanDigits (ds ++ rest) = (ds, rest) := by
  rw [spanDigits, List.takeWhile_append_of_pos digits, List.dropWhile_append_of_pos digits]
  cases rest with
  | nil => simp
  | cons c rest =>
    have hc : c.isDigit = false := stop c rfl
    simp [hc]

/-- An exponent does not start with a digit, nor does what follows a numeral without one. -/
theorem ExponentPart.undigited {e : List Char} (h : ExponentPart e) (parted : Parted rest) : Undigited (e ++ rest) := by
  intro c hc
  cases h with
  | none => exact parted.digit c hc
  | unsigned letter _ | signed letter _ _ =>
    obtain rfl := Option.some.inj hc
    rcases letter with rfl | rfl <;> rfl

/-- Nor does it start with a point. -/
theorem ExponentPart.unpointed {e : List Char} (h : ExponentPart e) (parted : Parted rest) (more : List Char) :
    e ++ rest ≠ '.' :: more := by
  intro hpoint
  cases h with
  | none => exact parted.point more hpoint
  | unsigned letter _ | signed letter _ _ =>
    obtain rfl := (List.cons.inj hpoint).1
    rcases letter with h | h <;> cases h

/-- A fraction does not start with a digit. -/
theorem FractionPart.undigited {f : List Char} (h : FractionPart f) (stop : Undigited rest) :
    Undigited (f ++ rest) := by
  intro c hc
  cases h with
  | none => exact stop c hc
  | some _ =>
    obtain rfl := Option.some.inj hc
    rfl

namespace Numeral

/-- The digits before the point are read as they are. -/
theorem readWhole_append {w : List Char} (h : WholePart w) (stop : Undigited rest) :
    readWhole (w ++ rest) = some (w, rest) := by
  rw [readWhole, spanDigits_append h.all stop]
  split
  · rename_i heq
    cases heq
    exact absurd rfl h.some
  · rename_i heq
    cases heq
    cases h.unpadded _ rfl
  · rename_i heq
    cases heq
    rfl

/-- A fraction is read as the digits behind its point. -/
theorem readFraction_append {f : List Char} (h : FractionPart f) (stop : Undigited rest)
    (point : ∀ more, rest ≠ '.' :: more) : readFraction (f ++ rest) = some (f.tail, rest) := by
  cases h with
  | none => rw [List.nil_append, readFraction, List.tail_nil]; exact point
  | some digits =>
    rw [List.cons_append, readFraction, spanDigits_append digits.all stop]
    split
    · rename_i heq
      cases heq
      exact absurd rfl digits.some
    · rename_i heq
      cases heq
      rfl

/-- The digits of an exponent are read as the number they stand for, with the sign before them. -/
theorem readPower_append {ds : List Char} (digits : Digits ds) (stop : Undigited rest) (sign : Int) :
    readPower sign (ds ++ rest) = some (some (sign * Nat.ofDigitChars 10 ds 0), rest) := by
  rw [readPower, spanDigits_append digits.all stop]
  split
  · rename_i heq
    cases heq
    exact absurd rfl digits.some
  · rename_i heq
    cases heq
    rfl

/-- Without its letter there is no exponent. -/
theorem readExponent_parted (parted : Parted rest) : readExponent rest = some (none, rest) := by
  rw [readExponent] <;> simp [parted.small, parted.capital]

/-- An exponent is read up to a text that cannot lengthen it. -/
theorem readExponent_append {e : List Char} (h : ExponentPart e) (parted : Parted rest) :
    ∃ exponent, readExponent (e ++ rest) = some (exponent, rest) := by
  cases h with
  | none => exact ⟨none, readExponent_parted parted⟩
  | @unsigned e ds letter digits =>
    cases ds with
    | nil => exact absurd rfl digits.some
    | cons d ds =>
      have hd := digits.all d List.mem_cons_self
      have hplus : d ≠ '+' := by rintro rfl; cases hd
      have hminus : d ≠ '-' := by rintro rfl; cases hd
      have hpower := readPower_append digits parted.digit 1
      rw [List.cons_append] at hpower
      rcases letter with rfl | rfl <;> simp [readExponent, hplus, hminus, hpower]
  | signed letter sign digits =>
    rcases sign with rfl | rfl <;> rcases letter with rfl | rfl <;>
      simp [readExponent, readPower_append digits parted.digit]

/-- The parts of an unsigned numeral are read one after the other. -/
theorem readUnsigned_append {w f e : List Char} (whole : WholePart w) (fraction : FractionPart f)
    (exponent : ExponentPart e) (parted : Parted rest) (negative : Bool) :
    ∃ n, readUnsigned negative (w ++ (f ++ e) ++ rest) = some (n, rest) := by
  have hstop := exponent.undigited parted
  obtain ⟨x, hx⟩ := readExponent_append exponent parted
  have hf := readFraction_append fraction hstop (exponent.unpointed parted)
  have hw := readWhole_append whole (fraction.undigited hstop)
  refine ⟨{ negative, whole := w, fraction := f.tail, exponent := x }, ?_⟩
  simp only [readUnsigned, List.append_assoc, hw, hf, hx, Option.bind_eq_bind, Option.bind_some]
  rfl

/-- Digits make a numeral without a sign. -/
theorem read_digits {w : List Char} (digits : Digits w) (rest : List Char) :
    read (w ++ rest) = readUnsigned false (w ++ rest) := by
  cases w with
  | nil => exact absurd rfl digits.some
  | cons d w =>
    rw [List.cons_append, read]
    intro _ h
    have hd := digits.all d List.mem_cons_self
    rw [(List.cons.inj h).1] at hd
    cases hd

/-- A numeral is read whole. -/
theorem read_append (h : NumeralText cs) (parted : Parted rest) : ∃ n, read (cs ++ rest) = some (n, rest) := by
  cases h with
  | positive whole fraction exponent =>
    obtain ⟨n, hn⟩ := readUnsigned_append whole fraction exponent parted false
    rw [List.append_assoc] at hn ⊢
    exact ⟨n, (read_digits whole.toDigits _).trans hn⟩
  | negative whole fraction exponent => exact readUnsigned_append whole fraction exponent parted true

end Numeral

end ChannelSurvey.Json

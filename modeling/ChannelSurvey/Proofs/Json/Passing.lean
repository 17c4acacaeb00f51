import ChannelSurvey.Proofs.Json.Scanning

/-!
# Passing over values

`skipValue` is a loop over a stack of what is open. Each way it can go on is one equation here (`skipValue_list`,
`skipAfter_nextElement` and so on), chosen by the next character.

**The law** (`skipValue_derives`): a well-formed value is passed over whole, whatever is open around it and however
deep it nests. The induction is on the derivation; `Passed` says for each part where the loop goes on behind it, so
that the elements of a list leave the loop behind its closing bracket, with the list no longer open.
-/

namespace ChannelSurvey.Json

variable {stack : List Bracket} {b cs rest more : List Char} {c : Char}

/-! ## How the loop goes on -/

/-- A value that opens nothing is followed by what is open around it. -/
theorem skipValue_scalar (next : next? cs = some (c, more)) (list : c ≠ '[') (object : c ≠ '\x7b')
    (scalar : skipScalar (skipBlanks cs) = some rest) : skipValue stack cs = skipAfter stack rest := by
  rw [skipValue.eq_def]
  grind

/-- A list that closes at once opens nothing. -/
theorem skipValue_emptyList (next : next? cs = some ('[', more)) (close : next? more = some (']', rest)) :
    skipValue stack cs = skipAfter stack rest := by
  rw [skipValue.eq_def]
  grind

/-- A list with an element is open while its first value is passed over. -/
theorem skipValue_list (next : next? cs = some ('[', more)) (first : next? more = some (c, rest)) (some : c ≠ ']') :
    skipValue stack cs = skipValue (.list :: stack) more := by
  rw [skipValue.eq_def]
  grind

/-- An object that closes at once opens nothing. -/
theorem skipValue_emptyObject (next : next? cs = some ('\x7b', more)) (close : next? more = some ('\x7d', rest)) :
    skipValue stack cs = skipAfter stack rest := by
  rw [skipValue.eq_def]
  grind

/-- An object with a member is open while its first member is passed over. -/
theorem skipValue_object (next : next? cs = some ('\x7b', more)) (first : next? more = some (c, rest))
    (some : c ≠ '\x7d') : skipValue stack cs = skipMember (.object :: stack) more := by
  rw [skipValue.eq_def]
  grind

/-- Behind the name and the colon of a member stands its value. -/
theorem skipMember_eq {name : List Char} (next : next? cs = some ('"', name)) (passed : skipText name = some more)
    (colon : next? more = some (':', rest)) : skipMember stack cs = skipValue stack rest := by
  rw [skipMember.eq_def]
  grind

/-- With nothing open the loop is over. -/
theorem skipAfter_nil (cs : List Char) : skipAfter [] cs = some cs := by
  rw [skipAfter.eq_def]

/-- In a list a comma is followed by one more value. -/
theorem skipAfter_nextElement (next : next? cs = some (',', rest)) :
    skipAfter (.list :: stack) cs = skipValue (.list :: stack) rest := by
  rw [skipAfter.eq_def]
  grind

/-- In an object a comma is followed by one more member. -/
theorem skipAfter_nextMember (next : next? cs = some (',', rest)) :
    skipAfter (.object :: stack) cs = skipMember (.object :: stack) rest := by
  rw [skipAfter.eq_def]
  grind

/-- A closing bracket ends the innermost list. -/
theorem skipAfter_closeList (next : next? cs = some (']', rest)) :
    skipAfter (.list :: stack) cs = skipAfter stack rest := by
  rw [skipAfter.eq_def]
  grind

/-- A closing brace ends the innermost object. -/
theorem skipAfter_closeObject (next : next? cs = some ('\x7d', rest)) :
    skipAfter (.object :: stack) cs = skipAfter stack rest := by
  rw [skipAfter.eq_def]
  grind

/-- Blanks before a value are passed over too. -/
theorem skipValue_blanks (blanks : Blanks b) (cs : List Char) : skipValue stack (b ++ cs) = skipValue stack cs := by
  rw [skipValue.eq_def, skipValue.eq_def stack cs, skipBlanks_blanks blanks]
  grind [next?_blanks]

/-! ## What parts begin with -/

/-- Texts that go on with a part: what comes next closes nothing. -/
def Starts (cs : List Char) : Prop :=
  ∀ rest, ∃ c more, next? (cs ++ rest) = some (c, more) ∧ c ≠ ']' ∧ c ≠ '\x7d'

/-- A text starts with its first character, if that is neither blank nor closes anything. -/
theorem starts_cons {tail : List Char} (dark : isBlank c = false) (list : c ≠ ']') (object : c ≠ '\x7d') :
    Starts (c :: tail) :=
  fun rest => ⟨c, tail ++ rest, next?_cons dark _, list, object⟩

/-- What follows a text does not change what it starts with. -/
theorem Starts.append {t : List Char} (h : Starts cs) : Starts (cs ++ t) := by
  intro rest
  rw [List.append_assoc]
  exact h (t ++ rest)

/-- Nor do blanks in front of it. -/
theorem starts_blanks (blanks : Blanks b) (h : Starts cs) : Starts (b ++ cs) := by
  intro rest
  rw [List.append_assoc, next?_blanks blanks]
  exact h rest

/-- A digit is none of the characters that are no digits. -/
theorem ne_of_isDigit {d : Char} (digit : c.isDigit = true) (other : d.isDigit = false) : c ≠ d := by
  rintro rfl
  rw [digit] at other
  cases other

/-- No digit is a blank. -/
theorem dark_of_isDigit (digit : c.isDigit = true) : isBlank c = false := by
  have hother (d : Char) (hd : d.isDigit = false) : decide (c = d) = false :=
    decide_eq_false (ne_of_isDigit digit hd)
  simp only [isBlank, hother ' ' rfl, hother '\n' rfl, hother '\t' rfl, hother '\r' rfl, Bool.or_false]

/-- What a numeral begins with. -/
theorem NumeralText.head (h : NumeralText cs) :
    ∃ c tail, cs = c :: tail ∧ isBlank c = false ∧ ∀ d : Char, d ≠ '-' → d.isDigit = false → c ≠ d := by
  cases h with
  | @positive w f e whole _ _ =>
    cases w with
    | nil => exact absurd rfl whole.some
    | cons d w =>
      have hd := whole.all d List.mem_cons_self
      exact ⟨d, w ++ (f ++ e), rfl, dark_of_isDigit hd, fun _ _ other => ne_of_isDigit hd other⟩
  | negative _ _ _ => exact ⟨'-', _, rfl, by decide, fun d hd _ => hd.symm⟩

/-- Every part of a document starts with something that closes nothing. -/
theorem starts_derives {p : Part} (h : Derives p cs) : Starts cs := by
  induction h with
  | null | true | false | text | emptyList | list | emptyObject | object =>
    exact starts_cons (by decide) (by decide) (by decide)
  | numeral numeral =>
    obtain ⟨c, tail, rfl, dark, hother⟩ := numeral.head
    exact starts_cons dark (hother _ (by decide) rfl) (hother _ (by decide) rfl)
  | element opening _ _ ih => exact starts_blanks opening ih.append
  | lastElement _ ih | lastMember _ ih => exact ih
  | elements _ _ ih _ | members _ _ ih _ => exact ih.append
  | member opening _ _ _ _ => exact starts_blanks opening (starts_cons (by decide) (by decide) (by decide))

/-! ## Passing over the parts -/

/-- A numeral is passed over up to a text that cannot lengthen it. -/
theorem skipScalar_numeral (h : NumeralText cs) (parted : Parted rest) : skipScalar (cs ++ rest) = some rest := by
  obtain ⟨n, hn⟩ := Numeral.read_append h parted
  obtain ⟨c, tail, rfl, -, hother⟩ := h.head
  rw [skipScalar, hn, Option.map_some]
  all_goals
    intro _ h
    exact hother _ (by decide) rfl (List.cons.inj h).1

/-- Where the loop goes on behind a part. -/
def Passed : Part → List Char → Prop
  | .value, v => ∀ stack rest, Parted rest → skipValue stack (v ++ rest) = skipAfter stack rest
  | .element, e =>
    ∀ bracket stack rest, Parted rest → skipValue (bracket :: stack) (e ++ rest) = skipAfter (bracket :: stack) rest
  | .elements, es => ∀ stack rest, skipValue (.list :: stack) (es ++ ']' :: rest) = skipAfter stack rest
  | .member, m =>
    ∀ stack rest, Parted rest → skipMember (.object :: stack) (m ++ rest) = skipAfter (.object :: stack) rest
  | .members, ms => ∀ stack rest, skipMember (.object :: stack) (ms ++ '\x7d' :: rest) = skipAfter stack rest

/-- Blanks behind a value are passed over while something is open. -/
theorem skipAfter_blanks (blanks : Blanks b) (bracket : Bracket) (cs : List Char) :
    skipAfter (bracket :: stack) (b ++ cs) = skipAfter (bracket :: stack) cs := by
  rw [skipAfter.eq_def, skipAfter.eq_def _ cs]
  grind [next?_blanks]

/-- A comma ends a numeral. -/
theorem parted_comma (rest : List Char) : Parted (',' :: rest) :=
  parted_cons (by decide) (by decide) (by decide) (by decide)

/-- So does a closing bracket. -/
theorem parted_closeList (rest : List Char) : Parted (']' :: rest) :=
  parted_cons (by decide) (by decide) (by decide) (by decide)

/-- And a closing brace. -/
theorem parted_closeObject (rest : List Char) : Parted ('\x7d' :: rest) :=
  parted_cons (by decide) (by decide) (by decide) (by decide)

/-- What follows an enclosed text follows its last character. -/
theorem enclosed_append (opening closing : Char) (t rest : List Char) :
    opening :: (t ++ [closing]) ++ rest = opening :: (t ++ closing :: rest) := by
  rw [List.cons_append, List.append_assoc, List.singleton_append]

/-- **Every part is passed over as a whole**, by induction on its derivation. -/
theorem passed_derives {p : Part} (h : Derives p cs) : Passed p cs := by
  induction h with
  | null | true | false =>
    intro stack rest _
    exact skipValue_scalar (next?_cons (by decide) _) (by decide) (by decide) rfl
  | numeral numeral =>
    intro stack rest parted
    obtain ⟨c, tail, rfl, dark, hother⟩ := numeral.head
    refine skipValue_scalar (next?_cons dark _) (hother _ (by decide) rfl) (hother _ (by decide) rfl) ?_
    rw [List.cons_append, skipBlanks_cons dark, ← List.cons_append]
    exact skipScalar_numeral numeral parted
  | text body =>
    intro stack rest _
    rw [enclosed_append]
    refine skipValue_scalar (next?_cons (by decide) _) (by decide) (by decide) ?_
    rw [skipBlanks_cons (by decide), skipScalar]
    exact skipText_body body rest
  | emptyList blanks =>
    intro stack rest _
    rw [enclosed_append]
    refine skipValue_emptyList (next?_cons (by decide) _) ?_
    rw [next?_blanks blanks, next?_cons (by decide)]
  | list elements ih =>
    intro stack rest _
    obtain ⟨c, more, hnext, hlist, -⟩ := starts_derives elements (']' :: rest)
    rw [enclosed_append, skipValue_list (next?_cons (by decide) _) hnext hlist]
    exact ih stack rest
  | emptyObject blanks =>
    intro stack rest _
    rw [enclosed_append]
    refine skipValue_emptyObject (next?_cons (by decide) _) ?_
    rw [next?_blanks blanks, next?_cons (by decide)]
  | object members ih =>
    intro stack rest _
    obtain ⟨c, more, hnext, -, hobject⟩ := starts_derives members ('\x7d' :: rest)
    rw [enclosed_append, skipValue_object (next?_cons (by decide) _) hnext hobject]
    exact ih stack rest
  | element opening _ closing ih =>
    intro bracket stack rest parted
    rw [List.append_assoc, List.append_assoc, skipValue_blanks opening, ih _ _ (parted_blanks closing parted),
      skipAfter_blanks closing]
  | lastElement _ ih =>
    intro stack rest
    rw [ih _ _ _ (parted_closeList _), skipAfter_closeList (next?_cons (by decide) rest)]
  | elements _ _ ih ihMore =>
    intro stack rest
    rw [List.append_assoc, List.cons_append, ih _ _ _ (parted_comma _),
      skipAfter_nextElement (next?_cons (by decide) _)]
    exact ihMore stack rest
  | @member before w gap e opening name closing _ ih =>
    intro stack rest parted
    have hnext : next? (before ++ '"' :: (w ++ '"' :: (gap ++ ':' :: (e ++ rest)))) =
        some ('"', w ++ '"' :: (gap ++ ':' :: (e ++ rest))) := by
      rw [next?_blanks opening, next?_cons (by decide)]
    have hcolon : next? (gap ++ ':' :: (e ++ rest)) = some (':', e ++ rest) := by
      rw [next?_blanks closing, next?_cons (by decide)]
    simp only [List.append_assoc, List.cons_append]
    rw [skipMember_eq hnext (skipText_body name _) hcolon]
    exact ih _ _ _ parted
  | lastMember _ ih =>
    intro stack rest
    rw [ih _ _ (parted_closeObject _), skipAfter_closeObject (next?_cons (by decide) rest)]
  | members _ _ ih ihMore =>
    intro stack rest
    rw [List.append_assoc, List.cons_append, ih _ _ (parted_comma _), skipAfter_nextMember (next?_cons (by decide) _)]
    exact ihMore stack rest

/-- **A well-formed value is passed over**, with the blanks before it. -/
theorem skipValue_derives {v : List Char} (blanks : Blanks b) (value : Derives .value v) (parted : Parted rest) :
    skipValue [] (b ++ (v ++ rest)) = some rest := by
  rw [skipValue_blanks blanks, passed_derives value [] rest parted, skipAfter_nil]

end ChannelSurvey.Json

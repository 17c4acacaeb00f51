import ChannelSurvey.Proofs.Json.Passing

/-!
# Only values are passed over

The grammar allows no less than the reader takes: what is passed over as a string, a numeral or a value has the form of
one. So a member that is no field is accepted only with a value that is well formed.

**The law** (`skipValue_eq_some`): what is passed over is blanks and one value of the grammar, and every such text is
passed over. The induction is that of the loop (`took`). Around a value there may be more that is open, and then the
loop also takes what ends that. `Completes` says what this is for each bracket of the stack; with a value before it, it
is the rest of a list or of an object (`elements_of_completes`, `members_of_completes`).
-/

namespace ChannelSurvey.Json

variable {stack : List Bracket} {b cs rest t v : List Char} {c : Char}

/-! ## Blanks and strings -/

/-- What is passed over as blank is blank. -/
theorem exists_blanks (cs : List Char) : ∃ b, Blanks b ∧ cs = b ++ skipBlanks cs :=
  ⟨cs.takeWhile isBlank, List.all_eq_true.mp List.all_takeWhile, List.takeWhile_append_dropWhile.symm⟩

/-- What stands before the next character is blank. -/
theorem blanks_of_next? (next : next? cs = some (c, rest)) : ∃ b, Blanks b ∧ cs = b ++ c :: rest := by
  obtain ⟨b, hb, hcs⟩ := exists_blanks cs
  unfold next? at next
  split at next
  · cases next
  · rename_i heq
    cases next
    exact ⟨b, hb, heq ▸ hcs⟩

/-- A string that is passed over is the body of a string up to its quote. -/
theorem stringBody_of_skipText (h : skipText cs = some rest) : ∃ w, StringBody w ∧ cs = w ++ '"' :: rest := by
  fun_induction skipText cs with
  | case1 => cases h
  | case2 =>
    cases h
    exact ⟨[], .nil, rfl⟩
  | case3 a b c d tail hex ih =>
    obtain ⟨w, hw, rfl⟩ := ih h
    exact ⟨_, .unit hex hw, rfl⟩
  | case4 => cases h
  | case5 e tail _ known ih =>
    obtain ⟨w, hw, rfl⟩ := ih h
    exact ⟨_, .short known hw, rfl⟩
  | case6 => cases h
  | case7 => cases h
  | case8 c tail quote _ _ plain ih =>
    obtain ⟨w, hw, rfl⟩ := ih h
    exact ⟨_, .plain (fun control => plain (.inl control)) quote (fun backslash => plain (.inr backslash)) hw, rfl⟩

/-! ## Numerals -/

/-- What is taken as digits is a prefix of digits. -/
theorem digits_of_spanDigits {ds : List Char} (h : spanDigits cs = (ds, rest)) (some : ds ≠ []) :
    Digits ds ∧ cs = ds ++ rest := by
  cases h
  exact ⟨⟨some, List.all_eq_true.mp List.all_takeWhile⟩, List.takeWhile_append_dropWhile.symm⟩

namespace Numeral

/-- A whole part that is read is one the grammar allows. -/
theorem wholePart_of_readWhole {ds : List Char} (h : readWhole cs = some (ds, rest)) :
    WholePart ds ∧ cs = ds ++ rest := by
  unfold readWhole at h
  split at h
  · cases h
  · cases h
  · rename_i digits _ some unpadded hspan
    cases h
    obtain ⟨hdigits, hcs⟩ := digits_of_spanDigits hspan fun hnil => some (hnil ▸ rfl)
    refine ⟨⟨hdigits, fun tail htail => ?_⟩, hcs⟩
    cases tail with
    | nil => rfl
    | cons d tail => exact (unpadded d tail htail).elim

/-- The same for a fraction, which may be empty. -/
theorem fractionPart_of_readFraction {ds : List Char} (h : readFraction cs = some (ds, rest)) :
    ∃ f, FractionPart f ∧ cs = f ++ rest := by
  unfold readFraction at h
  split at h
  · split at h
    · cases h
    · rename_i some hspan
      cases h
      obtain ⟨hdigits, rfl⟩ := digits_of_spanDigits hspan fun hnil => some (hnil ▸ rfl)
      exact ⟨_, .some hdigits, rfl⟩
  · cases h
    exact ⟨[], .none, rfl⟩

/-- The digits of an exponent are digits, whether or not the exponent fits. -/
theorem digits_of_readPower {sign : Int} {e : Option Int} (h : readPower sign cs = some (e, rest)) :
    ∃ ds, Digits ds ∧ cs = ds ++ rest := by
  unfold readPower at h
  split at h
  · cases h
  · rename_i digits _ some hspan
    cases h
    exact ⟨digits, digits_of_spanDigits hspan fun hnil => some (hnil ▸ rfl)⟩

/-- The same for an exponent, which may be empty. -/
theorem exponentPart_of_readExponent {e : Option Int} (h : readExponent cs = some (e, rest)) :
    ∃ p, ExponentPart p ∧ cs = p ++ rest := by
  unfold readExponent at h
  split at h
  case h_7 =>
    cases h
    exact ⟨[], .none, rfl⟩
  all_goals
    obtain ⟨ds, hdigits, rfl⟩ := digits_of_readPower h
  · exact ⟨_, .signed (.inl rfl) (.inl rfl) hdigits, rfl⟩
  · exact ⟨_, .signed (.inr rfl) (.inl rfl) hdigits, rfl⟩
  · exact ⟨_, .signed (.inl rfl) (.inr rfl) hdigits, rfl⟩
  · exact ⟨_, .signed (.inr rfl) (.inr rfl) hdigits, rfl⟩
  · exact ⟨_, .unsigned (.inl rfl) hdigits, rfl⟩
  · exact ⟨_, .unsigned (.inr rfl) hdigits, rfl⟩

/-- A numeral without its sign is made of the three parts. -/
theorem parts_of_readUnsigned {negative : Bool} {n : Numeral} (h : readUnsigned negative cs = some (n, rest)) :
    ∃ w f e, WholePart w ∧ FractionPart f ∧ ExponentPart e ∧ cs = w ++ (f ++ e) ++ rest := by
  simp only [readUnsigned, Option.bind_eq_bind, Option.bind_eq_some_iff, Prod.exists] at h
  obtain ⟨w, _, hwhole, _, _, hfraction, _, _, hexponent, hdone⟩ := h
  cases hdone
  obtain ⟨hw, rfl⟩ := wholePart_of_readWhole hwhole
  obtain ⟨f, hf, rfl⟩ := fractionPart_of_readFraction hfraction
  obtain ⟨e, he, rfl⟩ := exponentPart_of_readExponent hexponent
  exact ⟨w, f, e, hw, hf, he, by rw [List.append_assoc, List.append_assoc]⟩

/-- A numeral that is read is one the grammar allows. -/
theorem numeralText_of_read {n : Numeral} (h : read cs = some (n, rest)) : ∃ v, NumeralText v ∧ cs = v ++ rest := by
  unfold read at h
  split at h
  · obtain ⟨w, f, e, hw, hf, he, rfl⟩ := parts_of_readUnsigned h
    exact ⟨_, .negative hw hf he, rfl⟩
  · obtain ⟨w, f, e, hw, hf, he, rfl⟩ := parts_of_readUnsigned h
    exact ⟨_, .positive hw hf he, rfl⟩

end Numeral

/-- A value that opens nothing is passed over only if the grammar derives it. -/
theorem derives_of_skipScalar (h : skipScalar cs = some rest) : ∃ v, Derives .value v ∧ cs = v ++ rest := by
  unfold skipScalar at h
  split at h
  · obtain ⟨w, hw, rfl⟩ := stringBody_of_skipText h
    exact ⟨_, .text hw, by simp⟩
  · cases h
    exact ⟨_, .null, rfl⟩
  · cases h
    exact ⟨_, .true, rfl⟩
  · cases h
    exact ⟨_, .false, rfl⟩
  · obtain ⟨⟨n, _⟩, hread, rfl⟩ := Option.map_eq_some_iff.mp h
    obtain ⟨v, hv, rfl⟩ := Numeral.numeralText_of_read hread
    exact ⟨v, .numeral hv, rfl⟩

/-! ## What is open -/

/-- The texts that end what is open, up to and with the closing bracket of each. -/
inductive Completes : List Bracket → List Char → Prop
  | none : Completes [] []
  | list {below : List Bracket} {b t : List Char} (blanks : Blanks b) (rest : Completes below t) :
      Completes (.list :: below) (b ++ ']' :: t)
  | elements {below : List Bracket} {b es t : List Char} (blanks : Blanks b) (more : Derives .elements es)
      (rest : Completes below t) : Completes (.list :: below) (b ++ ',' :: (es ++ ']' :: t))
  | object {below : List Bracket} {b t : List Char} (blanks : Blanks b) (rest : Completes below t) :
      Completes (.object :: below) (b ++ '\x7d' :: t)
  | members {below : List Bracket} {b ms t : List Char} (blanks : Blanks b) (more : Derives .members ms)
      (rest : Completes below t) : Completes (.object :: below) (b ++ ',' :: (ms ++ '\x7d' :: t))

/-- A value and what ends the list it stands in are elements up to the closing bracket. -/
theorem elements_of_completes (opening : Blanks b) (value : Derives .value v)
    (completes : Completes (.list :: stack) t) :
    ∃ es t', Derives .elements es ∧ Completes stack t' ∧ b ++ (v ++ t) = es ++ ']' :: t' := by
  cases completes with
  | list blanks below => exact ⟨_, _, .lastElement (.element opening value blanks), below, by simp⟩
  | elements blanks more below => exact ⟨_, _, .elements (.element opening value blanks) more, below, by simp⟩

/-- A member and what ends the object it stands in are members up to the closing bracket. -/
theorem members_of_completes {w gap space : List Char} (opening : Blanks b) (name : StringBody w) (closing : Blanks gap)
    (leading : Blanks space) (value : Derives .value v) (completes : Completes (.object :: stack) t) :
    ∃ ms t', Derives .members ms ∧ Completes stack t' ∧
      b ++ '"' :: (w ++ '"' :: (gap ++ ':' :: (space ++ (v ++ t)))) = ms ++ '\x7d' :: t' := by
  cases completes with
  | object blanks below =>
    exact ⟨_, _, .lastMember (.member opening name closing (.element leading value blanks)), below, by simp⟩
  | members blanks more below =>
    exact ⟨_, _, .members (.member opening name closing (.element leading value blanks)) more, below, by simp⟩

/-! ## The loop -/

/-- What was passed over by a step is a value and the end of what is open. -/
def TookValue (stack : List Bracket) (cs : List Char) : Prop :=
  ∀ rest, skipValue stack cs = some rest →
    ∃ b v t, Blanks b ∧ Derives .value v ∧ Completes stack t ∧ cs = b ++ (v ++ t) ++ rest

def TookMember (stack : List Bracket) (cs : List Char) : Prop :=
  ∀ rest, skipMember stack cs = some rest →
    ∃ b w gap space v t, Blanks b ∧ StringBody w ∧ Blanks gap ∧ Blanks space ∧ Derives .value v ∧ Completes stack t ∧
      cs = b ++ '"' :: (w ++ '"' :: (gap ++ ':' :: (space ++ (v ++ t)))) ++ rest

def TookAfter (stack : List Bracket) (cs : List Char) : Prop :=
  ∀ rest, skipAfter stack cs = some rest → ∃ t, Completes stack t ∧ cs = t ++ rest

/-- **Every step takes values only**, and ends what is open. -/
theorem took :
    (∀ stack cs, TookValue stack cs) ∧ (∀ stack cs, TookMember stack cs) ∧ ∀ stack cs, TookAfter stack cs := by
  apply skipValue.mutual_induct
  case case1 =>
    intro stack cs more next rest close ih final h
    rw [skipValue_emptyList next close] at h
    obtain ⟨t, ht, rfl⟩ := ih final h
    obtain ⟨b, hb, rfl⟩ := blanks_of_next? next
    obtain ⟨b', hb', rfl⟩ := blanks_of_next? close
    exact ⟨b, _, t, hb, .emptyList hb', ht, by simp⟩
  case case2 =>
    intro stack cs more next unclosed ih final h
    have hlist : skipValue stack cs = skipValue (.list :: stack) more := by
      rw [skipValue.eq_def]
      grind
    obtain ⟨b', v, t, hb', hv, ht, rfl⟩ := ih final (hlist ▸ h)
    obtain ⟨es, t', hes, ht', heq⟩ := elements_of_completes hb' hv ht
    obtain ⟨b, hb, rfl⟩ := blanks_of_next? next
    exact ⟨b, _, t', hb, .list hes, ht', by simp [heq]⟩
  case case3 =>
    intro stack cs more next rest close ih final h
    rw [skipValue_emptyObject next close] at h
    obtain ⟨t, ht, rfl⟩ := ih final h
    obtain ⟨b, hb, rfl⟩ := blanks_of_next? next
    obtain ⟨b', hb', rfl⟩ := blanks_of_next? close
    exact ⟨b, _, t, hb, .emptyObject hb', ht, by simp⟩
  case case4 =>
    intro stack cs more next unclosed ih final h
    have hobject : skipValue stack cs = skipMember (.object :: stack) more := by
      rw [skipValue.eq_def]
      grind
    obtain ⟨b', w, gap, space, v, t, hb', hw, hgap, hspace, hv, ht, rfl⟩ := ih final (hobject ▸ h)
    obtain ⟨ms, t', hms, ht', heq⟩ := members_of_completes hb' hw hgap hspace hv ht
    obtain ⟨b, hb, rfl⟩ := blanks_of_next? next
    exact ⟨b, _, t', hb, .object hms, ht', by rw [heq]; simp⟩
  case case5 =>
    intro stack cs rest scalar list object ih final h
    have hscalar : skipValue stack cs = skipAfter stack rest := by
      rw [skipValue.eq_def]
      grind
    obtain ⟨t, ht, rfl⟩ := ih final (hscalar ▸ h)
    obtain ⟨v, hv, heq⟩ := derives_of_skipScalar scalar
    obtain ⟨b, hb, hcs⟩ := exists_blanks cs
    exact ⟨b, v, t, hb, hv, ht, by rw [hcs, heq]; simp⟩
  case case6 =>
    intro stack cs scalar list object final h
    rw [skipValue.eq_def] at h
    grind
  case case7 =>
    intro stack cs name next rest passed more colon ih final h
    rw [skipMember_eq next passed colon] at h
    obtain ⟨space, v, t, hspace, hv, ht, rfl⟩ := ih final h
    obtain ⟨b, hb, rfl⟩ := blanks_of_next? next
    obtain ⟨w, hw, rfl⟩ := stringBody_of_skipText passed
    obtain ⟨gap, hgap, rfl⟩ := blanks_of_next? colon
    exact ⟨b, w, gap, space, v, t, hb, hw, hgap, hspace, hv, ht, by simp⟩
  case case8 | case9 | case10 =>
    intros
    intro final h
    rw [skipMember.eq_def] at h
    grind
  case case11 =>
    intro cs final h
    rw [skipAfter_nil] at h
    cases h
    exact ⟨[], .none, rfl⟩
  case case12 =>
    intro cs below rest next ih final h
    rw [skipAfter_nextElement next] at h
    obtain ⟨b', v, t, hb', hv, ht, rfl⟩ := ih final h
    obtain ⟨es, t', hes, ht', heq⟩ := elements_of_completes hb' hv ht
    obtain ⟨b, hb, rfl⟩ := blanks_of_next? next
    exact ⟨_, .elements hb hes ht', by rw [heq]; simp⟩
  case case13 =>
    intro cs below rest next ih final h
    rw [skipAfter_nextMember next] at h
    obtain ⟨b', w, gap, space, v, t, hb', hw, hgap, hspace, hv, ht, rfl⟩ := ih final h
    obtain ⟨ms, t', hms, ht', heq⟩ := members_of_completes hb' hw hgap hspace hv ht
    obtain ⟨b, hb, rfl⟩ := blanks_of_next? next
    exact ⟨_, .members hb hms ht', by rw [heq]; simp⟩
  case case14 =>
    intro cs below rest next ih final h
    rw [skipAfter_closeList next] at h
    obtain ⟨t, ht, rfl⟩ := ih final h
    obtain ⟨b, hb, rfl⟩ := blanks_of_next? next
    exact ⟨_, .list hb ht, by simp⟩
  case case15 =>
    intro cs below rest next ih final h
    rw [skipAfter_closeObject next] at h
    obtain ⟨t, ht, rfl⟩ := ih final h
    obtain ⟨b, hb, rfl⟩ := blanks_of_next? next
    exact ⟨_, .object hb ht, by simp⟩
  case case16 =>
    intros
    intro final h
    rw [skipAfter.eq_def] at h
    grind

/-- **Nothing but a value is passed over**: what is taken is blanks and a value of the grammar. -/
theorem derives_of_skipValue (h : skipValue [] cs = some rest) :
    ∃ b v, Blanks b ∧ Derives .value v ∧ cs = b ++ (v ++ rest) := by
  obtain ⟨b, v, t, hb, hv, ht, rfl⟩ := took.1 [] cs rest h
  cases ht
  exact ⟨b, v, hb, hv, by simp⟩

/-- **What is passed over**: up to a text that cannot lengthen it, blanks and a value and nothing else. -/
theorem skipValue_eq_some (parted : Parted rest) :
    skipValue [] cs = some rest ↔ ∃ b v, Blanks b ∧ Derives .value v ∧ cs = b ++ (v ++ rest) := by
  refine ⟨derives_of_skipValue, ?_⟩
  rintro ⟨b, v, hb, hv, rfl⟩
  exact skipValue_derives hb hv parted

end ChannelSurvey.Json

import ChannelSurvey.Json.Numeral
import ChannelSurvey.Json.Text

/-!
# Passing over a value

A value that nobody wants must still be well formed. `skipValue` passes over one and gives the text behind
it. The lists and objects that are open are kept on a stack, so values may nest as deep as they like.

**Why this ends**: every step leaves less text (`length_skipScalar`).
-/

namespace ChannelSurvey.Json

/-- Blanks between the parts of a document. -/
def isBlank (c : Char) : Bool :=
  c = ' ' || c = '\n' || c = '\t' || c = '\r'

def skipBlanks (cs : List Char) : List Char :=
  cs.dropWhile isBlank

/-- The first character that is no blank, and the text behind it. -/
def next? (cs : List Char) : Option (Char × List Char) :=
  match skipBlanks cs with
  | [] => none
  | c :: rest => some (c, rest)

/-- Passes over a string, a number or one of the three words. -/
def skipScalar : List Char → Option (List Char)
  | '"' :: rest => skipText rest
  | 'n' :: 'u' :: 'l' :: 'l' :: rest => some rest
  | 't' :: 'r' :: 'u' :: 'e' :: rest => some rest
  | 'f' :: 'a' :: 'l' :: 's' :: 'e' :: rest => some rest
  | cs => (Numeral.read cs).map (·.2)

/-- What is open around a value. -/
inductive Bracket where
  | list
  | object
  deriving DecidableEq, Inhabited

/-! ## Every step leaves less text -/

/-- Passing over blanks leaves no more than there was. -/
theorem length_skipBlanks (cs : List Char) : (skipBlanks cs).length ≤ cs.length :=
  (List.dropWhile_suffix _).length_le

/-- The next character is taken off. -/
theorem length_next? {cs rest : List Char} {c : Char} (h : next? cs = some (c, rest)) :
    rest.length < cs.length := by
  unfold next? at h
  split at h
  · cases h
  · rename_i heq
    cases h
    have := length_skipBlanks cs
    rw [heq, List.length_cons] at this
    exact this

/-- A string takes its closing quote at least. -/
theorem length_skipText {cs rest : List Char} (h : skipText cs = some rest) : rest.length < cs.length := by
  fun_induction skipText cs with
  | case1 => cases h
  | case2 => cases h; simp
  | case3 a b c d tail _ ih => have := ih h; simp only [List.length_cons]; omega
  | case4 => cases h
  | case5 e tail _ _ ih => have := ih h; simp only [List.length_cons]; omega
  | case6 => cases h
  | case7 => cases h
  | case8 c tail _ _ _ _ ih => have := ih h; simp only [List.length_cons]; omega

/-- The digits and what follows them are the whole text. -/
theorem length_spanDigits {cs digits rest : List Char} (h : spanDigits cs = (digits, rest)) :
    digits.length + rest.length = cs.length := by
  cases h
  rw [← List.length_append, List.takeWhile_append_dropWhile]

namespace Numeral

/-- A whole number has a digit. -/
theorem length_readWhole {cs digits rest : List Char} (h : readWhole cs = some (digits, rest)) :
    rest.length < cs.length := by
  unfold readWhole at h
  split at h
  · cases h
  · cases h
  · rename_i d r hne _ heq
    cases h
    have hlen := length_spanDigits heq
    have : digits ≠ [] := fun hd => hne (hd ▸ rfl)
    have := List.length_pos_iff.mpr this
    omega

/-- A fraction may be missing, but it leaves no more than there was. -/
theorem length_readFraction {cs digits rest : List Char} (h : readFraction cs = some (digits, rest)) :
    rest.length ≤ cs.length := by
  unfold readFraction at h
  split at h
  · split at h
    · cases h
    · rename_i heq
      cases h
      have := length_spanDigits heq
      simp only [List.length_cons]
      omega
  · cases h; exact Nat.le_refl _

/-- The digits of an exponent leave no more than there was. -/
theorem length_readPower {sign : Int} {cs rest : List Char} {e : Option Int}
    (h : readPower sign cs = some (e, rest)) : rest.length ≤ cs.length := by
  unfold readPower at h
  split at h
  · cases h
  · rename_i heq
    cases h
    have := length_spanDigits heq
    omega

/-- An exponent may be missing, but it leaves no more than there was. -/
theorem length_readExponent {cs rest : List Char} {e : Option Int} (h : readExponent cs = some (e, rest)) :
    rest.length ≤ cs.length := by
  unfold readExponent at h
  split at h
  case h_7 => cases h; exact Nat.le_refl _
  all_goals
    have := length_readPower h
    simp only [List.length_cons]
    omega

/-- A numeral without its sign takes the digits before the point. -/
theorem length_readUnsigned {negative : Bool} {cs rest : List Char} {n : Numeral}
    (h : readUnsigned negative cs = some (n, rest)) : rest.length < cs.length := by
  simp only [readUnsigned, Option.bind_eq_bind, Option.bind_eq_some_iff, Prod.exists] at h
  obtain ⟨_, a, hwhole, _, b, hfraction, _, c, hexponent, hdone⟩ := h
  cases hdone
  have := length_readWhole hwhole
  have := length_readFraction hfraction
  have := length_readExponent hexponent
  omega

/-- A numeral takes a character at least. -/
theorem length_read {cs rest : List Char} {n : Numeral} (h : read cs = some (n, rest)) :
    rest.length < cs.length := by
  unfold read at h
  split at h
  · have := length_readUnsigned h
    simp only [List.length_cons]
    omega
  · exact length_readUnsigned h

end Numeral

/-- Whatever opens nothing takes a character at least, so the loop over values comes to an end. -/
theorem length_skipScalar {cs rest : List Char} (h : skipScalar cs = some rest) : rest.length < cs.length := by
  unfold skipScalar at h
  split at h
  · have := length_skipText h
    simp only [List.length_cons]
    omega
  · cases h; simp only [List.length_cons]; omega
  · cases h; simp only [List.length_cons]; omega
  · cases h; simp only [List.length_cons]; omega
  · obtain ⟨⟨n, r⟩, hread, rfl⟩ := Option.map_eq_some_iff.mp h
    exact Numeral.length_read hread

/-! ## Passing over -/

mutual

/-- Passes over a value and what is open around it. -/
def skipValue (stack : List Bracket) (cs : List Char) : Option (List Char) :=
  match _ : next? cs with
  | some ('[', rest) =>
    match _ : next? rest with
    | some (']', rest) => skipAfter stack rest
    | _ => skipValue (.list :: stack) rest
  | some ('\x7b', rest) =>
    match _ : next? rest with
    | some ('\x7d', rest) => skipAfter stack rest
    | _ => skipMember (.object :: stack) rest
  | _ =>
    match _ : skipScalar (skipBlanks cs) with
    | some rest => skipAfter stack rest
    | none => none
termination_by cs.length
decreasing_by
  · exact Nat.lt_trans (length_next? ‹_›) (length_next? ‹_›)
  · exact length_next? ‹_›
  · exact Nat.lt_trans (length_next? ‹_›) (length_next? ‹_›)
  · exact length_next? ‹_›
  · exact Nat.lt_of_lt_of_le (length_skipScalar ‹_›) (length_skipBlanks cs)

/-- Passes over a member of an object, its name first. -/
def skipMember (stack : List Bracket) (cs : List Char) : Option (List Char) :=
  match _ : next? cs with
  | some ('"', rest) =>
    match _ : skipText rest with
    | some rest =>
      match _ : next? rest with
      | some (':', rest) => skipValue stack rest
      | _ => none
    | none => none
  | _ => none
termination_by cs.length
decreasing_by
  exact Nat.lt_trans (length_next? ‹_›) (Nat.lt_trans (length_skipText ‹_›) (length_next? ‹_›))

/-- Passes over what follows a value: more of what is open, or its end. -/
def skipAfter (stack : List Bracket) (cs : List Char) : Option (List Char) :=
  match stack, _ : next? cs with
  | [], _ => some cs
  | .list :: below, some (',', rest) => skipValue (.list :: below) rest
  | .object :: below, some (',', rest) => skipMember (.object :: below) rest
  | .list :: below, some (']', rest) => skipAfter below rest
  | .object :: below, some ('\x7d', rest) => skipAfter below rest
  | _ :: _, _ => none
termination_by cs.length
decreasing_by all_goals exact length_next? ‹_›

end

end ChannelSurvey.Json

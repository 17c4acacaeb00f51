import ChannelSurvey.Json.Skip

/-!
# The grammar of documents

What a well-formed text is, said without a reader: blanks, strings, numerals, the parts that values are made of
(`Derives`), and documents that are an object (`ObjectDocument`).

A string has two readings. Between its quotes it must have the form of a string (`StringBody`), and where its
characters are wanted it must spell some (`Spells`): a surrogate without its partner has the form and spells nothing.
So the names of the members of an object that is read spell a text, and the names within a value that is passed over
need not.
-/

namespace ChannelSurvey.Json

/-- Blanks and nothing else. -/
def Blanks (cs : List Char) : Prop :=
  ∀ c ∈ cs, isBlank c = true

theorem blanks_nil : Blanks [] :=
  fun _ h => nomatch h

/-! ## Strings -/

/-- What stands between the quotes of a string. -/
inductive StringBody : List Char → Prop
  | nil : StringBody []
  | plain {c : Char} {w : List Char} (printable : ¬ c < ' ') (quote : c ≠ '"') (backslash : c ≠ '\\')
      (more : StringBody w) : StringBody (c :: w)
  | short {e : Char} {w : List Char} (known : (escaped? e).isSome = true) (more : StringBody w) :
      StringBody ('\\' :: e :: w)
  | unit {a b c d : Char} {w : List Char} (hex : (hexNumber? a b c d).isSome = true) (more : StringBody w) :
      StringBody ('\\' :: 'u' :: a :: b :: c :: d :: w)

/-- What stands between the quotes of a string, and the characters it stands for. -/
inductive Spells : List Char → List Char → Prop
  | nil : Spells [] []
  | plain {c : Char} {w t : List Char} (printable : ¬ c < ' ') (quote : c ≠ '"') (backslash : c ≠ '\\')
      (more : Spells w t) : Spells (c :: w) (c :: t)
  | short {e c : Char} {w t : List Char} (known : escaped? e = some c) (more : Spells w t) :
      Spells ('\\' :: e :: w) (c :: t)
  | unit {a b c d : Char} {n : Nat} {w t : List Char} (hex : hexNumber? a b c d = some n)
      (low : isLowSurrogate n = false) (high : isHighSurrogate n = false) (more : Spells w t) :
      Spells ('\\' :: 'u' :: a :: b :: c :: d :: w) (Char.ofNat n :: t)
  | pair {a b c d a' b' c' d' : Char} {n m : Nat} {w t : List Char} (hex : hexNumber? a b c d = some n)
      (high : isHighSurrogate n = true) (hex' : hexNumber? a' b' c' d' = some m) (low : isLowSurrogate m = true)
      (more : Spells w t) :
      Spells ('\\' :: 'u' :: a :: b :: c :: d :: '\\' :: 'u' :: a' :: b' :: c' :: d' :: w) (joined n m :: t)

/-- What spells characters has the form of a string. -/
theorem Spells.body {w t : List Char} (h : Spells w t) : StringBody w := by
  induction h with
  | nil => exact .nil
  | plain printable quote backslash _ ih => exact .plain printable quote backslash ih
  | short known _ ih => exact .short (by rw [known]; rfl) ih
  | unit hex _ _ _ ih => exact .unit (by rw [hex]; rfl) ih
  | pair hex _ hex' _ _ ih => exact .unit (by rw [hex]; rfl) (.unit (by rw [hex']; rfl) ih)

/-! ## Numerals -/

/-- One digit or more. -/
structure Digits (cs : List Char) : Prop where
  some : cs ≠ []
  all : ∀ c ∈ cs, c.isDigit = true

/-- The digits of a whole number: no zero stands before others. -/
structure WholePart (cs : List Char) : Prop extends Digits cs where
  unpadded : ∀ more, cs = '0' :: more → more = []

inductive FractionPart : List Char → Prop
  | none : FractionPart []
  | some {ds : List Char} (digits : Digits ds) : FractionPart ('.' :: ds)

inductive ExponentPart : List Char → Prop
  | none : ExponentPart []
  | unsigned {e : Char} {ds : List Char} (letter : e = 'e' ∨ e = 'E') (digits : Digits ds) : ExponentPart (e :: ds)
  | signed {e s : Char} {ds : List Char} (letter : e = 'e' ∨ e = 'E') (sign : s = '+' ∨ s = '-')
      (digits : Digits ds) : ExponentPart (e :: s :: ds)

inductive NumeralText : List Char → Prop
  | positive {w f e : List Char} (whole : WholePart w) (fraction : FractionPart f) (exponent : ExponentPart e) :
      NumeralText (w ++ (f ++ e))
  | negative {w f e : List Char} (whole : WholePart w) (fraction : FractionPart f) (exponent : ExponentPart e) :
      NumeralText ('-' :: (w ++ (f ++ e)))

/-- Digits alone are a numeral. -/
theorem numeralText_whole {w : List Char} (whole : WholePart w) : NumeralText w := by
  have h := NumeralText.positive whole .none .none
  rwa [List.append_nil, List.append_nil] at h

/-! ## Values -/

/-- The parts of a document. -/
inductive Part where
  | value
  /-- A value with the blanks around it. -/
  | element
  /-- The elements of a list, commas between them. -/
  | elements
  | member
  /-- The members of an object, commas between them. -/
  | members

/-- The texts that a part may have. -/
inductive Derives : Part → List Char → Prop
  | null : Derives .value ['n', 'u', 'l', 'l']
  | true : Derives .value ['t', 'r', 'u', 'e']
  | false : Derives .value ['f', 'a', 'l', 's', 'e']
  | numeral {cs : List Char} (numeral : NumeralText cs) : Derives .value cs
  | text {w : List Char} (body : StringBody w) : Derives .value ('"' :: (w ++ ['"']))
  | emptyList {b : List Char} (blanks : Blanks b) : Derives .value ('[' :: (b ++ [']']))
  | list {es : List Char} (elements : Derives .elements es) : Derives .value ('[' :: (es ++ [']']))
  | emptyObject {b : List Char} (blanks : Blanks b) : Derives .value ('\x7b' :: (b ++ ['\x7d']))
  | object {ms : List Char} (members : Derives .members ms) : Derives .value ('\x7b' :: (ms ++ ['\x7d']))
  | element {before v after : List Char} (opening : Blanks before) (value : Derives .value v)
      (closing : Blanks after) : Derives .element (before ++ (v ++ after))
  | lastElement {e : List Char} (element : Derives .element e) : Derives .elements e
  | elements {e es : List Char} (element : Derives .element e) (more : Derives .elements es) :
      Derives .elements (e ++ ',' :: es)
  | member {before w gap e : List Char} (opening : Blanks before) (name : StringBody w) (closing : Blanks gap)
      (element : Derives .element e) : Derives .member (before ++ '"' :: (w ++ '"' :: (gap ++ ':' :: e)))
  | lastMember {m : List Char} (member : Derives .member m) : Derives .members m
  | members {m ms : List Char} (member : Derives .member m) (more : Derives .members ms) :
      Derives .members (m ++ ',' :: ms)

/-! ## Documents that are an object -/

/-- The name of a member, and the text of its value without the blanks around it. -/
abbrev Member := String × List Char

/-- The texts of a member. -/
inductive MemberText : Member → List Char → Prop
  | of {name : String} {before w gap space v after : List Char} (opening : Blanks before)
      (spelled : Spells w name.toList) (closing : Blanks gap) (leading : Blanks space) (value : Derives .value v)
      (trailing : Blanks after) :
      MemberText (name, v) (before ++ '"' :: (w ++ '"' :: (gap ++ ':' :: (space ++ (v ++ after)))))

/-- The texts of one member or more, commas between them. -/
inductive MembersText : List Member → List Char → Prop
  | last {m : Member} {t : List Char} (member : MemberText m t) : MembersText [m] t
  | more {m : Member} {t : List Char} {ms : List Member} {ts : List Char} (member : MemberText m t)
      (members : MembersText ms ts) : MembersText (m :: ms) (t ++ ',' :: ts)

/-- The texts that hold one object and nothing else. -/
inductive ObjectDocument : List Member → List Char → Prop
  | empty {before between after : List Char} (opening : Blanks before) (inner : Blanks between)
      (closing : Blanks after) : ObjectDocument [] (before ++ '\x7b' :: (between ++ '\x7d' :: after))
  | members {ms : List Member} {before t after : List Char} (opening : Blanks before) (members : MembersText ms t)
      (closing : Blanks after) : ObjectDocument ms (before ++ '\x7b' :: (t ++ '\x7d' :: after))

/-- A member whose name spells a text has the form of a member. -/
theorem MemberText.derives {m : Member} {t : List Char} (h : MemberText m t) : Derives .member t := by
  cases h with
  | of opening spelled closing leading value trailing =>
    exact .member opening spelled.body closing (.element leading value trailing)

/-- So have several. -/
theorem MembersText.derives {ms : List Member} {t : List Char} (h : MembersText ms t) : Derives .members t := by
  induction h with
  | last member => exact .lastMember member.derives
  | more member _ ih => exact .members member.derives ih

end ChannelSurvey.Json

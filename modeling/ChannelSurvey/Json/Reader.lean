import ChannelSurvey.Json.Fault
import ChannelSurvey.Json.Skip

/-!
# Reading values of a known kind

A `Reader α` reads one value from the front of a text and gives it with the text behind it, or the first
problem. Here are the readers of whole numbers, floats and truth values, the loops over the elements of a
list and the members of an object, and `document`, which reads a text that holds one value and nothing
else.

**How a mismatch is reported.** A value of another kind is itself read far enough to say what it is
(`found?`); text that is no value at all is malformed. Lists and objects are named by their bracket alone.
-/

namespace ChannelSurvey.Json

/-- Reads a value from the front of a text. -/
abbrev Reader (α : Type) := List Char → Except Fault (α × List Char)

/-- The value that stands at the front of a text, so far as a message needs it. -/
def found? (cs : List Char) : Option Found :=
  match cs with
  | '"' :: rest => (readText rest).map fun r => .text (String.ofList r.1)
  | '[' :: _ => some .sequence
  | '\x7b' :: _ => some .map
  | 'n' :: 'u' :: 'l' :: 'l' :: _ => some .null
  | 't' :: 'r' :: 'u' :: 'e' :: _ => some (.bool true)
  | 'f' :: 'a' :: 'l' :: 's' :: 'e' :: _ => some (.bool false)
  | cs => (readNumber cs).map fun r => match r.1 with | .integer n => .integer n | .real x => .real x

/-- The complaint about a value that is not of the wanted kind. -/
def mismatch (wanted : String) (cs : List Char) : Fault :=
  match found? (skipBlanks cs) with
  | some found => .unsuitable (.wrongType found wanted)
  | none => .malformed

/-! ## Scalars -/

/-- Reads a whole number between two bounds. -/
def integerReader (wanted : String) (low high : Int) : Reader Int := fun cs =>
  match readNumber (skipBlanks cs) with
  | some (.integer n, rest) =>
    if low ≤ n ∧ n ≤ high then .ok (n, rest) else .error (.unsuitable (.outOfRange n wanted))
  | _ => .error (mismatch wanted cs)

def byteReader : Reader UInt8 := fun cs => do
  let (n, rest) ← integerReader "u8" 0 255 cs
  return (UInt8.ofNat n.toNat, rest)

def wordReader : Reader UInt32 := fun cs => do
  let (n, rest) ← integerReader "u32" 0 4294967295 cs
  return (UInt32.ofNat n.toNat, rest)

def counterReader : Reader UInt64 := fun cs => do
  let (n, rest) ← integerReader "u64" 0 18446744073709551615 cs
  return (UInt64.ofNat n.toNat, rest)

def levelReader : Reader Int8 := fun cs => do
  let (n, rest) ← integerReader "i8" (-128) 127 cs
  return (Int8.ofInt n, rest)

def floatReader : Reader Float := fun cs =>
  match readNumber (skipBlanks cs) with
  | some (n, rest) => .ok (n.toFloat, rest)
  | none => .error (mismatch "f64" cs)

def boolReader : Reader Bool := fun cs =>
  match skipBlanks cs with
  | 't' :: 'r' :: 'u' :: 'e' :: rest => .ok (true, rest)
  | 'f' :: 'a' :: 'l' :: 's' :: 'e' :: rest => .ok (false, rest)
  | _ => .error (mismatch "a boolean" cs)

/-- Reads a character that must come next, behind any blanks. -/
def expect (c : Char) (cs : List Char) : Except Fault (List Char) :=
  match next? cs with
  | some (d, rest) => if d = c then .ok rest else .error .malformed
  | none => .error .malformed

/-! ## Lists and objects

The loops fold a state over the elements or members. `budget` bounds how many are read; the length of the
text is always enough. -/

/-- Reads the elements of a list behind its opening bracket, up to and with the closing one. -/
def readElements {σ : Type} (element : σ → Reader σ) :
    (budget : Nat) → (isFirst : Bool) → σ → Reader σ
  | 0, _, _, _ => .error .malformed
  | budget + 1, isFirst, state, cs =>
    match next? cs with
    | some (']', rest) => .ok (state, rest)
    | some (c, rest) =>
      if isFirst then do
        let (state, rest) ← element state cs
        readElements element budget false state rest
      else if c = ',' then
        match next? rest with
        | none | some (']', _) => .error .malformed
        | some _ => do
          let (state, rest) ← element state rest
          readElements element budget false state rest
      else .error .malformed
    | none => .error .malformed

/-- Reads the members of an object behind its opening bracket, up to and with the closing one. A member is
read from behind the opening quote of its name. -/
def readMembers {σ : Type} (member : σ → Reader σ) :
    (budget : Nat) → (isFirst : Bool) → σ → Reader σ
  | 0, _, _, _ => .error .malformed
  | budget + 1, isFirst, state, cs =>
    match next? cs with
    | some ('\x7d', rest) => .ok (state, rest)
    | some (c, rest) =>
      if isFirst then
        if c = '"' then do
          let (state, rest) ← member state rest
          readMembers member budget false state rest
        else .error .malformed
      else if c = ',' then
        match next? rest with
        | some ('"', rest) => do
          let (state, rest) ← member state rest
          readMembers member budget false state rest
        | _ => .error .malformed
      else .error .malformed
    | none => .error .malformed

/-- Reads a list into a state, element by element. -/
def listReader {σ : Type} (start : σ) (element : σ → Reader σ) : Reader σ := fun cs =>
  match next? cs with
  | some ('[', rest) => readElements element (rest.length + 1) true start rest
  | _ => .error (mismatch "a sequence" cs)

/-- Reads an object into a state, member by member. -/
def mapReader {σ : Type} (start : σ) (member : σ → Reader σ) : Reader σ := fun cs =>
  match next? cs with
  | some ('\x7b', rest) => readMembers member (rest.length + 1) true start rest
  | _ => .error (mismatch "a map" cs)

/-! ## Documents -/

/-- Reads a text that holds one value. -/
def document {α : Type} (reader : Reader α) (text : String) : Except Fault α := do
  let (value, rest) ← reader text.toList
  match next? rest with
  | none => .ok value
  | some _ => .error .malformed

end ChannelSurvey.Json

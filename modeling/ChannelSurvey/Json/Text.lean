/-!
# Strings of a document

`readText` reads the characters of a string up to its closing quote and resolves the escapes. A control
character, an unknown escape and a surrogate without its partner are refused. `skipText` passes over a
string that nobody wants: it checks the form of the escapes and not what they stand for.
-/

namespace ChannelSurvey.Json

def hexDigit? (c : Char) : Option Nat :=
  if '0' ≤ c ∧ c ≤ '9' then some (c.toNat - '0'.toNat)
  else if 'a' ≤ c ∧ c ≤ 'f' then some (c.toNat - 'a'.toNat + 10)
  else if 'A' ≤ c ∧ c ≤ 'F' then some (c.toNat - 'A'.toNat + 10)
  else none

def hexNumber? (a b c d : Char) : Option Nat := do
  let a ← hexDigit? a
  let b ← hexDigit? b
  let c ← hexDigit? c
  let d ← hexDigit? d
  return ((a * 16 + b) * 16 + c) * 16 + d

/-- The character of an escape of one letter. -/
def escaped? : Char → Option Char
  | '"' => some '"'
  | '\\' => some '\\'
  | '/' => some '/'
  | 'b' => some '\x08'
  | 'f' => some '\x0c'
  | 'n' => some '\n'
  | 'r' => some '\r'
  | 't' => some '\t'
  | _ => none

/-- Whether a number is the first half of a surrogate pair. -/
def isHighSurrogate (n : Nat) : Bool :=
  0xD800 ≤ n && n ≤ 0xDBFF

/-- Whether a number is the second half of a surrogate pair. -/
def isLowSurrogate (n : Nat) : Bool :=
  0xDC00 ≤ n && n ≤ 0xDFFF

def joined (high low : Nat) : Char :=
  Char.ofNat (0x10000 + (high - 0xD800) * 0x400 + (low - 0xDC00))

/-- Reads a string behind its opening quote: its characters, and the text behind the closing quote. -/
def readText : List Char → Option (List Char × List Char)
  | [] => none
  | '"' :: rest => some ([], rest)
  | '\\' :: 'u' :: a :: b :: c :: d :: rest => do
    let n ← hexNumber? a b c d
    if isLowSurrogate n then none
    else if isHighSurrogate n then
      match rest with
      | '\\' :: 'u' :: a :: b :: c :: d :: rest => do
        let low ← hexNumber? a b c d
        if isLowSurrogate low then
          let (text, rest) ← readText rest
          return (joined n low :: text, rest)
        else none
      | _ => none
    else
      let (text, rest) ← readText rest
      return (Char.ofNat n :: text, rest)
  | '\\' :: e :: rest => do
    let c ← escaped? e
    let (text, rest) ← readText rest
    return (c :: text, rest)
  | c :: rest =>
    if c < ' ' ∨ c = '\\' then none
    else do
      let (text, rest) ← readText rest
      return (c :: text, rest)

/-- Passes over a string behind its opening quote. -/
def skipText : List Char → Option (List Char)
  | [] => none
  | '"' :: rest => some rest
  | '\\' :: 'u' :: a :: b :: c :: d :: rest =>
    if (hexNumber? a b c d).isSome then skipText rest else none
  | '\\' :: e :: rest => if (escaped? e).isSome then skipText rest else none
  | c :: rest => if c < ' ' ∨ c = '\\' then none else skipText rest

end ChannelSurvey.Json

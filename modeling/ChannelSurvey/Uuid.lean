/-!
# Random identifiers

A random identifier is sixteen bytes, six bits of which are fixed: four say that it is random (version 4),
two say how it is laid out. It is written in lower-case hexadecimal digits in five groups.
-/

namespace ChannelSurvey.Uuid

/-- The sixteen bytes with the fixed bits set. -/
def mark (index : Nat) (byte : UInt8) : UInt8 :=
  if index = 6 then byte &&& 0x0F ||| 0x40
  else if index = 8 then byte &&& 0x3F ||| 0x80
  else byte

def hexByte (byte : UInt8) : List Char :=
  [Nat.digitChar (byte.toNat / 16), Nat.digitChar (byte.toNat % 16)]

/-- The identifier of sixteen random bytes. -/
def ofBytes (bytes : List UInt8) : String :=
  String.ofList (bytes.zipIdx.flatMap fun (byte, index) =>
    (if index = 4 ∨ index = 6 ∨ index = 8 ∨ index = 10 then ['-'] else []) ++ hexByte (mark index byte))

/-- Whether a character may stand at a place of an identifier. -/
def fits (index : Nat) (c : Char) : Bool :=
  if index = 8 ∨ index = 13 ∨ index = 18 ∨ index = 23 then c = '-'
  else if index = 14 then c = '4'
  else if index = 19 then c = '8' || c = '9' || c = 'a' || c = 'b'
  else c.isDigit || ('a' ≤ c && c ≤ 'f')

/-- Whether a text is a random identifier. -/
def isRandom (s : String) : Bool :=
  s.length = 36 && s.toList.zipIdx.all fun (c, index) => fits index c

end ChannelSurvey.Uuid

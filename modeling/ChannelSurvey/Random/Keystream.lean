/-!
# The ChaCha keystream with twelve rounds

`keystream key counter` is one block of sixteen words, a function of the key and the number of the
block. A block is the mixed state plus the state it was mixed from; the state holds four constants, the
eight words of the key, the block number as two words, and a stream number, which is zero here.
-/

namespace ChannelSurvey.Random

/-- Sixteen words: a state, or a block of the keystream. -/
abbrev Block := Vector UInt32 16

abbrev Key := Vector UInt32 8

def rotateLeft (x : UInt32) (n : UInt32) : UInt32 :=
  x <<< n ||| x >>> (32 - n)

def rotateRight (x : UInt32) (n : UInt32) : UInt32 :=
  x >>> n ||| x <<< ((32 - n) % 32)

/-- Adds word `b` to word `a`, and turns word `d` by the sum. -/
def mixPair (s : Block) (a b d : Fin 16) (n : UInt32) : Block :=
  let sum := s[a] + s[b]
  (s.set a sum).set d (rotateLeft (s[d] ^^^ sum) n)

/-- The quarter round on four words. -/
def quarterRound (s : Block) (a b c d : Fin 16) : Block :=
  let s := mixPair s a b d 16
  let s := mixPair s c d b 12
  let s := mixPair s a b d 8
  mixPair s c d b 7

/-- A round over the columns of the state and one over its diagonals. -/
def doubleRound (s : Block) : Block :=
  let s := quarterRound s 0 4 8 12
  let s := quarterRound s 1 5 9 13
  let s := quarterRound s 2 6 10 14
  let s := quarterRound s 3 7 11 15
  let s := quarterRound s 0 5 10 15
  let s := quarterRound s 1 6 11 12
  let s := quarterRound s 2 7 8 13
  quarterRound s 3 4 9 14

/-- The state a block is mixed from. -/
def initialState (key : Key) (counter : UInt64) : Block :=
  #v[0x61707865, 0x3320646e, 0x79622d32, 0x6b206574,
    key[0], key[1], key[2], key[3], key[4], key[5], key[6], key[7],
    counter.toUInt32, (counter >>> 32).toUInt32, 0, 0]

def mixed (s : Block) : Block :=
  Nat.repeat doubleRound 6 s

def keystream (key : Key) (counter : UInt64) : Block :=
  let s := initialState key counter
  Vector.zipWith (· + ·) (mixed s) s

end ChannelSurvey.Random

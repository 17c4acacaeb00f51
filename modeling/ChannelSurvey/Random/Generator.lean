import ChannelSurvey.Random.Keystream

/-!
# A seeded generator of words

A `Generator` hands out the words of a keystream one after the other, block after block. A wide word is
two words, the low half first; none is skipped to align it. The key is drawn from a seed by a linear
congruential sequence whose states are folded into words.
-/

namespace ChannelSurvey.Random

/-- A place in a keystream: the block at hand, and how many of its words are spent. -/
structure Generator where
  key : Key
  counter : UInt64
  block : Block
  spent : Nat

/-- The words of a key: states of a linear congruential sequence, each folded and turned. -/
def keyWords : Nat → UInt64 → List UInt32
  | 0, _ => []
  | n + 1, state =>
    let state := state * 6364136223846793005 + 11634580027462260723
    let folded := (((state >>> 18) ^^^ state) >>> 27).toUInt32
    rotateRight folded (state >>> 59).toUInt32 :: keyWords n state

/-- A key has as many words as it is asked for. -/
theorem length_keyWords (n : Nat) (state : UInt64) : (keyWords n state).length = n := by
  induction n generalizing state with
  | zero => rfl
  | succ n ih => exact congrArg (· + 1) (ih _)

namespace Generator

/-- The generator of a seed, at the start of its keystream. -/
def ofSeed (seed : UInt64) : Generator where
  key := ⟨(keyWords 8 seed).toArray, length_keyWords 8 seed⟩
  counter := 0
  block := Vector.replicate 16 0
  spent := 16

def word (g : Generator) : UInt32 × Generator :=
  if h : g.spent < 16 then (g.block[g.spent], { g with spent := g.spent + 1 })
  else
    let block := keystream g.key g.counter
    (block[0], { g with counter := g.counter + 1, block, spent := 1 })

def wideWord (g : Generator) : UInt64 × Generator :=
  let (low, g) := g.word
  let (high, g) := g.word
  (low.toUInt64 ||| high.toUInt64 <<< 32, g)

end Generator

end ChannelSurvey.Random

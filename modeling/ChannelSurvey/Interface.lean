import ChannelSurvey.Channel
import ChannelSurvey.Settings
import ChannelSurvey.Severity

/-!
# The interface under configuration

An `Interface` is the state a sweep works on: the channel list, what the radio can do, the settings, and
the counters of the sweep in progress. `record` stores a sample; `clear` is the one way back to a clean
interface, and it keeps the channel list, the capability, the settings and the operating channel.
-/

namespace ChannelSurvey

/-- One access point radio while its channel is being chosen. -/
structure Interface where
  /-- Channels of the current band, ascending. -/
  channels : List Channel
  /-- The radio can leave the operating channel and come back. -/
  offChannelCapable : Bool
  settings : Settings
  /-- Lowest noise floor over every channel measured in this sweep. -/
  quietest : Option Int8 := none
  /-- Position in `channels` of the channel being measured. -/
  position : Nat := 0
  /-- Rounds finished in this sweep. -/
  roundsDone : UInt32 := 0
  /-- Channels that produced at least one sample. -/
  surveyed : Nat := 0
  /-- The operating channel, once a sweep has chosen one. -/
  operating : Option UInt8 := none
  deriving DecidableEq, Inhabited

namespace Interface

def indexOf? (i : Interface) (freq : UInt32) : Option Nat :=
  i.channels.findIdx? (·.freq == freq)

/-- No channel holds survey data and every counter of the sweep is reset. -/
def isClean (i : Interface) : Bool :=
  i.quietest.isNone && i.position == 0 && i.roundsDone == 0 && i.surveyed == 0
    && i.channels.all (·.isClean)

/-- Drops every sample and resets the counters of the sweep. -/
def clear (i : Interface) : Interface :=
  { i with
    channels := i.channels.map (·.clear)
    quietest := none
    position := 0
    roundsDone := 0
    surveyed := 0 }

/-- Stores a sample for the channel at `index`; an index without a channel stores nothing. -/
def record (i : Interface) (index : Nat) (s : Sample) : Interface :=
  match i.channels[index]? with
  | none => i
  | some c =>
    { i with
      channels := i.channels.set index (c.record s)
      surveyed := if c.count = 0 then i.surveyed + 1 else i.surveyed
      quietest := some (quieter i.quietest s.noise) }

/-- What storing a sample writes to the log: a warning for an unknown channel, a remark for times that
do not fit together. -/
def recordLog (i : Interface) (index : Nat) (s : Sample) : List Severity :=
  if i.channels.length ≤ index then [.warn]
  else if s.isConsistent then []
  else [.debug]

def recordAll (i : Interface) (index : Nat) (samples : List Sample) : Interface :=
  samples.foldl (·.record index ·) i

/-- Drops the survey data of the channel at `index`, leaving the counters of the sweep alone. -/
def clearChannel (i : Interface) (index : Nat) : Interface :=
  { i with channels := i.channels.modify index (·.clear) }

end Interface

end ChannelSurvey

/-!
# Settings of a sweep

How many rounds a sweep makes over the enabled channels, and how long it dwells on each.
-/

namespace ChannelSurvey

/-- Rounds made unless told otherwise. -/
def defaultRounds : UInt32 := 10

/-- Dwell per measurement in milliseconds unless told otherwise. -/
def defaultDwell : UInt32 := 5

/-- What can be tuned about a sweep. -/
structure Settings where
  /-- Full rounds over all enabled channels. -/
  rounds : UInt32 := defaultRounds
  /-- Milliseconds off the operating channel per measurement. -/
  dwell : UInt32 := defaultDwell
  deriving DecidableEq, Repr, Inhabited

/-- A sweep makes at least one round, whatever the settings say. -/
def Settings.target (s : Settings) : UInt32 :=
  max s.rounds 1

end ChannelSurvey

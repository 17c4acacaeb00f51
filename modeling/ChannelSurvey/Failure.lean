/-!
# Why a sweep fails

A `Refusal` is a request the radio did not accept; a `Failure` is what ends a sweep without a usable
channel. Both are causes; their wording is in `message`.
-/

namespace ChannelSurvey

/-- A request the radio did not accept, or reported as failed. -/
inductive Refusal where
  | kickoff (reason : String)
  | offChannel (freq : UInt32) (reason : String)
  /-- Leaving the operating channel was accepted and then went wrong. -/
  | offChannelStatus (freq : UInt32) (status : Int32)
  | survey (freq : UInt32) (reason : String)
  deriving DecidableEq, Repr, Inhabited

/-- What must hold for a sweep to start or to go on. -/
inductive Precondition where
  /-- The interface holds no survey data when a sweep starts. -/
  | noSurveyData
  /-- The radio can transmit off the operating channel. -/
  | offChannelCapable
  /-- The position of the walk lies within the channel list. -/
  | positionInRange
  /-- A further round finds an enabled channel. -/
  | channelEnabled
  deriving DecidableEq, Repr, Inhabited

/-- What the service that owns the interface says about a selected channel. -/
inductive Verdict where
  /-- It accepted the channel and finished bringing it up. -/
  | valid
  /-- It could not use the channel. -/
  | invalid
  /-- It has more work pending, which counts as a rejection. -/
  | inProgress
  deriving DecidableEq, Repr, Inhabited

/-- A verdict that is not acceptance. -/
inductive Rejection where
  | invalid
  | inProgress
  deriving DecidableEq, Repr, Inhabited

/-- Why a sweep ended without a usable channel. -/
inductive Failure where
  | unmet (p : Precondition)
  | refused (r : Refusal)
  /-- The radio came back from a channel before the dwell was over. -/
  | cancelled (freq : UInt32) (status : Int32)
  /-- No channel produced a sample. -/
  | noUsableData
  /-- There are samples, but no channel can be scored. -/
  | noIdealChannel
  | rejected (number : UInt8) (why : Rejection)
  /-- A sweep was started while another was running. -/
  | alreadyRunning
  deriving DecidableEq, Repr, Inhabited

def Refusal.message : Refusal → String
  | kickoff reason => s!"initial scan request rejected: {reason}"
  | offChannel freq reason => s!"request to go off-channel on {freq} MHz rejected: {reason}"
  | offChannelStatus freq status => s!"off-channel notification on {freq} MHz reported status {status}"
  | survey freq reason => s!"failed to get survey data for {freq} MHz: {reason}"

def Precondition.message : Precondition → String
  | noSurveyData => "survey data from a previous sweep is still present"
  | offChannelCapable => "offchannel TX support required"
  | positionInRange => "channel index out of bounds"
  | channelEnabled => "no enabled channel left to survey"

def Rejection.message : Rejection → String
  | invalid => "invalid"
  | inProgress => "still in progress"

def Failure.message : Failure → String
  | unmet p => "precondition unmet: " ++ p.message
  | refused r => "driver request failed: " ++ r.message
  | cancelled freq status => s!"off-channel request on {freq} MHz was cancelled (status {status})"
  | noUsableData => "unable to collect any useful survey data"
  | noIdealChannel => "survey data was collected but no ideal channel could be computed"
  | rejected number why =>
    s!"channel {number} was selected but the interface rejected it (" ++ why.message ++ ")"
  | alreadyRunning => "a channel survey sweep is already in progress"

end ChannelSurvey

import ChannelSurvey.Failure
import ChannelSurvey.Selection

/-!
# The vocabulary of a sweep

A sweep is a state machine. It stands in a `Phase`, takes one `Event` at a time, and asks for at most one
`Action`; what comes of an action returns as a further event. What can be told from outside is its
`Outcome`.

    idle --start--> kickoff --scan done--> scanning --dwell over--> surveying
                                              ^                         |
                                              +----- next channel ------+
                                                                        |
                        roundComplete <------ past the last channel ----+
                          |      |
       more rounds -------+      +-- select --> awaitingVerdict --valid--> done
-/

namespace ChannelSurvey

/-- Where a sweep stands. -/
inductive Phase where
  | idle
  /-- Waiting for the kick-off scan. -/
  | kickoff
  /-- Off the operating channel, on the channel at `index`, or on the way there. -/
  | scanning (index : Nat) (freq : UInt32)
  /-- Waiting for the survey counters of the channel at `index`. -/
  | surveying (index : Nat) (freq : UInt32)
  /-- Every channel of the round has been visited. -/
  | roundComplete
  /-- The selected channel was handed over; waiting for the verdict. -/
  | awaitingVerdict (s : Selection)
  | done (s : Selection)
  | failed (f : Failure)
  deriving DecidableEq, Inhabited

/-- What can be told of a sweep from outside. -/
inductive Outcome where
  | inProgress
  | selected (s : Selection)
  | failed (f : Failure)
  deriving DecidableEq, Inhabited

/-- What a sweep asks of its surroundings. -/
inductive Action where
  | requestKickoff
  | requestOffChannel (freq dwell : UInt32)
  | requestTraffic (freq : UInt32)
  | reportSelected (s : Selection)
  | reportFailed (f : Failure)
  deriving DecidableEq, Inhabited

/-- What a sweep is told. -/
inductive Event where
  | kickoffComplete
  /-- The radio arrived on a channel, or failed to when `status` is not zero. -/
  | ready (freq dwell : UInt32) (status : Int32)
  /-- The radio left the channel again; `status` is zero when the dwell was completed. -/
  | cancelled (freq dwell : UInt32) (status : Int32)
  | survey (freq : UInt32) (samples : List Sample)
  | refused (r : Refusal)
  | verdict (v : Verdict)
  deriving DecidableEq, Inhabited

namespace Phase

/-- While a sweep is active the interface belongs to it. -/
def isActive : Phase → Bool
  | idle | done _ | failed _ => false
  | kickoff | scanning .. | surveying .. | roundComplete | awaitingVerdict _ => true

/-- The outcome so far; none if no sweep was ever started. -/
def outcome? : Phase → Option Outcome
  | idle => none
  | done s => some (.selected s)
  | failed f => some (.failed f)
  | kickoff | scanning .. | surveying .. | roundComplete | awaitingVerdict _ => some .inProgress

/-- Forgets a finished sweep; a running one stays. -/
def reset (p : Phase) : Phase :=
  if p.isActive then p else idle

end Phase

end ChannelSurvey

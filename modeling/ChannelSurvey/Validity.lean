import ChannelSurvey.Band
import ChannelSurvey.Decimal.Layout
import ChannelSurvey.Profile
import ChannelSurvey.Settings

/-!
# What is refused as invalid

Settings without rounds or without dwell, and shares that are none. `check` gives the first violation it
meets; the wording is in `Violation.message`.
-/

namespace ChannelSurvey

/-- A value that is well formed and cannot be used. -/
inductive Violation where
  | noRounds
  | noDwell
  | notAShare (share : Share) (value : Float)
  /-- A violation within the profile of a channel. -/
  | ofChannel (number : UInt8) (share : Share) (value : Float)
  /-- A channel number that the band does not define. -/
  | notInBand (number : UInt8) (band : Band)
  deriving DecidableEq, Inhabited

def Share.label : Share → String
  | busy => "busy_fraction"
  | own => "tx_fraction"
  | busyJitter => "busy_jitter"

/-- Says which share is wrong and what it is. -/
def Share.complaint (share : Share) (value : Float) : String :=
  share.label ++ " must be within [0, 1], got " ++ Decimal.Layout.plain.render value

def Violation.message : Violation → String
  | noRounds => "num_req_surveys must be at least 1"
  | noDwell => "roc_duration_ms must be positive"
  | notAShare share value => share.complaint value
  | ofChannel number share value => s!"channel {number}: " ++ share.complaint value
  | notInBand number band => s!"channel {number} is not part of the " ++ band.label ++ " band"

/-- Settings need a round and a dwell. -/
def Settings.check (s : Settings) : Except Violation Unit :=
  if s.rounds = 0 then .error .noRounds
  else if s.dwell = 0 then .error .noDwell
  else .ok ()

/-- The first share of a profile that is none. -/
def Profile.wrongShare? (p : Profile) : Option Share :=
  [Share.busy, .own, .busyJitter].find? fun share => !isShare (p.share share)

/-- A profile's shares must be shares. -/
def Profile.check (p : Profile) : Except Violation Unit :=
  match p.wrongShare? with
  | some share => .error (.notAShare share (p.share share))
  | none => .ok ()

end ChannelSurvey

import ChannelSurvey.Radio.Simulated
import ChannelSurvey.Validity

/-!
# Scenarios

A scenario describes an environment to rehearse a sweep in: a band, the channels that are disabled, and
the traffic on each channel. `interface` and `radio` build the two sides of the rehearsal from it, and
`check` says what is wrong with a scenario.
-/

namespace ChannelSurvey

/-- A simulated environment. -/
structure Scenario where
  band : Band
  disabled : List UInt8 := []
  /-- The profile of channels without one of their own. -/
  defaultProfile : Profile := {}
  /-- Profiles by channel number, ascending, one per number. -/
  profiles : List (UInt8 × Profile) := []
  offChannelCapable : Bool := true
  deriving DecidableEq, Inhabited

/-- The list with the profile of one number put in its place, instead of any it had. -/
def insertProfile (number : UInt8) (p : Profile) : List (UInt8 × Profile) → List (UInt8 × Profile)
  | [] => [(number, p)]
  | e :: rest =>
    if number < e.1 then (number, p) :: e :: rest
    else if number = e.1 then (number, p) :: rest
    else e :: insertProfile number p rest

namespace Scenario

/-- The first listed profile with a wrong share. -/
def wrongProfile? (s : Scenario) : Option Violation :=
  s.profiles.findSome? fun (number, p) =>
    p.wrongShare?.map fun share => .ofChannel number share (p.share share)

/-- The first number, of a profile or of a disabled channel, that the band does not define. -/
def strayNumber? (s : Scenario) : Option UInt8 :=
  (s.profiles.map (·.1) ++ s.disabled).find? fun number => (s.band.frequency? number).isNone

/-- Profiles must be valid, the default one first, and numbers must belong to the band. -/
def check (s : Scenario) : Except Violation Unit := do
  s.defaultProfile.check
  match s.wrongProfile? with
  | some v => .error v
  | none => .ok ()
  match s.strayNumber? with
  | some number => .error (.notInBand number s.band)
  | none => .ok ()

/-- The channels of the scenario's band, the listed ones disabled. -/
def channels (s : Scenario) : List Channel :=
  disableListed s.disabled s.band.plan

def interface (s : Scenario) (settings : Settings) : Interface :=
  { channels := s.channels, offChannelCapable := s.offChannelCapable, settings }

def radio (s : Scenario) (seed : UInt64) : SimulatedRadio :=
  s.profiles.foldl
    (fun r (number, p) =>
      match s.band.frequency? number with
      | some freq => r.setProfile freq p
      | none => r)
    { SimulatedRadio.new seed s.defaultProfile with offChannelCapable := s.offChannelCapable }

end Scenario

end ChannelSurvey

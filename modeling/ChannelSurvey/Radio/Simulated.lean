import ChannelSurvey.Frequency
import ChannelSurvey.Radio
import ChannelSurvey.Radio.Sampling
import ChannelSurvey.Sweep.Phase

/-!
# A simulated radio

A radio whose channels are traffic profiles and whose surveys are drawn from them. What hardware would
notify later is queued in `pending`: a kick-off scan that completes, and for each dwell the arrival and
then the end of it. A radio can be told to refuse requests, or to cut the dwells on a frequency short.
-/

namespace ChannelSurvey

/-- The status of a dwell that was cut short. -/
def cutShortStatus : Int32 := -125

/-- A radio backed by profiles and a seeded generator. -/
structure SimulatedRadio where
  offChannelCapable : Bool := true
  /-- The profile of every frequency that has none of its own. -/
  defaultProfile : Profile
  profiles : FreqTable Profile := {}
  generator : Random.Generator
  /-- Notifications not delivered yet, first one first. -/
  pending : List Event := []
  /-- The latest dwell asked for on a frequency. -/
  dwells : FreqTable UInt32 := {}
  refusesKickoff : Bool := false
  refusesOffChannel : List UInt32 := []
  refusesSurvey : List UInt32 := []
  cutsShort : List UInt32 := []
  /-- The frequencies visited, in order. -/
  visits : Array UInt32 := #[]
  /-- A survey was asked of a profile that has no sample; the radio is of no further use. -/
  broken : Bool := false

namespace SimulatedRadio

/-- A radio with one profile for every frequency. -/
def new (seed : UInt64) (profile : Profile) : SimulatedRadio :=
  { defaultProfile := profile, generator := .ofSeed seed }

def setProfile (r : SimulatedRadio) (freq : UInt32) (p : Profile) : SimulatedRadio :=
  { r with profiles := r.profiles.insert freq p }

def profileAt (r : SimulatedRadio) (freq : UInt32) : Profile :=
  (r.profiles.get? freq).getD r.defaultProfile

/-- Takes the next notification off the queue. -/
def nextEvent (r : SimulatedRadio) : Option (Event × SimulatedRadio) :=
  match r.pending with
  | [] => none
  | e :: rest => some (e, { r with pending := rest })

/-- The reason given for every refusal. -/
def refusalReason : String := "simulated rejection"

/-- Queues the end of a kick-off scan, unless it is refused. -/
def requestKickoff (r : SimulatedRadio) : Answer SimulatedRadio Unit :=
  if r.refusesKickoff then { reply := .error (.kickoff refusalReason), radio := r }
  else { reply := .ok (), radio := { r with pending := r.pending ++ [.kickoffComplete] } }

/-- Queues the arrival on a frequency and the end of the dwell, unless the dwell is refused. -/
def requestOffChannel (r : SimulatedRadio) (freq dwell : UInt32) : Answer SimulatedRadio Unit :=
  if r.refusesOffChannel.contains freq then
    { reply := .error (.offChannel freq refusalReason), radio := r }
  else
    let status := if r.cutsShort.contains freq then cutShortStatus else 0
    { reply := .ok ()
      radio :=
        { r with
          visits := r.visits.push freq
          dwells := r.dwells.insert freq dwell
          pending := r.pending ++ [.ready freq dwell 0, .cancelled freq dwell status] } }

/-- Draws one sample of the latest dwell on a frequency, of one millisecond if there was none. -/
def requestTraffic (r : SimulatedRadio) (freq : UInt32) : Answer SimulatedRadio (List Sample) :=
  if r.refusesSurvey.contains freq then { reply := .error (.survey freq refusalReason), radio := r }
  else
    match (r.profileAt freq).sample? ((r.dwells.get? freq).getD 1) r.generator with
    | some (s, generator) => { reply := .ok [s], radio := { r with generator }, log := [.debug] }
    | none => { reply := .ok [], radio := { r with broken := true } }

instance : Radio SimulatedRadio where
  offChannelCapable := offChannelCapable
  kickoff := requestKickoff
  goOffChannel := requestOffChannel
  readTraffic := requestTraffic

end SimulatedRadio

end ChannelSurvey

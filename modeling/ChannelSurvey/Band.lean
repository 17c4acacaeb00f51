import ChannelSurvey.Channel

/-!
# Bands and their channel plans

A band maps channel numbers to center frequencies (`frequency?`) and has a plan: the channels an
interface of that band starts with, in ascending order. The plan of the 5 GHz band holds the 20 MHz
channels only, so it has fewer numbers than the band has frequencies.
-/

namespace ChannelSurvey

/-- The two bands an access point can be set up in. -/
inductive Band where
  | ghz24
  | ghz5
  deriving DecidableEq, Repr, Inhabited

namespace Band

/-- The band's name for people. -/
def label : Band → String
  | ghz24 => "2.4 GHz"
  | ghz5 => "5 GHz"

/-- Center frequency of a channel number in MHz, if the band defines it. -/
def frequency? : Band → UInt8 → Option UInt32
  | ghz24, number =>
    if 1 ≤ number ∧ number ≤ 13 then some (2407 + 5 * number.toUInt32)
    else if number = 14 then some 2484
    else none
  | ghz5, number =>
    if 36 ≤ number ∧ number ≤ 177 then some (5000 + 5 * number.toUInt32) else none

/-- The numbers of a band's plan, ascending. -/
def planNumbers : Band → List UInt8
  | ghz24 => [1, 2, 3, 4, 5, 6, 7, 8, 9, 10, 11, 12, 13, 14]
  | ghz5 => [36, 40, 44, 48, 52, 56, 60, 64, 100, 104, 108, 112, 116, 120, 124, 128, 132, 136, 140, 144,
      149, 153, 157, 161, 165]

/-- Channel 14 is disabled from the start: few regions allow it. -/
def startsDisabled : Band → UInt8 → Bool
  | ghz24, number => number == 14
  | ghz5, _ => false

/-- The channels of a band, ascending, without survey data. -/
def plan (band : Band) : List Channel :=
  band.planNumbers.filterMap fun number =>
    (band.frequency? number).map fun freq => { number, freq, disabled := band.startsDisabled number }

end Band

/-- Disables every channel whose number is listed. -/
def disableListed (numbers : List UInt8) (channels : List Channel) : List Channel :=
  channels.map fun c => if numbers.contains c.number then { c with disabled := true } else c

end ChannelSurvey

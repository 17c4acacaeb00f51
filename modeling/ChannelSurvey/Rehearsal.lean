import ChannelSurvey.Radio.Simulated
import ChannelSurvey.Sweep.Dispatch

/-!
# Rehearsing a sweep

With a simulated radio a sweep can be run to its end: start it, then deliver the radio's notifications
one after the other until none is left.

**Why this ends.** A notification is delivered once, and only an accepted dwell brings new ones, two of
them. A sweep asks for at most one dwell per round and channel, so `deliveryBound` counts every
notification that can still come.
-/

namespace ChannelSurvey

/-- A station whose radio is simulated. -/
abbrev Rehearsal (η : Type) := Station SimulatedRadio η

structure Delivered (η : Type) where
  station : Rehearsal η
  count : Nat
  journal : Journal

namespace Rehearsal

variable {η : Type} [Host η] [BinaryLog]

/-- Delivers up to `limit` notifications. -/
def deliver (w : Rehearsal η) : (limit : Nat) → Delivered η
  | 0 => { station := w, count := 0, journal := [] }
  | limit + 1 =>
    match w.radio.nextEvent with
    | none => { station := w, count := 0, journal := [] }
    | some (e, radio) =>
      let run := Station.dispatch { w with radio } e
      let rest := deliver run.station limit
      { station := rest.station, count := rest.count + 1, journal := run.journal ++ rest.journal }

omit [Host η] [BinaryLog] in
/-- How many notifications a sweep that has just started can still bring. -/
def deliveryBound (w : Rehearsal η) : Nat :=
  w.radio.pending.length + 2 * (w.iface.settings.target.toNat * w.iface.channels.length)

/-- Starts a sweep and delivers every notification. -/
def runSweep (w : Rehearsal η) : Except Failure (Run SimulatedRadio η) :=
  (Station.startSweep w).map fun started =>
    let rest := Rehearsal.deliver started.station (deliveryBound started.station)
    { station := rest.station, journal := started.journal ++ rest.journal }

end Rehearsal

end ChannelSurvey

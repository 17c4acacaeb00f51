import ChannelSurvey.Json.Record
import ChannelSurvey.Json.Value
import ChannelSurvey.Scenario

/-!
# Documents of the domain

How settings, samples, capabilities, bands, profiles and scenarios are read from JSON documents and written
to them. Reading follows one `record` description each, which allows for missing and foreign members; a
written document (`toValue`) has every field, in the order of the description.
-/

namespace ChannelSurvey

open Json (Record Field Reader Fault Value)

def Settings.record : Record Settings where
  title := "AcsConfig"
  blank := {}
  fields :=
    [.of "num_req_surveys" false Json.wordReader fun s n => { s with rounds := n },
      .of "roc_duration_ms" false Json.wordReader fun s n => { s with dwell := n }]

def Settings.toValue (s : Settings) : Value :=
  .object [("num_req_surveys", .integer s.rounds.toNat), ("roc_duration_ms", .integer s.dwell.toNat)]

def Sample.record : Record Sample where
  title := "SurveySample"
  blank := default
  fields :=
    [.of "channel_time" true Json.counterReader fun s n => { s with total := n },
      .of "channel_time_busy" true Json.counterReader fun s n => { s with busy := n },
      .of "channel_time_tx" true Json.counterReader fun s n => { s with own := n },
      .of "nf" true Json.levelReader fun s n => { s with noise := n }]

def Sample.toValue (s : Sample) : Value :=
  .object
    [("channel_time", .integer s.total.toNat), ("channel_time_busy", .integer s.busy.toNat),
      ("channel_time_tx", .integer s.own.toNat), ("nf", .integer s.noise.toInt)]

/-- What a radio says it can do. -/
structure Capabilities where
  /-- It can leave the operating channel and come back. -/
  offChannel : Bool := false
  deriving DecidableEq, Repr, Inhabited

def Capabilities.record : Record Capabilities where
  title := "DriverCapabilities"
  blank := {}
  fields := [.of "offchannel_tx" true Json.boolReader fun c b => { c with offChannel := b }]

def Capabilities.toValue (c : Capabilities) : Value :=
  .object [("offchannel_tx", .bool c.offChannel)]

/-- A profile; without deviations unless the document gives some. -/
def Profile.record : Record Profile where
  title := "TrafficProfile"
  blank := { own := 0.0, noiseJitter := 0, busyJitter := 0.0 }
  fields :=
    [.of "busy_fraction" true Json.floatReader fun p x => { p with busy := x },
      .of "tx_fraction" false Json.floatReader fun p x => { p with own := x },
      .of "noise_floor" true Json.levelReader fun p n => { p with noise := n },
      .of "noise_jitter" false Json.byteReader fun p n => { p with noiseJitter := n },
      .of "busy_jitter" false Json.floatReader fun p x => { p with busyJitter := x }]

def Profile.toValue (p : Profile) : Value :=
  .object
    [("busy_fraction", .real p.busy), ("tx_fraction", .real p.own), ("noise_floor", .integer p.noise.toInt),
      ("noise_jitter", .integer p.noiseJitter.toNat), ("busy_jitter", .real p.busyJitter)]

/-! ## Bands -/

namespace Band

/-- The names a band goes by in documents, sorted within each band. -/
def names : List (String × Band) :=
  [("2.4ghz", ghz24), ("2g", ghz24), ("ghz2", ghz24), ("5g", ghz5), ("5ghz", ghz5), ("ghz5", ghz5)]

def name : Band → String
  | ghz24 => "ghz2"
  | ghz5 => "ghz5"

def toValue (band : Band) : Value :=
  .text band.name

/-- Reads the name of a band behind its opening quote. -/
def readName : Reader Band := fun cs =>
  match Json.readText cs with
  | none => .error .malformed
  | some (text, rest) =>
    let text := String.ofList text
    match names.lookup text with
    | some band => .ok (band, rest)
    | none => .error (.unsuitable (.unknownName text (names.map (·.1))))

/-- Reads the word `null`, which carries no content. -/
def readNothing (cs : List Char) : Except Fault (List Char) :=
  match Json.skipBlanks cs with
  | 'n' :: 'u' :: 'l' :: 'l' :: rest => .ok rest
  | _ => .error (Json.mismatch "unit" cs)

/-- Reads a band: its name, or an object whose one member has that name and no content. Anything else is
refused as no document, not as an unsuitable one. -/
def reader : Reader Band := fun cs =>
  match Json.next? cs with
  | some ('"', rest) => readName rest
  | some ('\x7b', rest) =>
    match Json.next? rest with
    | some ('"', inner) => do
      let (band, inner) ← readName inner
      let inner ← Json.expect ':' inner
      let inner ← readNothing inner
      let inner ← Json.expect '\x7d' inner
      return (band, inner)
    | _ => .error .malformed
  | _ => .error .malformed

end Band

/-! ## Scenarios -/

namespace Scenario

/-- Reads a channel number written as the name of a member, behind its opening quote. -/
def readNumberName : Reader UInt8 := fun cs =>
  match cs with
  | c :: _ =>
    if c.isDigit || c = '-' then do
      let (number, rest) ← Json.byteReader cs
      match rest with
      | '"' :: rest => .ok (number, rest)
      | _ => .error .malformed
    else .error .malformed
  | [] => .error .malformed

/-- Reads one profile with its channel number; of a number given twice the last profile counts. -/
def readProfile (known : List (UInt8 × Profile)) : Reader (List (UInt8 × Profile)) := fun cs => do
  let (number, rest) ← readNumberName cs
  let rest ← Json.expect ':' rest
  let (p, rest) ← Profile.record.reader rest
  return (insertProfile number p known, rest)

def readNumber (known : List UInt8) : Reader (List UInt8) := fun cs => do
  let (number, rest) ← Json.byteReader cs
  return (known ++ [number], rest)

/-- A scenario; only the band must be there. -/
def record : Record Scenario where
  title := "Scenario"
  blank := { band := default }
  fields :=
    [.of "band" true Band.reader fun s band => { s with band },
      .of "disabled" false (Json.listReader [] readNumber) fun s disabled => { s with disabled },
      .of "default_profile" false Profile.record.reader fun s p => { s with defaultProfile := p },
      .of "channels" false (Json.mapReader [] readProfile) fun s profiles => { s with profiles },
      .of "offchannel_tx" false Json.boolReader fun s b => { s with offChannelCapable := b }]

/-- A scenario as a document; the names of the profiles are the channel numbers. -/
def toValue (s : Scenario) : Value :=
  .object
    [("band", s.band.toValue), ("disabled", .list (s.disabled.map fun number => .integer number.toNat)),
      ("default_profile", s.defaultProfile.toValue),
      ("channels", .object (s.profiles.map fun (number, p) => (toString number, p.toValue))),
      ("offchannel_tx", .bool s.offChannelCapable)]

end Scenario

end ChannelSurvey

import ChannelSurvey.Cli.Arguments
import ChannelSurvey.Cli.Output
import ChannelSurvey.Decimal.Fixed
import ChannelSurvey.Json.Value
import ChannelSurvey.Loading
import ChannelSurvey.Rehearsal

/-!
# Simulating a sweep

`simulate` loads a scenario and the settings, rehearses a sweep, prints what it found, and makes a report if
one is asked for. The exit code is `2` when the scenario or the settings cannot be used, `0` when a channel
was selected and the report could be written, and `1` otherwise.

**Settings** come from the file if one is given, else from the defaults; an option replaces its field; and
only the result is checked, so a value that is replaced need not be valid.
-/

namespace ChannelSurvey.Cli

def version : String := "0.1.0"

/-! ## Settings -/

/-- Settings with the fields replaced that are given. -/
def override (s : Settings) (rounds dwell : Option UInt32) : Settings :=
  { rounds := rounds.getD s.rounds, dwell := dwell.getD s.dwell }

/-- The settings in force: file or defaults, then options, then the check. -/
def effectiveSettings (file : Option (Except LoadFault Settings)) (rounds dwell : Option UInt32) :
    Except LoadFault Settings := do
  let base ← file.getD (.ok {})
  checked Settings.check (override base rounds dwell)

/-! ## The rehearsal -/

/-- A host that accepts every selection and remembers the channels it saw. -/
structure Observer where
  channels : List Channel := []

instance : Host Observer where
  judge _ i := (.valid, { channels := i.channels })
  notify h _ _ := h

/-- What a simulation found. -/
structure Finding where
  /-- The channels at the time of the selection; none if there was no selection. -/
  channels : List Channel
  selection : Option Selection
  /-- Why there is no selection. -/
  problem : Option String

/-- Rehearses a sweep in a scenario. A sweep that could not start has no finding. -/
def rehearse [BinaryLog] (s : Scenario) (settings : Settings) (seed : UInt64) : Except Failure Finding := do
  let w : Rehearsal Observer :=
    { phase := .idle, iface := s.interface settings, radio := s.radio seed, host := {} }
  let run ← Rehearsal.runSweep w
  let channels := run.station.host.channels
  match run.station.outcome with
  | .selected chosen => return { channels, selection := some chosen, problem := none }
  | .failed f => return { channels, selection := none, problem := some f.message }
  | .inProgress => return { channels, selection := none, problem := some "sweep did not finish" }

/-! ## The table -/

def tableRow (mark number freq samples noise score : String) : String :=
  " ".intercalate [padRight 2 mark, padLeft 5 number, padLeft 7 freq, padLeft 8 samples, padLeft 7 noise,
    padLeft 12 score] ++ "\n"

def scoreCell (c : Channel) : String :=
  if c.disabled then "disabled"
  else match c.score with
    | some score => Decimal.fixed .printed 4 score
    | none => "-"

def noiseCell (c : Channel) : String :=
  match c.quietest with
  | some noise => toString noise
  | none => "-"

def channelRow (selected : Option UInt8) (c : Channel) : String :=
  tableRow (if selected = some c.number then "*" else " ") (toString c.number) (toString c.freq)
    (toString c.count) (noiseCell c) (scoreCell c)

/-- The table of the channels, if there are any. -/
def table (channels : List Channel) (selected : Option UInt8) : String :=
  if channels.isEmpty then ""
  else
    "\n" ++ tableRow "" "Chan" "Freq" "Samples" "Min NF" "Interference"
      ++ String.ofList (List.replicate 48 '-') ++ "\n"
      ++ String.join (channels.map (channelRow selected))

def Finding.text (f : Finding) : String :=
  table f.channels (f.selection.map (·.number)) ++
    match f.selection, f.problem with
    | some s, _ =>
      s!"\nIdeal channel: {s.number} ({s.freq} MHz), average interference factor "
        ++ Decimal.fixed .printed 4 s.score ++ "\n"
    | none, some problem => s!"\nChannel selection failed: {problem}\n"
    | none, none => ""

def Finding.code (f : Finding) : Nat :=
  if f.selection.isSome then 0 else 1

/-! ## The report -/

open Json (Value)

def channelReport (c : Channel) : Value :=
  .object
    [("chan", .integer c.number.toNat), ("freq", .integer c.freq.toNat), ("disabled", .bool c.disabled),
      ("samples", .integer c.count.toNat),
      ("min_nf", .ofOption (fun noise => .integer noise.toInt) c.quietest),
      ("interference_factor", .ofOption .real c.score)]

def Finding.report (f : Finding) (id : String) (o : SimulateOptions) (settings : Settings) : Value :=
  .object
    [("id", .text id), ("acsurvey_version", .text version), ("scenario", .text o.scenario),
      ("seed", .integer o.seed.toNat), ("config", settings.toValue),
      ("selected_channel", .ofOption (fun s => .integer s.number.toNat) f.selection),
      ("selected_freq", .ofOption (fun s => .integer s.freq.toNat) f.selection),
      ("error", .ofOption .text f.problem), ("channels", .list (f.channels.map channelReport))]

/-! ## The command -/

/-- What is printed once the report was written, or could not be. -/
def Finding.concluded (f : Finding) (path : String) : Except FileFault Unit → Output
  | .ok () => { stdout := f.text ++ s!"Report written to {path}\n", code := f.code }
  | .error fault => { stdout := f.text, stderr := [s!"Failed to write {path}: " ++ fault.message], code := 1 }

def SimulateOptions.load (o : SimulateOptions) (read : String → Except FileFault String) :
    Except LoadFault (Scenario × Settings) := do
  let scenario ← loadScenario o.scenario (read o.scenario)
  let file := o.settings.map fun path => ChannelSurvey.load Settings.record.reader path (read path)
  let settings ← effectiveSettings file o.rounds o.dwell
  return (scenario, settings)

/-- Runs a simulation, given how the files read and the identifier of the report. -/
def simulate [BinaryLog] (o : SimulateOptions) (read : String → Except FileFault String) (id : String) :
    Progress :=
  match o.load read with
  | .error fault => .ended { stderr := ["Error: " ++ fault.message], code := 2 }
  | .ok (scenario, settings) =>
    match rehearse scenario settings o.seed with
    | .error f => .ended { stderr := ["Error: " ++ f.message], code := 1 }
    | .ok finding =>
      match o.output with
      | none => .ended { stdout := finding.text, code := finding.code }
      | some path => .writing path (finding.report id o settings).pretty (finding.concluded path)

def SimulateOptions.paths (o : SimulateOptions) : List String :=
  o.scenario :: o.settings.toList

end ChannelSurvey.Cli

import ChannelSurvey.Severity
import ChannelSurvey.Sample
import ChannelSurvey.Channel
import ChannelSurvey.Band
import ChannelSurvey.Settings
import ChannelSurvey.Interface
import ChannelSurvey.Score
import ChannelSurvey.Selection
import ChannelSurvey.Failure
import ChannelSurvey.Sweep.Phase
import ChannelSurvey.Sweep.Step
import ChannelSurvey.Sweep.Station
import ChannelSurvey.Sweep.Rank
import ChannelSurvey.Sweep.Dispatch
import ChannelSurvey.Frequency
import ChannelSurvey.Profile
import ChannelSurvey.Validity
import ChannelSurvey.Random.Keystream
import ChannelSurvey.Random.Generator
import ChannelSurvey.Random.Deviation
import ChannelSurvey.Radio
import ChannelSurvey.Radio.Sampling
import ChannelSurvey.Radio.Simulated
import ChannelSurvey.Radio.Scripted
import ChannelSurvey.Scenario
import ChannelSurvey.Rehearsal
import ChannelSurvey.Decimal.Rounding
import ChannelSurvey.Decimal.Fixed
import ChannelSurvey.Decimal.Shortest
import ChannelSurvey.Decimal.Layout
import ChannelSurvey.Decimal.Nearest
import ChannelSurvey.Text.Hidden
import ChannelSurvey.Text.Quoted
import ChannelSurvey.Json.Fault
import ChannelSurvey.Json.Numeral
import ChannelSurvey.Json.Text
import ChannelSurvey.Json.Skip
import ChannelSurvey.Json.Reader
import ChannelSurvey.Json.Record
import ChannelSurvey.Json.Value
import ChannelSurvey.Document
import ChannelSurvey.Loading
import ChannelSurvey.Uuid
import ChannelSurvey.Cli.Arguments
import ChannelSurvey.Cli.Output
import ChannelSurvey.Cli.Plan
import ChannelSurvey.Cli.Score
import ChannelSurvey.Cli.Simulate
import ChannelSurvey.Cli.Run
import ChannelSurvey.MachineLog
import ChannelSurvey.Main
import ChannelSurvey.Proofs.Binary.Rounding
import ChannelSurvey.Proofs.Binary.Packing
import ChannelSurvey.Proofs.Binary.Value
import ChannelSurvey.Proofs.Binary.Arithmetic
import ChannelSurvey.Proofs.Binary.Nearest
import ChannelSurvey.Proofs.Interface.Clearing
import ChannelSurvey.Proofs.Interface.Holding
import ChannelSurvey.Proofs.Interface.Outline
import ChannelSurvey.Proofs.Interface.Storing
import ChannelSurvey.Proofs.Score.Baseline
import ChannelSurvey.Proofs.Score.Order
import ChannelSurvey.Proofs.Score.Factor
import ChannelSurvey.Proofs.Score.Dominance
import ChannelSurvey.Proofs.Selection.Candidate
import ChannelSurvey.Proofs.Selection.Ideal
import ChannelSurvey.Proofs.Selection.Scoring
import ChannelSurvey.Proofs.Selection.Reading
import ChannelSurvey.Proofs.Selection.Shifting
import ChannelSurvey.Proofs.Sweep.Awaited
import ChannelSurvey.Proofs.Sweep.Course
import ChannelSurvey.Proofs.Sweep.Route
import ChannelSurvey.Proofs.Sweep.Chronicle
import ChannelSurvey.Proofs.Sweep.Verdict
import ChannelSurvey.Proofs.Sweep.Fresh
import ChannelSurvey.Proofs.Sweep.Exit
import ChannelSurvey.Proofs.Sweep.Operating
import ChannelSurvey.Proofs.Sweep.Flags
import ChannelSurvey.Proofs.Sweep.Bounds
import ChannelSurvey.Proofs.Station.Balance
import ChannelSurvey.Proofs.Station.Reporting
import ChannelSurvey.Proofs.Station.Resting
import ChannelSurvey.Proofs.Radio.Pending
import ChannelSurvey.Proofs.Radio.Sampling
import ChannelSurvey.Proofs.Radio.Draws
import ChannelSurvey.Proofs.Radio.Consistency
import ChannelSurvey.Proofs.Radio.Answering
import ChannelSurvey.Proofs.Rehearsal.Refinement
import ChannelSurvey.Proofs.Rehearsal.Willing
import ChannelSurvey.Proofs.Rehearsal.Seeds
import ChannelSurvey.Proofs.Rehearsal.Surveyed
import ChannelSurvey.Proofs.Cli.Table
import ChannelSurvey.Proofs.Cli.Simulation
import ChannelSurvey.Proofs.Band.Planned
import ChannelSurvey.Proofs.Json.Grammar
import ChannelSurvey.Proofs.Json.Scanning
import ChannelSurvey.Proofs.Json.Passing
import ChannelSurvey.Proofs.Json.Exactness
import ChannelSurvey.Proofs.Json.Recovery
import ChannelSurvey.Proofs.Json.Written
import ChannelSurvey.Proofs.Json.Assembly
import ChannelSurvey.Proofs.Json.Keeping
import ChannelSurvey.Proofs.Document.Restoring
import ChannelSurvey.Proofs.Document.Listing
import ChannelSurvey.Proofs.Rehearsal.Agreement
import ChannelSurvey.Proofs.Rehearsal.Acceptance
import ChannelSurvey.Proofs.Cli.Effective

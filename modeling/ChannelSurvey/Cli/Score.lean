import ChannelSurvey.Cli.Arguments
import ChannelSurvey.Cli.Output
import ChannelSurvey.Decimal.Fixed
import ChannelSurvey.Score

/-!
# Scoring one sample
-/

namespace ChannelSurvey.Cli

def ScoreOptions.sample (o : ScoreOptions) : Sample :=
  { total := o.total, busy := o.busy, own := o.own, noise := o.noise }

/-- Repeats the sample and gives its factor against the baseline, which is its own noise floor unless one is
given. A degenerate sample is an error. -/
def score [BinaryLog] (o : ScoreOptions) : Output :=
  let baseline := o.baseline.getD o.noise
  let heading :=
    s!"Sample: total={o.total} busy={o.busy} tx={o.own} nf={o.noise} dBm (sweep min {baseline} dBm)\n"
  match o.sample.factor baseline with
  | some factor =>
    let remark := if factor ≤ idleFactor then " (idle apart from own traffic)" else ""
    { stdout := heading ++ "  Interference factor: " ++ Decimal.fixed .printed 6 factor ++ remark ++ "\n" }
  | none =>
    { stdout := heading, stderr := ["  Degenerate sample: needs total > tx and busy >= tx"], code := 1 }

end ChannelSurvey.Cli

import ChannelSurvey.Cli.Plan
import ChannelSurvey.Cli.Score
import ChannelSurvey.Cli.Simulate
import ChannelSurvey.Uuid

/-!
# Running the program

`Request.run` answers a request up to the point where a file has to be written. How files read and what comes of
writing one is left to whoever runs it.
-/

namespace ChannelSurvey.Cli

/-- How the program is used, line by line. -/
def usageLines : List String :=
  ["Usage: acsurvey [-v] <simulate | plan | score> [options]",
    "",
    "  simulate --scenario <file> [--config <file>] [--rounds <n>] [--dwell-ms <n>] [--seed <n>]",
    "           [--output <file>]",
    "  plan     [--band <2g | 5g>]",
    "  score    --busy <n> --total <n> --nf <dBm> [--tx <n>] [--min-nf <dBm>]"]

def usage : String :=
  String.join (usageLines.map (· ++ "\n"))

def Request.run [BinaryLog] (r : Request) (read : String → Except FileFault String) (id : String) :
    Progress :=
  match r with
  | .help => .ended { stdout := usage }
  | .version => .ended { stdout := "acsurvey " ++ Cli.version ++ "\n" }
  | .command (.plan band) => .ended (plan band)
  | .command (.score o) => .ended (score o)
  | .command (.simulate o) => simulate o read id

def usageCode : Nat := 2

end ChannelSurvey.Cli

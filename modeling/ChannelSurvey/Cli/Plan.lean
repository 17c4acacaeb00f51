import ChannelSurvey.Band
import ChannelSurvey.Cli.Output

/-!
# Listing a channel plan
-/

namespace ChannelSurvey.Cli

/-- The band of a name; a name that is none is mentioned and stands for 2.4 GHz. -/
def bandNamed (name : String) : Band × List String :=
  match name with
  | "5g" | "5" | "5ghz" => (.ghz5, [])
  | "2g" | "2" | "2.4" | "2.4ghz" => (.ghz24, [])
  | _ => (.ghz24, [s!"Unknown band '{name}', using 2g"])

def planLine (c : Channel) : String :=
  "  " ++ (if c.disabled then "✗" else "✓") ++ " " ++ padLeft 4 (toString c.number) ++ "  "
    ++ padLeft 5 (toString c.freq) ++ " MHz\n"

/-- The plan of a band: how many channels there are, and each of them. -/
def planListing (band : Band) : String :=
  let channels := band.plan
  let enabled := (channels.filter fun c => !c.disabled).length
  band.label ++ s!" band: {channels.length} channel(s), {enabled} enabled\n\n"
    ++ String.join (channels.map planLine)

def plan (name : String) : Output :=
  let (band, remarks) := bandNamed name
  { stdout := planListing band, stderr := remarks }

end ChannelSurvey.Cli

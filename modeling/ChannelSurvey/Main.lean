import ChannelSurvey.Cli.Run
import ChannelSurvey.MachineLog

/-!
# The program

Reads the files a command needs, prints what it leaves, writes its report. Everything else is decided in
`ChannelSurvey.Cli`.
-/

namespace ChannelSurvey

/-- The number of a system error; some calls report it negated. -/
def errorNumber (code : UInt32) : Nat :=
  if code < 0x80000000 then code.toNat else (0 - code).toNat

/-- What the system said of a file. -/
def fileFault : IO.Error → FileFault
  | .noFileOrDirectory .. => .noEntry
  | .inappropriateType _ code _ => if errorNumber code = 20 then .notDirectory else .isDirectory
  | .permissionDenied _ code _ => .system "Permission denied" (errorNumber code)
  | .invalidArgument _ code details | .resourceExhausted _ code details =>
    .system details (errorNumber code)
  | e => .system (toString e) 5

def readText (path : String) : IO (Except FileFault String) := do
  try
    return textOfBytes (← IO.FS.readBinFile path)
  catch e => return .error (fileFault e)

def writeText (path text : String) : IO (Except FileFault Unit) := do
  try
    IO.FS.writeFile path text
    return .ok ()
  catch e => return .error (fileFault e)

def finish (o : Cli.Output) : IO UInt32 := do
  IO.print o.stdout
  o.stderr.forM IO.eprintln
  return UInt32.ofNat o.code

def pathsOf : Cli.Request → List String
  | .command (.simulate o) => o.paths
  | _ => []

def run (arguments : List String) : IO UInt32 := do
  match Cli.Request.parse arguments with
  | .error e =>
    IO.eprintln ("error: " ++ e.message ++ "\n\n" ++ Cli.usage)
    return UInt32.ofNat Cli.usageCode
  | .ok request =>
    let mut texts := []
    for path in pathsOf request do
      texts := (path, ← readText path) :: texts
    let id := Uuid.ofBytes (← IO.getRandomBytes 16).toList
    let known := texts
    match request.run (fun path => (known.lookup path).getD (.error .noEntry)) id with
    | .ended o => finish o
    | .writing path text after => finish (after (← writeText path text))

end ChannelSurvey

def main (arguments : List String) : IO UInt32 :=
  ChannelSurvey.run arguments

import ChannelSurvey.Loading

/-!
# What a command leaves behind

A command prints to two streams and ends with a code. Before it ends it may have one file to write; then the
rest depends on how that goes (`Progress`).
-/

namespace ChannelSurvey.Cli

/-- What a command printed, and its exit code. -/
structure Output where
  stdout : String := ""
  stderr : List String := []
  code : Nat := 0
  deriving DecidableEq, Repr, Inhabited

/-- A command up to the point where it has ended or has a file to write. -/
inductive Progress where
  | ended (o : Output)
  /-- A text to be written to a path, and what follows from how that goes. -/
  | writing (path text : String) (after : Except FileFault Unit → Output)

/-- Columns of a table: `s` moved to the right end of `width` characters. -/
def padLeft (width : Nat) (s : String) : String :=
  String.ofList (List.replicate (width - s.length) ' ') ++ s

/-- `s` at the left end of `width` characters. -/
def padRight (width : Nat) (s : String) : String :=
  s ++ String.ofList (List.replicate (width - s.length) ' ')

end ChannelSurvey.Cli

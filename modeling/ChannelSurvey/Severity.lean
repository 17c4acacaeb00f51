/-!
# Log severities

The library says what it does while it works by the severity of each message; the wording of a
message is a matter of whoever shows it.
-/

namespace ChannelSurvey

/-- How serious a log message is, most serious first. -/
inductive Severity where
  /-- A sweep failed. -/
  | error
  /-- Something was ignored that should not have happened. -/
  | warn
  /-- A milestone of a sweep. -/
  | info
  /-- A detail of a decision. -/
  | debug
  /-- Every request and every step of the walk. -/
  | trace
  deriving DecidableEq, Repr

end ChannelSurvey

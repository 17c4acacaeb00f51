import ChannelSurvey.Sweep.Station

/-!
# The rank of an action

A survey may lead to a request or a report, a request or a report to the report of a failure, and that
to nothing. `Action.rank` counts this, and **the law** (`rank_lt_of_answer`) says it of every radio, every
host and every phase: the answer to an action leads only to an action of lower rank. Carrying out an
action and what follows from it therefore ends, after three actions at most.
-/

namespace ChannelSurvey

/-- How far an action is from the end of what it can lead to. -/
def Action.rank : Action → Nat
  | .reportFailed _ => 0
  | .requestKickoff | .requestOffChannel .. | .reportSelected _ => 1
  | .requestTraffic _ => 2

namespace Sweep

/-- A failure is reported. -/
theorem fail_action (i : Interface) (f : Failure) : (fail i f).action = some (.reportFailed f) := rfl

/-- What was logged before a step changes nothing it asks for. -/
theorem after_action (s : Step) (log : List Severity) : (s.after log).action = s.action := rfl

/-- Advancing asks for a dwell, or reports a failure. -/
theorem advance_rank {p : Phase} {i : Interface} {a : Action} (h : (advance p i).action = some a) :
    a.rank ≤ 1 := by
  unfold advance at h
  split at h
  · cases h
  · split at h
    · rw [fail_action] at h; cases h; exact Nat.zero_le _
    · split at h
      · cases h; exact Nat.le_refl _
      · cases h

/-- A refused request leads to nothing but the report of a failure. -/
theorem onRefused_rank {p : Phase} {i : Interface} {r : Refusal} {a : Action}
    (h : (onRefused p i r).action = some a) : a.rank = 0 := by
  unfold onRefused at h
  split at h
  · rw [fail_action] at h; cases h; rfl
  · cases h

/-- A verdict leads to nothing but the report of a failure. -/
theorem onVerdict_rank {p : Phase} {i : Interface} {v : Verdict} {a : Action}
    (h : (onVerdict p i v).action = some a) : a.rank = 0 := by
  unfold onVerdict at h
  split at h
  · split at h
    · cases h
    · rw [fail_action] at h; cases h; rfl
    · rw [fail_action] at h; cases h; rfl
  · cases h

variable [BinaryLog]

/-- The end of the last round leads to a report. -/
theorem conclude_rank {i : Interface} {a : Action} (h : (conclude i).action = some a) : a.rank ≤ 1 := by
  unfold conclude at h
  split at h
  · rw [fail_action] at h; cases h; exact Nat.zero_le _
  · simp only at h
    split at h
    · rw [after_action, fail_action] at h; cases h; exact Nat.zero_le _
    · cases h; exact Nat.le_refl _

omit [BinaryLog] in
/-- A further round begins with a request, or fails. -/
theorem nextRound_rank {i : Interface} {a : Action} (h : (nextRound i).action = some a) : a.rank ≤ 1 := by
  unfold nextRound at h
  simp only at h
  split at h
  · rw [after_action, fail_action] at h; cases h; exact Nat.zero_le _
  · exact advance_rank h

/-- The end of a round leads to a request or a report, but to no survey. -/
theorem closeRound_rank {p : Phase} {i : Interface} {a : Action} (h : (closeRound p i).action = some a) :
    a.rank ≤ 1 := by
  unfold closeRound at h
  split at h
  · simp only at h
    split at h
    · exact nextRound_rank h
    · exact conclude_rank h
  · cases h

/-- Survey counters never lead to another survey at once. -/
theorem onSurvey_rank {p : Phase} {i : Interface} {freq : UInt32} {samples : List Sample} {a : Action}
    (h : (onSurvey p i freq samples).action = some a) : a.rank ≤ 1 := by
  unfold onSurvey at h
  split at h
  · split at h
    · simp only at h
      split at h
      · rw [after_action] at h; exact closeRound_rank h
      · exact advance_rank h
    · cases h
  · cases h

end Sweep

/-- **The answer to an action leads only to an action of lower rank.** -/
theorem rank_lt_of_answer {ρ η : Type} [Radio ρ] [Host η] [BinaryLog] {w : Station ρ η} {a b : Action}
    {e : Event} {p : Phase} {i : Interface} (answered : (w.perform a).answer = some e)
    (asked : (Sweep.handle p i e).action = some b) : b.rank < a.rank := by
  unfold Sweep.handle at asked
  split at asked
  · cases asked
  · cases a with
    | requestKickoff =>
      simp only [Station.perform] at answered
      split at answered
      · cases answered
      · cases answered
        rw [Sweep.onRefused_rank asked]
        exact Nat.succ_pos _
    | requestOffChannel freq dwell =>
      simp only [Station.perform] at answered
      split at answered
      · cases answered
      · cases answered
        rw [Sweep.onRefused_rank asked]
        exact Nat.succ_pos _
    | requestTraffic freq =>
      simp only [Station.perform] at answered
      split at answered
      · cases answered
        exact Nat.lt_succ_of_le (Sweep.onSurvey_rank asked)
      · cases answered
        rw [Sweep.onRefused_rank asked]
        exact Nat.succ_pos _
    | reportSelected s =>
      cases answered
      rw [Sweep.onVerdict_rank asked]
      exact Nat.succ_pos _
    | reportFailed f => cases answered

end ChannelSurvey

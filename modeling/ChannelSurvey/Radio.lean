import ChannelSurvey.Failure
import ChannelSurvey.Interface

/-!
# What a sweep needs of its surroundings

A `Radio` accepts requests; scans and dwells are answered later by notifications, survey counters at
once. A `Host` is the service that owns the interface: it gives the verdict on a selection and is told
of a failure. Both are any type of states with functions between them, so whatever is shown of a sweep
for every radio and every host holds for these.
-/

namespace ChannelSurvey

/-- A radio's answer to a request: what it says, what it is afterwards, and what it logs. -/
structure Answer (ρ α : Type) where
  reply : Except Refusal α
  radio : ρ
  log : List Severity := []

/-- The hardware side of a survey. -/
class Radio (ρ : Type) where
  /-- The radio can leave the operating channel and come back. -/
  offChannelCapable : ρ → Bool
  /-- A scan to wake the hardware up. -/
  kickoff : ρ → Answer ρ Unit
  /-- Leave the operating channel for a frequency, for so many milliseconds. -/
  goOffChannel : ρ → (freq dwell : UInt32) → Answer ρ Unit
  readTraffic : ρ → (freq : UInt32) → Answer ρ (List Sample)

/-- The service side of a survey. -/
class Host (η : Type) where
  /-- The verdict on a selection; the interface's operating channel is the selected one. -/
  judge : η → Interface → Verdict × η
  /-- A sweep failed, so that the service can fall back to its own channel policy. -/
  notify : η → Interface → Failure → η

/-- Either of two radios. -/
instance {ρ σ : Type} [Radio ρ] [Radio σ] : Radio (ρ ⊕ σ) where
  offChannelCapable
    | .inl r => Radio.offChannelCapable r
    | .inr s => Radio.offChannelCapable s
  kickoff
    | .inl r => let a := Radio.kickoff r; { a with radio := .inl a.radio }
    | .inr s => let a := Radio.kickoff s; { a with radio := .inr a.radio }
  goOffChannel
    | .inl r, freq, dwell => let a := Radio.goOffChannel r freq dwell; { a with radio := .inl a.radio }
    | .inr s, freq, dwell => let a := Radio.goOffChannel s freq dwell; { a with radio := .inr a.radio }
  readTraffic
    | .inl r, freq => let a := Radio.readTraffic r freq; { a with radio := .inl a.radio }
    | .inr s, freq => let a := Radio.readTraffic s freq; { a with radio := .inr a.radio }

end ChannelSurvey

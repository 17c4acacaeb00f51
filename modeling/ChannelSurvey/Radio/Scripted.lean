import ChannelSurvey.Frequency
import ChannelSurvey.Radio

/-!
# A radio and a host with their answers laid down

For rehearsing a sweep: a `ScriptedRadio` answers each request from a script and notifies nobody, a
`ScriptedHost` gives its verdicts from a list.
-/

namespace ChannelSurvey

/-- A radio that answers from a script. Requests without a refusal are accepted. -/
structure ScriptedRadio where
  offChannelCapable : Bool := true
  kickoffRefusal : Option Refusal := none
  offChannelRefusals : FreqTable Refusal := {}
  /-- Replies to surveys of a frequency, used up one by one. -/
  surveys : FreqTable (List (Except Refusal (List Sample))) := {}
  /-- The reply once those are used up. -/
  lastly : Except Refusal (List Sample) := .ok []

namespace ScriptedRadio

/-- Accepts, or refuses as the script says. -/
def reply (refusal : Option Refusal) : Except Refusal Unit :=
  match refusal with
  | some r => .error r
  | none => .ok ()

def nextSurvey (r : ScriptedRadio) (freq : UInt32) : Answer ScriptedRadio (List Sample) :=
  match r.surveys.get? freq with
  | some (next :: rest) => { reply := next, radio := { r with surveys := r.surveys.insert freq rest } }
  | some [] | none => { reply := r.lastly, radio := r }

instance : Radio ScriptedRadio where
  offChannelCapable := offChannelCapable
  kickoff r := { reply := reply r.kickoffRefusal, radio := r }
  goOffChannel r freq _ := { reply := reply (r.offChannelRefusals.get? freq), radio := r }
  readTraffic := nextSurvey

end ScriptedRadio

/-- A host that gives the listed verdicts in order, and accepts once they are used up. -/
structure ScriptedHost where
  verdicts : List Verdict := []

/-- Verdicts are taken from the list; failures are not remembered. -/
instance : Host ScriptedHost where
  judge h _ :=
    match h.verdicts with
    | v :: rest => (v, ⟨rest⟩)
    | [] => (.valid, h)
  notify h _ _ := h

end ChannelSurvey

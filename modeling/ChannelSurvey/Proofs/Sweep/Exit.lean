import ChannelSurvey.MachineLog
import ChannelSurvey.Proofs.Sweep.Fresh
import ChannelSurvey.Proofs.Sweep.Operation

/-!
# One way out

A sweep can end in a dozen places: at a start that finds a precondition unmet, at a refused request or a
notification with a bad status, at the end of a walk, at a verdict. `Ends` says that a step has just reached
an end, and `Interface.frame` what of an interface is neither survey data nor a counter nor the operating
channel.

**The law** (`exit_of_operation`): in any phase and on any interface, whatever survey data it holds, an
operation that ends the sweep leaves the interface as it was found, but cleared. No operation touches the
frame.

A step may store samples, count a round and score channels before it ends the sweep. That none of this shows
rests on the laws of `clear`: each of these is forgotten by clearing (`clear_recordAll`, `clear_select`).
-/

namespace ChannelSurvey

/-- The sweep has ended, one way or the other. -/
def Phase.isOver : Phase → Bool
  | done _ | failed _ => true
  | idle | kickoff | scanning .. | surveying .. | roundComplete | awaitingVerdict _ => false

/-- The number of a channel, its frequency and its flag. -/
def Channel.identity (c : Channel) : UInt8 × UInt32 × Bool :=
  (c.number, c.freq, c.disabled)

namespace Interface

/-- **The frame of an interface**: the channels with their flags, the settings and what the radio can do. -/
def frame (i : Interface) : Interface :=
  i.clear.unassigned

/-- What clearing leaves includes the frame. -/
theorem frame_of_clear {i j : Interface} (h : i.clear = j.clear) : i.frame = j.frame :=
  congrArg unassigned h

@[simp] theorem frame_clear (i : Interface) : i.clear.frame = i.frame :=
  frame_of_clear (clear_clear i)

@[simp] theorem frame_recordAll (i : Interface) (index : Nat) (samples : List Sample) :
    (i.recordAll index samples).frame = i.frame :=
  frame_of_clear (clear_recordAll i index samples)

@[simp] theorem frame_select [BinaryLog] (i : Interface) : i.select.iface.frame = i.frame :=
  frame_of_clear (clear_select i)

/-- Interfaces with one frame have the same channels with the same flags, in order, the same settings and
the same capability. -/
theorem eq_of_frame {i j : Interface} (h : i.frame = j.frame) :
    i.channels.map (·.identity) = j.channels.map (·.identity) ∧ i.settings = j.settings ∧
      i.offChannelCapable = j.offChannelCapable := by
  have hforget (k : Interface) : k.frame.channels.map (·.identity) = k.channels.map (·.identity) := by
    show (k.channels.map (·.clear)).map (·.identity) = _
    rw [List.map_map]
    rfl
  have hsettings := congrArg settings h
  have hcapable := congrArg offChannelCapable h
  refine ⟨?_, hsettings, hcapable⟩
  rw [← hforget i, h, hforget j]

end Interface

namespace Sweep

/-- **A step ends a sweep** when it stands at an end it has just reached: another one than before, or one it
asks to report. -/
def Ends (p : Phase) (s : Step) : Prop :=
  s.phase.isOver = true ∧ (s.phase ≠ p ∨ s.action ≠ none)

/-- **A tidy step** from a phase and an interface: the sweep is not at an end after it, or has just reached
one with the interface cleared, or nothing happened at all. -/
inductive Tidy (p : Phase) (i : Interface) (s : Step) : Prop
  | underway (going : s.phase.isOver = false)
  | cleared (reached : s.phase ≠ p ∨ s.action ≠ none) (clean : s.iface = i.clear)
  | stayed (phase : s.phase = p) (iface : s.iface = i) (quiet : s.action = none)

variable {p : Phase} {i : Interface} {step : Step}

/-- Messages make nothing untidy. -/
theorem Tidy.after (h : Tidy p i step) (log : List Severity) : Tidy p i (step.after log) := by
  cases h with
  | underway going => exact .underway going
  | cleared reached clean => exact .cleared reached clean
  | stayed phase iface quiet => exact .stayed phase iface quiet

/-- What is ignored leaves everything as it stood. -/
theorem tidy_ignore (p : Phase) (i : Interface) (log : List Severity) : Tidy p i (ignore p i log) :=
  .stayed rfl rfl rfl

/-- A failure is tidy, since it clears the interface. -/
theorem tidy_fail {i j : Interface} (h : j.clear = i.clear) (p : Phase) (f : Failure) : Tidy p i (fail j f) :=
  .cleared (.inr (Option.some_ne_none _)) h

/-- A tidy step that ends the sweep leaves the interface cleared. -/
theorem Tidy.clear_of_ends (h : Tidy p i step) (ends : Ends p step) : step.iface = i.clear := by
  obtain ⟨ended, reached⟩ := ends
  cases h with
  | underway going =>
    rw [going] at ended
    cases ended
  | cleared _ clean => exact clean
  | stayed phase _ quiet =>
    rcases reached with other | reports
    · exact absurd phase other
    · exact absurd quiet reports

/-- A step that stands at an end without having reached it has done nothing. -/
theorem Tidy.eq_of_not_ends (h : Tidy p i step) (ended : step.phase.isOver = true) (stays : ¬ Ends p step) :
    step.phase = p ∧ step.iface = i := by
  cases h with
  | underway going =>
    rw [going] at ended
    cases ended
  | cleared reached _ => exact absurd ⟨ended, reached⟩ stays
  | stayed phase iface _ => exact ⟨phase, iface⟩

/-! ## Steps -/

/-- A move to a channel keeps the frame. -/
theorem frame_toward (i : Interface) (s : Stop) : (toward i s).iface.frame = i.frame := rfl

/-- So does an accepted start. -/
theorem Started.frame (started : Started i step) : step.iface.frame = i.frame := by
  cases started <;> exact i.frame_clear

/-- A start is tidy: it ends the sweep only by a failure. -/
theorem Started.tidy (started : Started i step) (p : Phase) : Tidy p i step := by
  cases started with
  | dirty | incapable => exact (tidy_fail rfl p _).after _
  | begun => exact .underway rfl

/-- Advancing keeps the frame, whatever it comes to. -/
theorem advance_frame (p : Phase) (i : Interface) : (advance p i).iface.frame = i.frame := by
  unfold advance
  split
  · rfl
  · split
    · exact i.frame_clear
    · split <;> rfl

/-- Advancing is tidy. -/
theorem advance_tidy (p : Phase) (i : Interface) : Tidy p i (advance p i) := by
  unfold advance
  split
  · exact tidy_ignore p i _
  · split
    · exact tidy_fail rfl p _
    · split
      · exact .underway rfl
      · exact .underway rfl

section

variable [BinaryLog] {e : Event}

/-- The end of a round keeps the frame. -/
theorem Closed.frame (closing : Closed i step) : step.iface.frame = i.frame := by
  cases closing with
  | again => rfl
  | noChannel | noData | noIdeal => exact i.frame_clear
  | selected => exact Interface.frame_select (roundAdded i)

/-- However a round is closed, the samples it stored are gone when the sweep ends. -/
theorem Closed.tidy {j : Interface} (closing : Closed j step) (stored : j.clear = i.clear) (p : Phase) :
    Tidy p i step := by
  cases closing with
  | again | selected => exact .underway rfl
  | noChannel | noData | noIdeal => exact (tidy_fail stored p _).after _

/-- **No event touches the frame.** -/
theorem Handled.frame (handled : Handled p i e step) : step.iface.frame = i.frame := by
  cases handled with
  | ignored | dwelt => rfl
  | refused | notReady | cutShort | noChannel | outOfRange | accepted | rejected => exact i.frame_clear
  | @opened _ s => exact (frame_toward i.clear s).trans i.frame_clear
  | @next _ index _ samples s => exact (frame_toward _ s).trans (i.frame_recordAll index samples)
  | @closed _ index _ samples _ _ _ _ closing =>
    have hstored : (roundStored i index samples).frame = i.frame := i.frame_recordAll index samples
    exact closing.frame.trans hstored

/-- **Every event is handled tidily.** -/
theorem Handled.tidy (handled : Handled p i e step) : Tidy p i step := by
  cases handled with
  | ignored => exact tidy_ignore p i _
  | refused | notReady | cutShort | rejected => exact tidy_fail rfl _ _
  | noChannel | outOfRange => exact (tidy_fail rfl _ _).after _
  | opened | dwelt | next => exact .underway rfl
  | @closed _ index _ samples _ _ _ _ closing =>
    have hstored : (roundStored i index samples).clear = i.clear := i.clear_recordAll index samples
    exact (closing.tidy hstored _).after _
  | accepted => exact .cleared (.inl (fun h => by cases h)) rfl

/-! ## Operations -/

/-- **No operation touches the frame.** -/
theorem frame_step (x : State) (o : Operation) : (o.step x).iface.frame = x.iface.frame := by
  cases o with
  | start =>
    cases hstart : start x.phase x.iface with
    | error f =>
      simp only [Operation.step, hstart]
      rfl
    | ok step =>
      simp only [Operation.step, hstart]
      exact (start_started hstart).2.frame
  | handle e => exact (handle_handled x.phase x.iface e).frame
  | ready freq dwell status => exact (onReady_handled x.phase x.iface freq dwell status).frame
  | cancelled freq dwell status => exact (onCancelled_handled x.phase x.iface freq dwell status).frame
  | refused r => exact (onRefused_handled x.phase x.iface r).frame
  | advance => exact advance_frame x.phase x.iface
  | closeRound =>
    obtain ⟨p, i⟩ := x
    cases p with
    | roundComplete => exact (closeRound_closed i).frame
    | _ => rfl
  | reset => rfl

/-- **Every operation is tidy**, also one called out of turn. -/
theorem tidy_step (x : State) (o : Operation) : Tidy x.phase x.iface (o.step x) := by
  cases o with
  | start =>
    cases hstart : start x.phase x.iface with
    | error f =>
      simp only [Operation.step, hstart]
      exact tidy_ignore _ _ _
    | ok step =>
      simp only [Operation.step, hstart]
      exact (start_started hstart).2.tidy x.phase
  | handle e => exact (handle_handled x.phase x.iface e).tidy
  | ready freq dwell status => exact (onReady_handled x.phase x.iface freq dwell status).tidy
  | cancelled freq dwell status => exact (onCancelled_handled x.phase x.iface freq dwell status).tidy
  | refused r => exact (onRefused_handled x.phase x.iface r).tidy
  | advance => exact advance_tidy x.phase x.iface
  | closeRound =>
    obtain ⟨p, i⟩ := x
    cases p with
    | roundComplete => exact (closeRound_closed i).tidy rfl _
    | _ => exact tidy_ignore _ _ _
  | reset =>
    obtain ⟨p, i⟩ := x
    cases p with
    | idle | done s | failed f => exact .underway rfl
    | _ => exact .stayed rfl rfl rfl

/-- **One way out.** In any phase and on any interface, an operation that ends the sweep leaves the interface
as it was found, but cleared; one that stands at an end without having reached it has changed nothing. No
operation changes a channel's number, frequency or flag, the settings or the capability, nor adds or drops a
channel. -/
theorem exit_of_operation (x : State) (o : Operation) :
    let step := o.step x
    (Ends x.phase step →
      step.iface = x.iface.clear ∧ step.iface.isClean = true ∧ step.iface.operating = x.iface.operating) ∧
    (step.phase.isOver = true → ¬ Ends x.phase step → step.phase = x.phase ∧ step.iface = x.iface) ∧
    step.iface.channels.map (·.identity) = x.iface.channels.map (·.identity) ∧
    step.iface.settings = x.iface.settings ∧
    step.iface.offChannelCapable = x.iface.offChannelCapable := by
  intro step
  have htidy : Tidy x.phase x.iface step := tidy_step x o
  refine ⟨?_, htidy.eq_of_not_ends, Interface.eq_of_frame (frame_step x o)⟩
  intro ends
  have hcleared : step.iface = x.iface.clear := htidy.clear_of_ends ends
  rw [hcleared]
  exact ⟨rfl, x.iface.isClean_clear, rfl⟩

end

/-- A survey that is the last of its sweep brings a degenerate sample to an interface where samples, scores
and counters of another kind were left. -/
theorem exit_of_operation_degenerate :
    let leftOver : Sample := { total := 10, busy := 10, own := 10, noise := -99 }
    let i : Interface :=
      { channels :=
          [{ number := 1, freq := 2412, count := 3, samples := #[leftOver], score := some 2 },
            { number := 6, freq := 2437, disabled := true, quietest := some (-80) }]
        offChannelCapable := false, settings := { rounds := 2, dwell := 5 }
        quietest := some (-70), position := 7, roundsDone := 1, surveyed := 4, operating := some 11 }
    let x : State := { phase := .surveying 0 2412, iface := i }
    let o : Operation := .handle (.survey 2412 [leftOver, leftOver])
    (o.step x).phase = .failed .noIdealChannel ∧ Ends x.phase (o.step x) ∧
      (o.step x).iface = i.clear ∧ (o.step x).iface.operating = some 11 := by
  intro leftOver i x o
  have hphase : (o.step x).phase = .failed .noIdealChannel := by decide
  have hends : Ends x.phase (o.step x) := by
    refine ⟨by rw [hphase]; rfl, .inl ?_⟩
    rw [hphase]
    decide
  obtain ⟨hcleared, _, hoperating⟩ := (exit_of_operation x o).1 hends
  exact ⟨hphase, hends, hcleared, hoperating⟩

end Sweep

end ChannelSurvey

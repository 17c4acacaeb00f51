import ChannelSurvey.MachineLog
import ChannelSurvey.Proofs.Sweep.Handled

/-!
# Nothing leaks from an earlier sweep

A start clears all survey data and every counter, and keeps the operating channel, which no step reads.
`unassigned` forgets the operating channel, of an interface or of a step.

**The law** (`steps_alike`): two starts on interfaces with the same channels, flags, settings and capability,
whatever else an earlier sweep left there, come to the same, and so does every event afterwards: the same
phase, the same action, the same messages and the same interface but for the operating channel.

Each function of a sweep comes to the same on an interface without its operating channel
(`advance_unassigned` up to `handle_unassigned`), so two interfaces that differ in nothing else are handled
alike (`handle_alike`); the run follows by induction on the events.
-/

namespace ChannelSurvey

/-- The interface with its operating channel forgotten. -/
def Interface.unassigned (i : Interface) : Interface :=
  { i with operating := none }

/-- The step with the operating channel forgotten. -/
def Step.unassigned (s : Step) : Step :=
  { s with iface := s.iface.unassigned }

/-- Taking the operating channel away twice is taking it away once. -/
theorem Step.unassigned_of_eq {s t : Step} (h : s = t.unassigned) : s.unassigned = t.unassigned := by
  rw [h]
  rfl

namespace Interface

/-- Storing a sample does not read the operating channel. -/
theorem record_unassigned (i : Interface) (index : Nat) (s : Sample) :
    i.unassigned.record index s = (i.record index s).unassigned := by
  cases hc : i.channels[index]? with
  | none => simp only [record, unassigned, hc]
  | some c => simp only [record, unassigned, hc]

/-- Storing samples does not read the operating channel. -/
theorem recordAll_unassigned (i : Interface) (index : Nat) (samples : List Sample) :
    i.unassigned.recordAll index samples = (i.recordAll index samples).unassigned := by
  induction samples generalizing i with
  | nil => rfl
  | cons s rest ih =>
    show (i.unassigned.record index s).recordAll index rest = ((i.record index s).recordAll index rest).unassigned
    rw [record_unassigned, ih]

/-- Nor does a selection. -/
theorem select_unassigned [BinaryLog] (i : Interface) :
    i.unassigned.select = { i.select with iface := i.select.iface.unassigned } := by
  have hbaseline : i.unassigned.baseline = i.baseline := rfl
  cases h : i.baseline with
  | none => simp only [select, hbaseline, h]
  | some baseline =>
    simp only [select, hbaseline, h]
    rfl

end Interface

namespace Sweep

/-! ## The walk -/

/-- Nor does advancing to the next channel. -/
theorem advance_unassigned (p : Phase) (i : Interface) :
    advance p i.unassigned = (advance p i).unassigned := by
  have hnext : nextEnabled i.unassigned = nextEnabled i := rfl
  unfold advance
  rw [hnext]
  by_cases inactive : (!p.isActive) = true
  · rw [if_pos inactive, if_pos inactive]
    rfl
  · rw [if_neg inactive, if_neg inactive]
    by_cases hrange : i.channels.length < i.position
    · rw [if_pos hrange]
      exact if_pos hrange
    · rw [if_neg hrange]
      refine (if_neg hrange).trans ?_
      cases nextEnabled i <;> rfl

/-- Opening a round does not read it. -/
theorem nextRound_unassigned (i : Interface) : nextRound i.unassigned = (nextRound i).unassigned := by
  have hadvance : advance .roundComplete { i.unassigned with position := 0 } =
      (advance .roundComplete { i with position := 0 }).unassigned := advance_unassigned _ { i with position := 0 }
  unfold nextRound
  rw [hadvance]
  obtain ⟨phase, iface, action, log⟩ := advance .roundComplete { i with position := 0 }
  cases phase <;> rfl

/-- A finished scan, which opens one, does not. -/
theorem onKickoffComplete_unassigned (p : Phase) (i : Interface) :
    onKickoffComplete p i.unassigned = (onKickoffComplete p i).unassigned := by
  cases p with
  | kickoff =>
    have hadvance : advance .kickoff i.unassigned.clear = (advance .kickoff i.clear).unassigned :=
      advance_unassigned _ i.clear
    simp only [onKickoffComplete, hadvance]
    obtain ⟨phase, iface, action, log⟩ := advance .kickoff i.clear
    cases phase <;> rfl
  | _ => rfl

/-! ## Requests and notifications -/

/-- A refusal does not read it. -/
theorem onRefused_unassigned (p : Phase) (i : Interface) (r : Refusal) :
    onRefused p i.unassigned r = (onRefused p i r).unassigned := by
  unfold onRefused
  split <;> rfl

/-- Nor does a dwell that begins. -/
theorem onReady_unassigned (p : Phase) (i : Interface) (freq : UInt32) (status : Int32) :
    onReady p i.unassigned freq status = (onReady p i freq status).unassigned := by
  unfold onReady
  split
  · exact onRefused_unassigned p i _
  · split <;> rfl

/-- Nor does a dwell that ends. -/
theorem onCancelled_unassigned (p : Phase) (i : Interface) (freq : UInt32) (status : Int32) :
    onCancelled p i.unassigned freq status = (onCancelled p i freq status).unassigned := by
  unfold onCancelled
  split
  · rfl
  · split
    · rfl
    · split
      · split <;> rfl
      · rfl

/-- Nor does a verdict. -/
theorem onVerdict_unassigned (p : Phase) (i : Interface) (v : Verdict) :
    onVerdict p i.unassigned v = (onVerdict p i v).unassigned := by
  cases p with
  | awaitingVerdict s => cases v <;> rfl
  | _ => rfl

/-! ## Surveys

A selection that is handed over becomes the operating channel, so from here on two steps are compared with
the operating channel forgotten on both sides. -/

section

variable [BinaryLog]

/-- The choice of a channel does not read it either. -/
theorem chosen?_unassigned (i : Interface) : i.unassigned.chosen? = i.chosen? := by
  rw [Interface.chosen?, Interface.select_unassigned]
  rfl

/-- A conclusion writes the operating channel without reading it. -/
theorem conclude_unassigned (i : Interface) : (conclude i.unassigned).unassigned = (conclude i).unassigned := by
  by_cases hsurveyed : i.surveyed = 0
  · have hnone (j : Interface) (h : j.surveyed = 0) : conclude j = fail j .noUsableData := if_pos h
    rw [hnone i hsurveyed, hnone i.unassigned hsurveyed]
    rfl
  · have hchosen := chosen?_unassigned i
    cases h : i.chosen? with
    | none =>
      rw [conclude_noIdeal hsurveyed h, conclude_noIdeal (i := i.unassigned) hsurveyed (hchosen.trans h),
        Interface.select_unassigned]
      rfl
    | some s =>
      rw [conclude_selected hsurveyed h, conclude_selected (i := i.unassigned) hsurveyed (hchosen.trans h),
        Interface.select_unassigned]
      rfl

/-- So does the end of a round, which may conclude. -/
theorem closeRound_unassigned (p : Phase) (i : Interface) :
    (closeRound p i.unassigned).unassigned = (closeRound p i).unassigned := by
  cases p with
  | roundComplete =>
    show (if i.roundsDone + 1 < i.settings.target then nextRound (roundAdded i).unassigned
      else conclude (roundAdded i).unassigned).unassigned =
      (if i.roundsDone + 1 < i.settings.target then nextRound (roundAdded i) else conclude (roundAdded i)).unassigned
    split
    · rw [nextRound_unassigned]
      rfl
    · exact conclude_unassigned (roundAdded i)
  | _ => rfl

/-- So does a survey, which may end the round. -/
theorem onSurvey_unassigned (p : Phase) (i : Interface) (freq : UInt32) (samples : List Sample) :
    (onSurvey p i.unassigned freq samples).unassigned = (onSurvey p i freq samples).unassigned := by
  cases p with
  | surveying index wanted =>
    by_cases hfreq : wanted = freq
    · have hadvance : advance (.surveying index wanted)
            { i.unassigned.recordAll index samples with position := index + 1 } =
          (advance (.surveying index wanted)
            { i.recordAll index samples with position := index + 1 }).unassigned := by
        rw [Interface.recordAll_unassigned]
        exact advance_unassigned _ { i.recordAll index samples with position := index + 1 }
      simp only [onSurvey, if_pos hfreq, hadvance]
      obtain ⟨phase, iface, action, log⟩ :=
        advance (.surveying index wanted) { i.recordAll index samples with position := index + 1 }
      cases phase with
      | roundComplete => exact congrArg (Step.after · _) (closeRound_unassigned .roundComplete iface)
      | _ => rfl
    · simp only [onSurvey, if_neg hfreq]
      rfl
  | _ => rfl

/-- **No step reads the operating channel.** -/
theorem handle_unassigned (p : Phase) (i : Interface) (e : Event) :
    (handle p i.unassigned e).unassigned = (handle p i e).unassigned := by
  unfold handle
  split
  · rfl
  · cases e with
    | kickoffComplete => exact Step.unassigned_of_eq (onKickoffComplete_unassigned p i)
    | ready freq dwell status => exact Step.unassigned_of_eq (onReady_unassigned p i freq status)
    | cancelled freq dwell status => exact Step.unassigned_of_eq (onCancelled_unassigned p i freq status)
    | survey freq samples => exact onSurvey_unassigned p i freq samples
    | refused r => exact Step.unassigned_of_eq (onRefused_unassigned p i r)
    | verdict v => exact Step.unassigned_of_eq (onVerdict_unassigned p i v)

/-! ## Two runs -/

/-- Interfaces that differ in the operating channel at most are handled alike. -/
theorem handle_alike {i j : Interface} (alike : i.unassigned = j.unassigned) (p : Phase) (e : Event) :
    (handle p i e).unassigned = (handle p j e).unassigned := by
  rw [← handle_unassigned p i, alike, handle_unassigned]

/-- The steps that events lead to, one after the other, from what a step left. -/
def steps (s : Step) : List Event → List Step
  | [] => []
  | e :: rest => handle s.phase s.iface e :: steps (handle s.phase s.iface e) rest

/-- Steps that differ only in the operating channel are followed by steps that do, by induction on the events. -/
theorem steps_congr {s t : Step} (alike : s.unassigned = t.unassigned) (events : List Event) :
    (steps s events).map (·.unassigned) = (steps t events).map (·.unassigned) := by
  induction events generalizing s t with
  | nil => rfl
  | cons e rest ih =>
    injection alike with hphase hiface
    have hstep : (handle s.phase s.iface e).unassigned = (handle t.phase t.iface e).unassigned := by
      rw [hphase]
      exact handle_alike hiface t.phase e
    rw [steps, steps, List.map_cons, List.map_cons, hstep, ih hstep]

omit [BinaryLog] in
/-- A cleared interface is what its channels, flags, settings and capability make it. -/
theorem clear_alike {i j : Interface} (layout : Interface.SameLayout i j)
    (capable : i.offChannelCapable = j.offChannelCapable) : i.clear.unassigned = j.clear.unassigned := by
  rw [Interface.unassigned, Interface.clear, layout.channels, layout.settings, capable]
  rfl

omit [BinaryLog] in
/-- Two inactive sweeps of one layout start alike, but for the operating channel. -/
theorem start_alike {i j : Interface} {p q : Phase} (layout : Interface.SameLayout i j)
    (capable : i.offChannelCapable = j.offChannelCapable) (hi : i.surveyed = 0) (hj : j.surveyed = 0)
    (hp : p.isActive = false) (hq : q.isActive = false) :
    ∃ s t, start p i = .ok s ∧ start q j = .ok t ∧ s.unassigned = t.unassigned := by
  have hclear := clear_alike layout capable
  unfold start
  rw [hp, hq, hi, hj, ← capable]
  cases i.offChannelCapable with
  | false =>
    refine ⟨_, _, rfl, rfl, ?_⟩
    simp only [Step.unassigned, Step.after, fail, hclear]
  | true =>
    refine ⟨_, _, rfl, rfl, ?_⟩
    simp only [Step.unassigned, hclear]

/-- **Nothing leaks from an earlier sweep.** Let two interfaces have the same channels, flags, settings and
capability, and no channel counted as surveyed, and let no sweep be active on either. Then a start is
accepted on both, and the start and every event afterwards come to the same step, but for the operating
channel. -/
theorem steps_alike (i j : Interface) (p q : Phase) (layout : Interface.SameLayout i j)
    (capable : i.offChannelCapable = j.offChannelCapable) (hi : i.surveyed = 0) (hj : j.surveyed = 0)
    (hp : p.isActive = false) (hq : q.isActive = false) :
    ∃ s t, start p i = .ok s ∧ start q j = .ok t ∧
      ∀ events, (s :: steps s events).map (·.unassigned) = (t :: steps t events).map (·.unassigned) := by
  obtain ⟨s, t, hs, ht, alike⟩ := start_alike layout capable hi hj hp hq
  refine ⟨s, t, hs, ht, fun events => ?_⟩
  rw [List.map_cons, List.map_cons, alike, steps_congr alike]

end

/-- A clean interface against one on which an earlier sweep left samples, scores and counters. -/
theorem steps_alike_leftovers :
    let i : Interface :=
      { channels := [{ number := 1, freq := 2412 }, { number := 6, freq := 2437 }]
        offChannelCapable := true, settings := { rounds := 1, dwell := 5 } }
    let idle (noise : Int8) : Sample := { total := 5000, busy := 0, own := 0, noise }
    let j : Interface :=
      { i with
        channels :=
          [{ number := 1, freq := 2412, quietest := some (-99), count := 7, samples := #[idle (-99)],
              score := some 3 },
            { number := 6, freq := 2437, count := 9 }]
        quietest := some (-120), position := 2, roundsDone := 8, operating := some 6 }
    let events : List Event :=
      [.kickoffComplete, .cancelled 2412 5 0, .survey 2412 [idle (-90)], .survey 2412 [idle (-80)],
        .cancelled 2437 5 0, .survey 2437 [idle (-95)], .verdict .valid]
    i ≠ j ∧ Interface.SameLayout i j ∧
      ∃ s t, start .idle i = .ok s ∧ start (.failed .noIdealChannel) j = .ok t ∧
        (s :: steps s events).map (·.unassigned) = (t :: steps t events).map (·.unassigned) ∧
        (steps t events).getLast?.map (·.phase) =
          some (.done { number := 1, freq := 2412, score := -64.0 }) := by
  intro i idle j events
  have hlayout : Interface.SameLayout i j := ⟨rfl, rfl⟩
  obtain ⟨s, t, hs, ht, halike⟩ :=
    steps_alike i j .idle (.failed .noIdealChannel) hlayout rfl rfl rfl rfl rfl
  refine ⟨by decide, hlayout, s, t, hs, ht, halike events, ?_⟩
  cases ht
  decide

end Sweep

end ChannelSurvey

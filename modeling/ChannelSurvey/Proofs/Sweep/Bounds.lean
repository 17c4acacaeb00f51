import ChannelSurvey.MachineLog
import ChannelSurvey.Proofs.Interface.Holding
import ChannelSurvey.Proofs.Selection.Ideal
import ChannelSurvey.Proofs.Sweep.Handled
import ChannelSurvey.Proofs.Sweep.Operation

/-!
# Indexing in bounds

A walk searches the channels from its position on and reads the one it found; a selection reads the channel at the
position that was named. The position of a walk is kept twice, in the phase and in the interface, and the interface is
handed in anew for every operation: it need not be the one that the phase was reached on.

`Operation.step?` takes the same steps by slices and indices that give nothing out of bounds.

**The law** (`step_in_bounds`): in any phase and on any interface, `step?` gives the step. A walk whose position lies
behind the end fails before it slices, a survey for a channel that the interface does not have is stored nowhere, and
the position that a selection names is one of the scored interface's, with a score.

No invariant is used, since the phase and the interface need not have met before. The walk rests on its own test of the
position, a selection on its candidates being channels of the list they are read from.
-/

namespace ChannelSurvey.Sweep

/-- Where a sweep stands once it has gone on from a survey: at an enabled channel that the interface has, behind its
last round with an enabled channel selected, or at a failure. -/
inductive Lands (i : Interface) : Phase → Prop
  | channel {index : Nat} {freq : UInt32} {c : Channel} (there : i.channels[index]? = some c)
      (enabled : c.disabled = false) (same : c.freq = freq) : Lands i (.scanning index freq)
  | selected {s : Selection} {index : Nat} {c : Channel} (there : i.channels[index]? = some c)
      (enabled : c.disabled = false) (number : c.number = s.number) (freq : c.freq = s.freq) :
      Lands i (.awaitingVerdict s)
  | failed {f : Failure} : Lands i (.failed f)

/-! ## Steps that index -/

/-- The channels from a position on; nothing for a position behind the end. -/
def sliceFrom? (channels : List Channel) (position : Nat) : Option (List Channel) :=
  if position ≤ channels.length then some (channels.drop position) else none

/-- The walk by a slice and an index. -/
def advance? (p : Phase) (i : Interface) : Option Step :=
  if !p.isActive then some (ignore p i [.warn])
  else if i.channels.length < i.position then some (fail i (.unmet .positionInRange))
  else do
    let ahead ← sliceFrom? i.channels i.position
    match ahead.findIdx? fun c => !c.disabled with
    | some offset =>
      let c ← i.channels[i.position + offset]?
      return toward i ⟨i.position + offset, c.freq⟩
    | none => return { phase := .roundComplete, iface := { i with position := i.channels.length } }

def nextRound? (i : Interface) : Option Step :=
  (advance? .roundComplete { i with position := 0 }).map fun walked =>
    let s := walked.after [.debug]
    match s.phase with
    | .roundComplete => (fail s.iface (.unmet .channelEnabled)).after s.log
    | _ => s

def onKickoffComplete? (p : Phase) (i : Interface) : Option Step :=
  match p with
  | .kickoff =>
    (advance? p i.clear).map fun walked =>
      let s := walked.after [.debug]
      match s.phase with
      | .roundComplete => (fail s.iface .noUsableData).after s.log
      | _ => s
  | _ => some (ignore p i [.warn])

section

variable [BinaryLog]

/-- The selection by an index. A channel without a score would be handed over with a score of zero. -/
def conclude? (i : Interface) : Option Step :=
  if i.surveyed = 0 then some (fail i .noUsableData)
  else
    match i.select.ideal with
    | none => some ((fail i.select.iface .noIdealChannel).after i.select.log)
    | some index => do
      let c ← i.select.iface.channels[index]?
      let s : Selection := { number := c.number, freq := c.freq, score := c.score.getD 0 }
      return {
        phase := .awaitingVerdict s
        iface := { i.select.iface with operating := some s.number }
        action := some (.reportSelected s)
        log := i.select.log ++ [.debug, .info, .debug] }

def closeRound? (p : Phase) (i : Interface) : Option Step :=
  match p with
  | .roundComplete =>
    if i.roundsDone + 1 < i.settings.target then nextRound? (roundAdded i) else conclude? (roundAdded i)
  | _ => some (ignore p i [.warn])

def onSurvey? (p : Phase) (i : Interface) (freq : UInt32) (samples : List Sample) : Option Step :=
  match p with
  | .surveying index wanted =>
    if wanted = freq then
      let stored := { i.recordAll index samples with position := index + 1 }
      (advance? p stored).bind fun walked =>
        let s := walked.after (surveyLog i index samples)
        match s.phase with
        | .roundComplete => (closeRound? s.phase s.iface).map (·.after s.log)
        | _ => some s
    else some (ignore p i [.warn])
  | _ => some (ignore p i [.warn])

/-- The events besides these two index nothing. -/
def handle? (p : Phase) (i : Interface) (e : Event) : Option Step :=
  if !p.isActive then some (ignore p i [.debug])
  else
    match e with
    | .kickoffComplete => onKickoffComplete? p i
    | .survey freq samples => onSurvey? p i freq samples
    | .ready .. | .cancelled .. | .refused _ | .verdict _ => some (handle p i e)

/-- **The step an operation takes by indexing**, if it stays in bounds. The operations besides these three index
nothing. -/
def Operation.step? (x : State) : Operation → Option Step
  | .handle e => Sweep.handle? x.phase x.iface e
  | .advance => Sweep.advance? x.phase x.iface
  | .closeRound => Sweep.closeRound? x.phase x.iface
  | o => some (o.step x)

end

/-! ## The walk -/

/-- The first enabled channel ahead is the first stop. -/
theorem findIdx?_ahead {i : Interface} {position : Nat} {s : Stop} {rest : List Stop}
    (h : i.stopsFrom position = s :: rest) :
    (i.channels.drop position).findIdx? (fun c => !c.disabled) = some (s.index - position) := by
  obtain ⟨hposition, _, c, hc, henabled, _⟩ := Interface.stopsFrom_eq_cons h
  obtain ⟨hlt, rfl⟩ := List.getElem?_eq_some_iff.mp hc
  have hindex : position + (s.index - position) = s.index := Nat.add_sub_cancel' hposition
  rw [List.findIdx?_eq_some_iff_getElem]
  refine ⟨by rw [List.length_drop]; omega, ?_, fun j hj => ?_⟩
  · simp only [List.getElem_drop, hindex, henabled, Bool.not_false]
  · have hlt' : position + j < i.channels.length := by omega
    have hdisabled := Interface.disabled_before_stop h (position + j) _ (Nat.le_add_right ..) (by omega)
      (List.getElem?_eq_getElem hlt')
    simp only [List.getElem_drop, hdisabled, Bool.not_true, Bool.false_eq_true, not_false_eq_true]

/-- The search ahead finds nothing where the round has no stop left. -/
theorem findIdx?_ahead_none {i : Interface} {position : Nat} (none : i.stopsFrom position = []) :
    (i.channels.drop position).findIdx? (fun c => !c.disabled) = .none := by
  rw [List.findIdx?_eq_none_iff]
  intro c hc
  obtain ⟨k, hk, rfl⟩ := List.mem_drop_iff_getElem.mp hc
  rw [Interface.disabled_of_stopsFrom_nil none (position + k) _ (Nat.le_add_right ..)
    (List.getElem?_eq_getElem (by omega))]
  rfl

/-- Advancing stays within the channels: its slice and its index are there. -/
theorem advance?_eq (p : Phase) (i : Interface) : advance? p i = some (advance p i) := by
  cases active : p.isActive with
  | false => simp only [advance?, advance, active, Bool.not_false, if_true]
  | true =>
    by_cases range : i.channels.length < i.position
    · rw [advance_outOfRange active range]
      simp only [advance?, active, range, Bool.not_true, Bool.false_eq_true, if_false, if_true]
    · have hslice : sliceFrom? i.channels i.position = some (i.channels.drop i.position) :=
        if_pos (Nat.not_lt.mp range)
      simp only [advance?, active, range, hslice, Bool.not_true, Bool.false_eq_true, if_false, Option.bind_eq_bind,
        Option.bind_some]
      cases hstops : i.stopsFrom i.position with
      | nil =>
        rw [findIdx?_ahead_none hstops, advance_complete active (Nat.not_lt.mp range) hstops]
        rfl
      | cons s rest =>
        obtain ⟨hposition, _, c, hc, _, hfreq⟩ := Interface.stopsFrom_eq_cons hstops
        have hindex : i.position + (s.index - i.position) = s.index := Nat.add_sub_cancel' hposition
        rw [findIdx?_ahead hstops, advance_toward active hstops]
        simp only [hindex, hc, Option.bind_some, hfreq]
        rfl

/-- So does the opening of a round. -/
theorem nextRound?_eq (i : Interface) : nextRound? i = some (nextRound i) := by
  rw [nextRound?, advance?_eq]
  rfl

/-- So does a finished scan, which opens one. -/
theorem onKickoffComplete?_eq (p : Phase) (i : Interface) :
    onKickoffComplete? p i = some (onKickoffComplete p i) := by
  cases p with
  | kickoff =>
    rw [onKickoffComplete?, advance?_eq]
    rfl
  | _ => rfl

/-- **Where the walk lands.** Within the channels it heads for an enabled one, or the round is complete. -/
theorem advance_lands {p : Phase} {i : Interface} (active : p.isActive = true)
    (range : i.position ≤ i.channels.length) :
    (advance p i).phase = .roundComplete ∨
      ∃ index c, i.channels[index]? = some c ∧ c.disabled = false ∧ (advance p i).phase = .scanning index c.freq := by
  cases hstops : i.stopsFrom i.position with
  | nil =>
    rw [advance_complete active range hstops]
    exact .inl rfl
  | cons s rest =>
    obtain ⟨_, _, c, hc, henabled, hfreq⟩ := Interface.stopsFrom_eq_cons hstops
    rw [advance_toward active hstops]
    exact .inr ⟨s.index, c, hc, henabled, by rw [hfreq]; rfl⟩

/-! ## The selection -/

section

variable [BinaryLog] {i : Interface}

/-- **The position a selection names** is one of the scored interface's, with a score. -/
theorem scored_of_ideal {index : Nat} (h : i.select.ideal = some index) :
    ∃ c score, i.select.iface.channels[index]? = some c ∧ c.score = some score := by
  obtain ⟨s, hs⟩ := Interface.selection?_of_ideal h
  obtain ⟨c, hc, _, _, hscore⟩ := Interface.selection?_eq_some.mp hs
  exact ⟨c, s.score, hc, hscore⟩

/-- The selected index is one of the channels. -/
theorem conclude?_eq (i : Interface) : conclude? i = some (conclude i) := by
  by_cases none : i.surveyed = 0
  · rw [conclude?, conclude, if_pos none, if_pos none]
  · rw [conclude?, conclude, if_neg none, if_neg none]
    cases hideal : i.select.ideal with
    | none => simp only [hideal, Option.bind_none]
    | some index =>
      obtain ⟨c, score, hc, hscore⟩ := scored_of_ideal hideal
      have hselection : i.select.iface.selection? index = some { number := c.number, freq := c.freq, score } :=
        Interface.selection?_eq_some.mpr ⟨c, hc, rfl, rfl, hscore⟩
      simp only [hideal, hc, hscore, hselection, Option.bind_eq_bind, Option.bind_some, Option.getD_some]
      rfl

/-- The end of a round, which opens the next one or concludes, stays in bounds. -/
theorem closeRound?_eq (p : Phase) (i : Interface) : closeRound? p i = some (closeRound p i) := by
  cases p with
  | roundComplete =>
    rw [closeRound?, nextRound?_eq, conclude?_eq]
    exact (apply_ite some _ _ _).symm
  | _ => rfl

/-- A survey advances from behind its channel, which the advance checks. -/
theorem onSurvey?_eq (p : Phase) (i : Interface) (freq : UInt32) (samples : List Sample) :
    onSurvey? p i freq samples = some (onSurvey p i freq samples) := by
  cases p with
  | surveying index wanted =>
    by_cases hfreq : wanted = freq
    · simp only [onSurvey?, onSurvey, hfreq, if_true, advance?_eq, closeRound?_eq, Option.bind_some, Option.map_some]
      generalize advance _ _ = walked
      obtain ⟨phase, iface, action, log⟩ := walked
      cases phase <;> rfl
    · simp only [onSurvey?, onSurvey, hfreq, if_false]
  | _ => rfl

/-- No event takes the sweep out of bounds. -/
theorem handle?_eq (p : Phase) (i : Interface) (e : Event) : handle? p i e = some (handle p i e) := by
  cases active : p.isActive with
  | false => simp only [handle?, handle, active, Bool.not_false, if_true]
  | true =>
    simp only [handle?, handle, active, Bool.not_true, Bool.false_eq_true, if_false]
    cases e with
    | kickoffComplete => exact onKickoffComplete?_eq p i
    | survey freq samples => exact onSurvey?_eq p i freq samples
    | _ => rfl

/-- No operation takes the sweep out of bounds. -/
theorem step?_eq (x : State) (o : Operation) : o.step? x = some (o.step x) := by
  cases o with
  | handle e => exact handle?_eq x.phase x.iface e
  | advance => exact advance?_eq x.phase x.iface
  | closeRound => exact closeRound?_eq x.phase x.iface
  | _ => rfl

end

/-! ## Surveys -/

/-- Where a phase points depends on the layout alone. -/
theorem Lands.congr {i j : Interface} {p : Phase} (h : Interface.SameLayout i j) (lands : Lands i p) :
    Lands j p := by
  cases lands with
  | channel there enabled same =>
    obtain ⟨d, hd, _, hfreq, hflag⟩ := h.getElem? there
    exact .channel hd (hflag.trans enabled) (hfreq.trans same)
  | selected there enabled number freq =>
    obtain ⟨d, hd, hnumber, hfreq, hflag⟩ := h.getElem? there
    exact .selected hd (hflag.trans enabled) (hnumber.trans number) (hfreq.trans freq)
  | failed => exact .failed

/-- A stop of the itinerary is an enabled channel. -/
theorem lands_of_stopsFrom {i : Interface} {position : Nat} {s : Stop} {rest : List Stop}
    (h : i.stopsFrom position = s :: rest) : Lands i (.scanning s.index s.freq) := by
  obtain ⟨_, _, c, hc, henabled, hfreq⟩ := Interface.stopsFrom_eq_cons h
  exact .channel hc henabled hfreq

section

variable [BinaryLog] {i : Interface}

/-- What scoring an interface leads to is a selection of an enabled channel. -/
theorem lands_of_chosen {s : Selection} (chosen : i.chosen? = some s) : Lands i (.awaitingVerdict s) := by
  obtain ⟨_, c, _, _, hc, husable, _, _, hnumber, hfreq, _⟩ := Interface.candidate_of_selection chosen
  exact .selected hc (Channel.isUsable_iff.mp husable).2.2 hnumber hfreq

/-- The end of a round lands on a channel or rests. -/
theorem Closed.lands {step : Step} (closing : Closed i step) : Lands i step.phase := by
  cases closing with
  | again _ first => exact lands_of_stopsFrom first
  | noChannel | noData | noIdeal => exact .failed
  | selected _ _ chosen =>
    have hlayout : Interface.SameLayout (roundAdded i) i := ⟨rfl, rfl⟩
    exact (lands_of_chosen chosen).congr hlayout

/-- **Where a survey lands**, whichever channel it is for. -/
theorem survey_lands (i : Interface) (index : Nat) (freq : UInt32) (samples : List Sample) :
    Lands i (handle (.surveying index freq) i (.survey freq samples)).phase := by
  obtain ⟨step, hproceeds, hstep⟩ := survey_proceeds i index freq samples
  rw [handle_survey, hstep]
  show Lands i step.phase
  cases hproceeds with
  | next after => exact lands_of_stopsFrom after
  | closed => exact (closeRound_closed _).lands.congr (sameLayout_roundStored i index samples)
  | outOfRange => exact .failed

/-- **No operation indexes out of bounds.** In any phase, reached on whatever interface, and on any interface:

* by slices and indices every operation takes its step;
* an active walk whose position lies behind the end fails with the interface cleared; one within the channels heads
  for an enabled channel that is there, or the round is complete;
* a survey for a channel the interface does not have stores nothing and fails the sweep; a survey for any channel goes
  on at an enabled channel that is there, ends with one selected, or fails;
* the position a selection names is one of the scored interface's, with a score. -/
theorem step_in_bounds (p : Phase) (i : Interface) :
    (∀ o : Operation, o.step? ⟨p, i⟩ = some (o.step ⟨p, i⟩)) ∧
    (p.isActive = true →
      (i.channels.length < i.position →
        advance p i = fail i (.unmet .positionInRange) ∧ (advance p i).iface.isClean = true) ∧
      (i.position ≤ i.channels.length →
        (advance p i).phase = .roundComplete ∨
          ∃ index c, i.channels[index]? = some c ∧ c.disabled = false ∧
            (advance p i).phase = .scanning index c.freq)) ∧
    (∀ index freq samples,
      (i.channels.length ≤ index →
        i.recordAll index samples = i ∧
          handle (.surveying index freq) i (.survey freq samples) =
            (fail i (.unmet .positionInRange)).after (surveyLog i index samples)) ∧
      Lands i (handle (.surveying index freq) i (.survey freq samples)).phase) ∧
    ∀ index, i.select.ideal = some index →
      ∃ c score, i.select.iface.channels[index]? = some c ∧ c.score = some score := by
  refine ⟨step?_eq ⟨p, i⟩, fun active => ⟨fun range => ?_, advance_lands active⟩, ?_, fun _ => scored_of_ideal⟩
  · have hfail := advance_outOfRange active range
    exact ⟨hfail, by rw [hfail]; exact i.isClean_clear⟩
  · intro index freq samples
    refine ⟨fun range => ⟨Interface.recordAll_outOfRange range samples, ?_⟩, survey_lands i index freq samples⟩
    exact onSurvey_outOfRange freq samples (Nat.lt_succ_of_le range)

end

/-- A sweep that surveys the third of several channels is handed an interface with one channel and the position of a
tenth: the slice there is out of bounds, and it is never taken. -/
theorem step_in_bounds_shorter :
    let heard : Sample := { total := 5000, busy := 100, own := 0, noise := -95 }
    let i : Interface :=
      { channels := [{ number := 1, freq := 2412 }], offChannelCapable := true, settings := {}, position := 9 }
    let p : Phase := .surveying 2 2462
    sliceFrom? i.channels i.position = none ∧ p.isActive = true ∧ i.channels.length < i.position ∧
      Operation.advance.step? ⟨p, i⟩ = some (fail i (.unmet .positionInRange)) ∧ i.recordAll 2 [heard] = i ∧
      (handle p i (.survey 2462 [heard])).phase = .failed (.unmet .positionInRange) := by
  intro heard i p
  have hactive : p.isActive = true := rfl
  have hrange : i.channels.length < i.position := by decide
  obtain ⟨hsteps, hwalk, hsurveys, _⟩ := step_in_bounds p i
  obtain ⟨hstored, hsurvey⟩ := (hsurveys 2 2462 [heard]).1 (by decide)
  have hadvance : Operation.advance.step? ⟨p, i⟩ = some (fail i (.unmet .positionInRange)) :=
    (hsteps .advance).trans (congrArg some ((hwalk hactive).1 hrange).1)
  exact ⟨rfl, hactive, hrange, hadvance, hstored, by rw [hsurvey]; rfl⟩

end ChannelSurvey.Sweep

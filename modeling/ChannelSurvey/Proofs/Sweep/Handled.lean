import ChannelSurvey.Proofs.Sweep.Itinerary

/-!
# What a step of a sweep can do

`Closed` lists what closing a round comes to and `Handled` what an event comes to, each with its guards.
Which messages a step logs before its own is left open.

**The laws**: `closeRound` and `handle` do one of the things listed (`closeRound_closed`,
`handle_handled`), and so do the entry points for single events (`onReady_handled`,
`onCancelled_handled`, `onRefused_handled`). Whatever is shown of a sweep by cases is shown over these
lists, and the definitions of the steps stay closed.
-/

namespace ChannelSurvey

variable [BinaryLog]

/-- The selection that scoring this interface leads to, if any. -/
def Interface.chosen? (i : Interface) : Option Selection :=
  i.select.ideal.bind i.select.iface.selection?

namespace Sweep

section

omit [BinaryLog]

/-- Failing looks at nothing that clearing forgets. -/
theorem fail_congr {i j : Interface} (h : i.clear = j.clear) (f : Failure) : fail i f = fail j f := by
  rw [fail, h, fail]

/-- What a start that is accepted comes to. -/
inductive Started (i : Interface) : Step → Prop
  | dirty (some : i.surveyed ≠ 0) : Started i ((fail i (.unmet .noSurveyData)).after [.info])
  /-- The radio cannot leave the operating channel. -/
  | incapable (none : i.surveyed = 0) (bad : i.offChannelCapable = false) :
      Started i ((fail i (.unmet .offChannelCapable)).after [.info])
  | begun (none : i.surveyed = 0) (able : i.offChannelCapable = true) :
      Started i
        { phase := .kickoff, iface := i.clear, action := some .requestKickoff, log := [.info, .debug] }

/-- **A start** is accepted only without an active sweep, and does one of the things listed. -/
theorem start_started {p : Phase} {i : Interface} {step : Step} (accepted : start p i = .ok step) :
    p.isActive = false ∧ Started i step := by
  unfold start at accepted
  split at accepted
  · cases accepted
  · rename_i inactive
    refine ⟨Bool.not_eq_true _ ▸ inactive, ?_⟩
    split at accepted
    · rename_i some
      cases accepted
      exact .dirty some
    · rename_i none
      have hnone : i.surveyed = 0 := Decidable.not_not.mp none
      split at accepted
      · rename_i bad
        cases accepted
        exact .incapable hnone (by simpa using bad)
      · rename_i able
        cases accepted
        exact .begun hnone (by simpa using able)

/-- Only an active sweep refuses to start. -/
theorem start_accepted {p : Phase} (i : Interface) (inactive : p.isActive = false) :
    ∃ step, start p i = .ok step := by
  unfold start
  rw [inactive]
  split
  · cases ‹false = true›
  · split
    · exact ⟨_, rfl⟩
    · split <;> exact ⟨_, rfl⟩

/-- A start is refused only because a sweep is active. -/
theorem start_refused {p : Phase} {i : Interface} {f : Failure} (refused : start p i = .error f) :
    p.isActive = true := by
  cases active : p.isActive with
  | true => rfl
  | false =>
    obtain ⟨step, hok⟩ := start_accepted i active
    rw [hok] at refused
    cases refused

/-! ## Counting rounds -/

/-- A sweep owes at least one round. -/
theorem target_pos (s : Settings) : 0 < s.target := by
  show 0 < if s.rounds ≤ 1 then 1 else s.rounds
  split
  · decide
  · rename_i hmany
    exact UInt32.lt_trans (by decide) (UInt32.not_le.mp hmany)

/-- Where there is room, counting one round more does not wrap. -/
theorem toNat_add_one {n : UInt32} (room : n.toNat + 1 < UInt32.size) : (n + 1).toNat = n.toNat + 1 := by
  rw [UInt32.toNat_add]
  exact Nat.mod_eq_of_lt room

/-- A count that does not wrap around grows with its successor. -/
theorem lt_of_add_one_lt {n m : UInt32} (room : n.toNat + 1 < UInt32.size) (h : n + 1 < m) : n < m := by
  rw [UInt32.lt_iff_toNat_lt, toNat_add_one room] at h
  exact UInt32.lt_iff_toNat_lt.mpr (Nat.lt_of_succ_lt h)

/-- While rounds are owed, the number of rounds done has room for one more. -/
theorem room_of_owed {n m : UInt32} (h : n < m) : n.toNat + 1 < UInt32.size :=
  Nat.lt_of_le_of_lt (UInt32.lt_iff_toNat_lt.mp h) m.toNat_lt

def roundAdded (i : Interface) : Interface :=
  { i with roundsDone := i.roundsDone + 1 }

end

/-! ## Closing a round -/

/-- What closing a complete round comes to. -/
inductive Closed (i : Interface) : Step → Prop
  | again {s : Stop} {rest : List Stop} {log : List Severity}
      (owed : i.roundsDone + 1 < i.settings.target) (first : i.stops = s :: rest) :
      Closed i ((toward (roundAdded i) s).after log)
  | noChannel {log : List Severity}
      (owed : i.roundsDone + 1 < i.settings.target) (none : i.stops = []) :
      Closed i ((fail i (.unmet .channelEnabled)).after log)
  | noData {log : List Severity}
      (paid : ¬ i.roundsDone + 1 < i.settings.target) (none : i.surveyed = 0) :
      Closed i ((fail i .noUsableData).after log)
  | noIdeal {log : List Severity}
      (paid : ¬ i.roundsDone + 1 < i.settings.target) (some : i.surveyed ≠ 0)
      (unchosen : (roundAdded i).chosen? = .none) :
      Closed i ((fail i .noIdealChannel).after log)
  /-- The rounds are done: the selection is handed over. -/
  | selected {s : Selection} {log : List Severity}
      (paid : ¬ i.roundsDone + 1 < i.settings.target) (some : i.surveyed ≠ 0)
      (chosen : (roundAdded i).chosen? = .some s) :
      Closed i
        { phase := .awaitingVerdict s
          iface := { (roundAdded i).select.iface with operating := .some s.number }
          action := .some (.reportSelected s)
          log }

omit [BinaryLog] in
/-- A round opens on its first stop. -/
theorem nextRound_toward {i : Interface} {s : Stop} {rest : List Stop} (h : i.stops = s :: rest) :
    nextRound i = (toward i s).after [.debug] := by
  have hadvance : advance .roundComplete { i with position := 0 } = toward { i with position := 0 } s :=
    advance_toward rfl h
  simp only [nextRound, hadvance]
  rfl

omit [BinaryLog] in
/-- Without a stop the sweep fails. -/
theorem nextRound_fail {i : Interface} (h : i.stops = []) :
    nextRound i = (fail i (.unmet .channelEnabled)).after [.debug] := by
  have hadvance : advance .roundComplete { i with position := 0 } =
      { phase := .roundComplete, iface := { i with position := i.channels.length } } :=
    advance_complete rfl (Nat.zero_le _) h
  simp only [nextRound, hadvance]
  rfl

/-- A conclusion with a choice writes it and waits for the verdict. -/
theorem conclude_selected {i : Interface} {s : Selection} (some : i.surveyed ≠ 0)
    (chosen : i.chosen? = .some s) :
    conclude i =
      { phase := .awaitingVerdict s
        iface := { i.select.iface with operating := .some s.number }
        action := .some (.reportSelected s)
        log := i.select.log ++ [.debug, .info, .debug] } := by
  unfold Interface.chosen? at chosen
  simp only [conclude, some, if_false, chosen]

/-- One without a choice fails for the want of it. -/
theorem conclude_noIdeal {i : Interface} (some : i.surveyed ≠ 0) (unchosen : i.chosen? = .none) :
    conclude i = (fail i .noIdealChannel).after i.select.log := by
  unfold Interface.chosen? at unchosen
  simp only [conclude, some, if_false, unchosen]
  rw [fail_congr (Interface.clear_select i)]

/-- **Closing a complete round** does one of the things listed. -/
theorem closeRound_closed (i : Interface) : Closed i (closeRound .roundComplete i) := by
  show Closed i (if i.roundsDone + 1 < i.settings.target then nextRound (roundAdded i)
    else conclude (roundAdded i))
  by_cases owed : i.roundsDone + 1 < i.settings.target
  · rw [if_pos owed]
    cases hstops : i.stops with
    | nil =>
      rw [nextRound_fail (i := roundAdded i) hstops]
      exact .noChannel owed hstops
    | cons s rest =>
      rw [nextRound_toward (i := roundAdded i) hstops]
      exact .again owed hstops
  · rw [if_neg owed]
    by_cases hsurveyed : i.surveyed = 0
    · have hconclude : conclude (roundAdded i) = (fail i .noUsableData).after [] := if_pos hsurveyed
      rw [hconclude]
      exact .noData owed hsurveyed
    · cases hchosen : (roundAdded i).chosen? with
      | none =>
        rw [conclude_noIdeal (i := roundAdded i) hsurveyed hchosen]
        exact .noIdeal owed hsurveyed hchosen
      | some s =>
        rw [conclude_selected (i := roundAdded i) hsurveyed hchosen]
        exact .selected owed hsurveyed hchosen

omit [BinaryLog] in
/-- A finished scan opens the first round on a cleared interface. -/
theorem onKickoffComplete_toward {i : Interface} {s : Stop} {rest : List Stop} (first : i.stops = s :: rest) :
    onKickoffComplete .kickoff i = (toward i.clear s).after [.debug] := by
  have hadvance : advance .kickoff i.clear = toward i.clear s :=
    advance_toward rfl ((Interface.stopsFrom_clear i 0).trans first)
  simp only [onKickoffComplete, hadvance]
  rfl

omit [BinaryLog] in
/-- Without an enabled channel it fails. -/
theorem onKickoffComplete_fail {i : Interface} (none : i.stops = []) :
    onKickoffComplete .kickoff i = (fail i .noUsableData).after [.debug] := by
  have hadvance : advance .kickoff i.clear =
      { phase := .roundComplete, iface := { i.clear with position := i.clear.channels.length } } :=
    advance_complete rfl (Nat.zero_le _) ((Interface.stopsFrom_clear i 0).trans none)
  simp only [onKickoffComplete, hadvance]
  exact congrArg (Step.after · [.debug]) (fail_congr (Interface.clear_clear i) _)

/-- The interface behind the last channel of a round, with the last survey stored. -/
def roundStored (i : Interface) (index : Nat) (samples : List Sample) : Interface :=
  { i.recordAll index samples with position := i.channels.length }

omit [BinaryLog] in
/-- Storing a survey leaves the layout. -/
theorem sameLayout_roundStored (i : Interface) (index : Nat) (samples : List Sample) :
    Interface.SameLayout (roundStored i index samples) i :=
  have hstored := Interface.sameLayout_recordAll i index samples
  ⟨hstored.channels, hstored.settings⟩

omit [BinaryLog] in
/-- Storing a survey closes no round. -/
@[simp] theorem roundsDone_roundStored (i : Interface) (index : Nat) (samples : List Sample) :
    (roundStored i index samples).roundsDone = i.roundsDone :=
  Interface.roundsDone_recordAll i index samples

omit [BinaryLog] in
/-- What storing survey counters writes to the log before the walk goes on. -/
def surveyLog (i : Interface) (index : Nat) (samples : List Sample) : List Severity :=
  (if samples.isEmpty then [.debug] else []) ++ samples.flatMap (i.recordLog index) ++ [.trace]

/-- With a stop left in the round, a survey is stored and the walk heads for that stop. -/
theorem onSurvey_toward {i : Interface} {index : Nat} {s : Stop} {rest : List Stop} (freq : UInt32)
    (samples : List Sample) (after : i.stopsFrom (index + 1) = s :: rest) :
    onSurvey (.surveying index freq) i freq samples =
      (toward (i.recordAll index samples) s).after (surveyLog i index samples) := by
  have hstops : ({ i.recordAll index samples with position := index + 1 } : Interface).stopsFrom (index + 1) =
      s :: rest := (Interface.stopsFrom_congr (Interface.sameLayout_recordAll i index samples) _).trans after
  have hadvance : advance (.surveying index freq) { i.recordAll index samples with position := index + 1 } =
      toward { i.recordAll index samples with position := index + 1 } s := advance_toward rfl hstops
  simp only [onSurvey, if_true, hadvance]
  rfl

/-- Behind the last stop of the round, a survey is stored and the round closed. -/
theorem onSurvey_closing {i : Interface} {index : Nat} (freq : UInt32) (samples : List Sample)
    (range : index < i.channels.length) (last : i.stopsFrom (index + 1) = []) :
    onSurvey (.surveying index freq) i freq samples =
      (closeRound .roundComplete (roundStored i index samples)).after (surveyLog i index samples) := by
  have hlength := Interface.length_recordAll i index samples
  have hstops : ({ i.recordAll index samples with position := index + 1 } : Interface).stopsFrom (index + 1) =
      [] := (Interface.stopsFrom_congr (Interface.sameLayout_recordAll i index samples) _).trans last
  have hadvance : advance (.surveying index freq) { i.recordAll index samples with position := index + 1 } =
      { phase := .roundComplete, iface := roundStored i index samples } := by
    rw [roundStored, ← hlength]
    exact advance_complete rfl (Nat.succ_le_of_lt (hlength ▸ range)) hstops
  simp only [onSurvey, if_true, hadvance]
  show (closeRound .roundComplete (roundStored i index samples)).after
    (surveyLog i index samples ++ []) = _
  rw [List.append_nil]

/-- A survey behind the last channel stores nothing, and the sweep fails. -/
theorem onSurvey_outOfRange {i : Interface} {index : Nat} (freq : UInt32) (samples : List Sample)
    (range : i.channels.length < index + 1) :
    onSurvey (.surveying index freq) i freq samples =
      (fail i (.unmet .positionInRange)).after (surveyLog i index samples) := by
  have hlength := Interface.length_recordAll i index samples
  have hadvance : advance (.surveying index freq) { i.recordAll index samples with position := index + 1 } =
      fail i (.unmet .positionInRange) := by
    refine (advance_outOfRange rfl (hlength ▸ range)).trans (fail_congr ?_ _)
    exact Interface.clear_recordAll i index samples
  simp only [onSurvey, if_true, hadvance]
  rfl

/-- In the phase of a survey, its event is handed on as it is. -/
theorem handle_survey (index : Nat) (freq : UInt32) (i : Interface) (samples : List Sample) :
    handle (.surveying index freq) i (.survey freq samples) = onSurvey (.surveying index freq) i freq samples := rfl

/-- What comes of storing a survey: the next stop of the round, or the end of the round. A channel that is
none of the interface's has no survey to store. -/
inductive Proceeds (i : Interface) (index : Nat) (samples : List Sample) : Step → Prop
  | next {s : Stop} {rest : List Stop} (after : i.stopsFrom (index + 1) = s :: rest) :
      Proceeds i index samples (toward (i.recordAll index samples) s)
  | closed (range : index < i.channels.length) (last : i.stopsFrom (index + 1) = []) :
      Proceeds i index samples (closeRound .roundComplete (roundStored i index samples))
  | outOfRange (range : i.channels.length < index + 1) :
      Proceeds i index samples (fail i (.unmet .positionInRange))

/-- **A survey that is waited for is stored**, and the walk goes on. -/
theorem survey_proceeds (i : Interface) (index : Nat) (freq : UInt32) (samples : List Sample) :
    ∃ step, Proceeds i index samples step ∧
      onSurvey (.surveying index freq) i freq samples = step.after (surveyLog i index samples) := by
  cases hstops : i.stopsFrom (index + 1) with
  | cons s rest => exact ⟨_, .next hstops, onSurvey_toward freq samples hstops⟩
  | nil =>
    by_cases range : index < i.channels.length
    · exact ⟨_, .closed range hstops, onSurvey_closing freq samples range hstops⟩
    · have hout := Nat.lt_succ_of_le (Nat.not_lt.mp range)
      exact ⟨_, .outOfRange hout, onSurvey_outOfRange freq samples hout⟩

/-! ## Events -/

/-- What an event comes to. -/
inductive Handled : Phase → Interface → Event → Step → Prop
  | ignored {p : Phase} {i : Interface} {e : Event} {log : List Severity} : Handled p i e (ignore p i log)
  | refused {p : Phase} {i : Interface} {r : Refusal} (active : p.isActive = true) :
      Handled p i (.refused r) (fail i (.refused r))
  /-- The radio did not arrive on a channel. -/
  | notReady {p : Phase} {i : Interface} {freq dwell : UInt32} {status : Int32}
      (active : p.isActive = true) (bad : status ≠ 0) :
      Handled p i (.ready freq dwell status) (fail i (.refused (.offChannelStatus freq status)))
  /-- A dwell was cut short. -/
  | cutShort {p : Phase} {i : Interface} {freq dwell : UInt32} {status : Int32}
      (active : p.isActive = true) (bad : status ≠ 0) :
      Handled p i (.cancelled freq dwell status) (fail i (.cancelled freq status))
  /-- The kick-off scan is over: the walk begins. -/
  | opened {i : Interface} {s : Stop} {rest : List Stop} {log : List Severity}
      (first : i.stops = s :: rest) :
      Handled .kickoff i .kickoffComplete ((toward i.clear s).after log)
  | noChannel {i : Interface} {log : List Severity} (none : i.stops = []) :
      Handled .kickoff i .kickoffComplete ((fail i .noUsableData).after log)
  /-- The dwell is over: the survey is due. -/
  | dwelt {i : Interface} {index : Nat} {freq dwell : UInt32} {log : List Severity} :
      Handled (.scanning index freq) i (.cancelled freq dwell 0)
        { phase := .surveying index freq, iface := i, action := some (.requestTraffic freq), log }
  /-- The survey is stored: the walk goes on to the next stop of the round. -/
  | next {i : Interface} {index : Nat} {freq : UInt32} {samples : List Sample} {s : Stop}
      {rest : List Stop} {log : List Severity} (after : i.stopsFrom (index + 1) = s :: rest) :
      Handled (.surveying index freq) i (.survey freq samples)
        ((toward (i.recordAll index samples) s).after log)
  /-- The channel the survey was for is none of the interface's. -/
  | outOfRange {i : Interface} {index : Nat} {freq : UInt32} {samples : List Sample}
      {log : List Severity} (range : i.channels.length < index + 1) :
      Handled (.surveying index freq) i (.survey freq samples)
        ((fail i (.unmet .positionInRange)).after log)
  /-- The survey is stored and was the last of its round. -/
  | closed {i : Interface} {index : Nat} {freq : UInt32} {samples : List Sample} {step : Step}
      {log : List Severity} (range : index < i.channels.length) (last : i.stopsFrom (index + 1) = [])
      (closing : Closed (roundStored i index samples) step) :
      Handled (.surveying index freq) i (.survey freq samples) (step.after log)
  | accepted {i : Interface} {s : Selection} {log : List Severity} :
      Handled (.awaitingVerdict s) i (.verdict .valid) { phase := .done s, iface := i.clear, log }
  | rejected {i : Interface} {s : Selection} {v : Verdict} {why : Rejection} (bad : v ≠ .valid) :
      Handled (.awaitingVerdict s) i (.verdict v) (fail i (.rejected s.number why))

/-- A refusal is classified. -/
theorem onRefused_handled (p : Phase) (i : Interface) (r : Refusal) :
    Handled p i (.refused r) (onRefused p i r) := by
  unfold onRefused
  split
  · rename_i active
    exact .refused active
  · exact .ignored

/-- A dwell that begins is classified. -/
theorem onReady_handled (p : Phase) (i : Interface) (freq dwell : UInt32) (status : Int32) :
    Handled p i (.ready freq dwell status) (onReady p i freq status) := by
  unfold onReady
  split
  · rename_i bad
    unfold onRefused
    split
    · rename_i active
      exact .notReady active bad
    · exact .ignored
  · split <;> exact .ignored

/-- A dwell that ends is classified. -/
theorem onCancelled_handled (p : Phase) (i : Interface) (freq dwell : UInt32) (status : Int32) :
    Handled p i (.cancelled freq dwell status) (onCancelled p i freq status) := by
  unfold onCancelled
  split
  · exact .ignored
  · rename_i active
    split
    · rename_i bad
      exact .cutShort (by simpa using active) bad
    · rename_i good
      obtain rfl : status = 0 := Decidable.not_not.mp good
      split
      · split
        · rename_i hfreq
          subst hfreq
          exact .dwelt
        · exact .ignored
      · exact .ignored

/-- A finished scan is classified. -/
theorem onKickoffComplete_handled (p : Phase) (i : Interface) :
    Handled p i .kickoffComplete (onKickoffComplete p i) := by
  cases p with
  | kickoff =>
    cases hstops : i.stops with
    | nil =>
      rw [onKickoffComplete_fail hstops]
      exact .noChannel hstops
    | cons s rest =>
      rw [onKickoffComplete_toward hstops]
      exact .opened hstops
  | _ => exact .ignored

/-- A survey is classified, by where the walk stands behind it. -/
theorem onSurvey_handled (p : Phase) (i : Interface) (freq : UInt32) (samples : List Sample) :
    Handled p i (.survey freq samples) (onSurvey p i freq samples) := by
  cases p with
  | surveying index wanted =>
    by_cases hfreq : wanted = freq
    · subst hfreq
      obtain ⟨step, hproceeds, hstep⟩ := survey_proceeds i index wanted samples
      rw [hstep]
      cases hproceeds with
      | next after => exact .next after
      | closed range last => exact .closed range last (closeRound_closed _)
      | outOfRange range => exact .outOfRange range
    · simp only [onSurvey, hfreq, if_false]
      exact .ignored
  | _ => exact .ignored

/-- A verdict is classified. -/
theorem onVerdict_handled (p : Phase) (i : Interface) (v : Verdict) :
    Handled p i (.verdict v) (onVerdict p i v) := by
  cases p with
  | awaitingVerdict s =>
    cases v with
    | valid => exact .accepted
    | invalid => exact .rejected (by decide)
    | inProgress => exact .rejected (by decide)
  | _ => exact .ignored

/-- Without an active sweep nothing comes of an event. -/
theorem handle_inactive {p : Phase} (inactive : p.isActive = false) (i : Interface) (e : Event) :
    handle p i e = ignore p i [.debug] := by
  simp only [handle, inactive, Bool.not_false, if_true]

/-- An active sweep fails when a request is refused. -/
theorem handle_refused {p : Phase} (active : p.isActive = true) (i : Interface) (r : Refusal) :
    handle p i (.refused r) = fail i (.refused r) := by
  simp only [handle, onRefused, active, Bool.not_true, Bool.false_eq_true, if_false, if_true]

/-- **An event** does one of the things listed. -/
theorem handle_handled (p : Phase) (i : Interface) (e : Event) : Handled p i e (handle p i e) := by
  unfold handle
  split
  · exact .ignored
  · cases e with
    | kickoffComplete => exact onKickoffComplete_handled p i
    | ready freq dwell status => exact onReady_handled p i freq dwell status
    | cancelled freq dwell status => exact onCancelled_handled p i freq dwell status
    | survey freq samples => exact onSurvey_handled p i freq samples
    | refused r => exact onRefused_handled p i r
    | verdict v => exact onVerdict_handled p i v

/-! ## What no step touches -/

omit [BinaryLog] in
/-- A start leaves the layout. -/
theorem Started.sameLayout {i : Interface} {step : Step} (started : Started i step) :
    Interface.SameLayout step.iface i := by
  cases started <;> exact .clear i

/-- So does the end of a round. -/
theorem Closed.sameLayout {i : Interface} {step : Step} (closing : Closed i step) :
    Interface.SameLayout step.iface i := by
  cases closing with
  | again => exact ⟨rfl, rfl⟩
  | noChannel | noData | noIdeal => exact .clear i
  | selected =>
    have hselect := Interface.sameLayout_select (roundAdded i)
    exact ⟨hselect.channels, hselect.settings⟩

/-- **No event touches the layout.** -/
theorem Handled.sameLayout {p : Phase} {i : Interface} {e : Event} {step : Step}
    (handled : Handled p i e step) : Interface.SameLayout step.iface i := by
  cases handled with
  | ignored | dwelt => exact .refl i
  | refused | notReady | cutShort | noChannel | outOfRange | accepted | rejected =>
    exact .clear i
  | opened =>
    have hclear := Interface.SameLayout.clear i
    exact ⟨hclear.channels, hclear.settings⟩
  | @next _ index freq samples =>
    have hstored := Interface.sameLayout_recordAll i index samples
    exact ⟨hstored.channels, hstored.settings⟩
  | @closed _ index freq samples step log range last closing =>
    have hclosed := closing.sameLayout
    exact hclosed.trans (sameLayout_roundStored i index samples)

/-- An event neither begins nor forgets a sweep. -/
theorem Handled.phase_idle {p : Phase} {i : Interface} {e : Event} {step : Step}
    (handled : Handled p i e step) : step.phase = .idle ↔ p = .idle := by
  cases handled with
  | ignored => exact Iff.rfl
  | refused active | notReady active | cutShort active =>
    exact iff_of_false (fun h => by cases h) (fun h => by cases h; cases active)
  | closed _ _ closing =>
    refine iff_of_false (fun h => ?_) (fun h => by cases h)
    cases closing <;> cases h
  | _ => exact iff_of_false (fun h => by cases h) (fun h => by cases h)

end Sweep

end ChannelSurvey

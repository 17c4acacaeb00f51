import ChannelSurvey.MachineLog
import ChannelSurvey.Proofs.Selection.Candidate
import ChannelSurvey.Proofs.Sweep.Handled
import ChannelSurvey.Proofs.Sweep.Operation

/-!
# What every reachable state of a sweep satisfies

`Sound` ties the phase of a sweep to its interface. Without an active sweep, and while the kick-off scan
runs, the interface is clean. On a stop the walk stands on an enabled channel of that frequency, rounds are
owed and nothing is scored. Behind a round the walk stands at the end of the list. A selection handed over
is that of an enabled channel with samples, and stays the operating channel once it is accepted.

**The law** (`sound_afterAll`): it holds after any operations in any order, also where steps are called
out of turn.

What carries the induction is `Underway`, which every active phase has: either rounds are owed and nothing
is scored, or the walk is at its end. A call out of turn can move a sweep from one side to the other only
by closing a round, and never back.
-/

namespace ChannelSurvey.Sweep

/-- The walk stands on an enabled channel, and rounds are owed. -/
structure OnStop (i : Interface) (index : Nat) (freq : UInt32) : Prop where
  position : index = i.position
  range : i.position < i.channels.length
  channel : ∃ c, i.channels[index]? = some c ∧ c.disabled = false ∧ c.freq = freq
  owed : i.roundsDone < i.settings.target
  unscored : i.Unscored

/-- The walk stands behind the last channel; while rounds are owed nothing is scored. -/
structure BehindRound (i : Interface) : Prop where
  position : i.position = i.channels.length
  unscored : i.roundsDone < i.settings.target → i.Unscored

/-- A selection stands for an enabled channel that holds samples and has this score. -/
def Offers (i : Interface) (s : Selection) : Prop :=
  ∃ c ∈ i.channels, c.disabled = false ∧ c.samples.isEmpty = false ∧ c.number = s.number ∧
    c.freq = s.freq ∧ c.score = some s.score

/-- The rounds are done and a selection was handed over. -/
structure HandedOver (i : Interface) (s : Selection) : Prop where
  position : i.position = i.channels.length
  paid : i.settings.target ≤ i.roundsDone
  operating : i.operating = some s.number
  offers : Offers i s

/-- What holds of the interface in a phase. -/
def Fits : Phase → Interface → Prop
  | .idle, i | .kickoff, i | .failed _, i => i.isClean = true
  | .scanning index freq, i | .surveying index freq, i => OnStop i index freq
  | .roundComplete, i => BehindRound i
  | .awaitingVerdict s, i => HandedOver i s
  | .done s, i => i.isClean = true ∧ i.operating = some s.number

/-- **The invariant**: the walk never leaves the channel list, and the interface fits the phase. -/
structure Sound (p : Phase) (i : Interface) : Prop where
  range : i.position ≤ i.channels.length
  fits : Fits p i

/-- What every active phase has in common: rounds are owed and nothing is scored, or the walk is at its
end. -/
structure Underway (i : Interface) : Prop where
  range : i.position ≤ i.channels.length
  owed : i.roundsDone < i.settings.target ∨ i.position = i.channels.length
  unscored : i.roundsDone < i.settings.target → i.Unscored

/-- A clean interface stands before the first round. -/
theorem underway_of_isClean {i : Interface} (h : i.isClean = true) : Underway i := by
  rw [← Interface.isClean_iff.mp h]
  exact ⟨Nat.zero_le _, Or.inl (target_pos _), fun _ => Interface.unscored_clear i⟩

/-- In an active phase the walk is under way. -/
theorem Sound.underway {p : Phase} {i : Interface} (h : Sound p i) (active : p.isActive = true) :
    Underway i := by
  obtain ⟨range, fits⟩ := h
  cases p with
  | kickoff => exact underway_of_isClean fits
  | scanning index freq | surveying index freq =>
    exact ⟨range, Or.inl fits.owed, fun _ => fits.unscored⟩
  | roundComplete => exact ⟨range, Or.inr fits.position, fits.unscored⟩
  | awaitingVerdict s =>
    refine ⟨range, Or.inr fits.position, fun owed => ?_⟩
    exact absurd owed (UInt32.not_lt.mpr fits.paid)
  | idle | done s | failed f => cases active

/-! ## The ends of a step -/

/-- A failure leaves a sound state, since it clears the interface. -/
theorem sound_fail (i : Interface) (f : Failure) : Sound (fail i f).phase (fail i f).iface :=
  ⟨Nat.zero_le _, Interface.isClean_clear i⟩

/-- A move to a stop of the round is sound while a round is owed. -/
theorem sound_toward {i : Interface} {position : Nat} {s : Stop} {rest : List Stop}
    (h : i.stopsFrom position = s :: rest) (owed : i.roundsDone < i.settings.target)
    (unscored : i.Unscored) : Sound (toward i s).phase (toward i s).iface := by
  have hrange := Interface.index_lt_of_stopsFrom h
  obtain ⟨_, _, hchannel⟩ := Interface.stopsFrom_eq_cons h
  exact ⟨Nat.le_of_lt hrange, ⟨rfl, hrange, hchannel, owed, unscored⟩⟩

/-- Advancing an active sweep keeps the invariant, whatever it was doing. -/
theorem sound_advance {p : Phase} {i : Interface} (h : Sound p i) :
    Sound (advance p i).phase (advance p i).iface := by
  cases active : p.isActive with
  | false =>
    have hignore : advance p i = ignore p i [.warn] := by
      simp only [advance, active, Bool.not_false, if_true]
    rw [hignore]
    exact h
  | true =>
    obtain ⟨range, owed, unscored⟩ := h.underway active
    cases hstops : i.stopsFrom i.position with
    | nil =>
      rw [advance_complete active range hstops]
      exact ⟨Nat.le_refl _, ⟨rfl, unscored⟩⟩
    | cons s rest =>
      rw [advance_toward active hstops]
      have hrange := Nat.lt_of_le_of_lt (Interface.stopsFrom_eq_cons hstops).1
        (Interface.index_lt_of_stopsFrom hstops)
      -- with a stop left the walk is not at its end, so rounds are owed and nothing is scored
      have howed : i.roundsDone < i.settings.target := owed.resolve_right (Nat.ne_of_lt hrange)
      exact sound_toward hstops howed (unscored howed)

/-- So is a start. -/
theorem sound_started {i : Interface} {step : Step} (started : Started i step) :
    Sound step.phase step.iface := by
  cases started with
  | dirty | incapable => exact sound_fail i _
  | begun => exact ⟨Nat.zero_le _, Interface.isClean_clear i⟩

section

variable [BinaryLog]

/-- A selection that scoring an interface leads to is on offer there. -/
theorem offers_of_chosen {i : Interface} {s : Selection} (chosen : i.chosen? = some s) :
    Offers i.select.iface s := by
  obtain ⟨c, hc, husable, hnumber, hfreq, hscore⟩ := Interface.usable_of_selection chosen
  obtain ⟨_, hstocked, henabled⟩ := Channel.isUsable_iff.mp husable
  exact ⟨c, hc, henabled, hstocked, hnumber, hfreq, hscore⟩

/-- The end of a round leads to a sound state as long as the count of rounds has room. -/
theorem sound_closed {i : Interface} {step : Step} (h : BehindRound i)
    (room : i.roundsDone.toNat + 1 < UInt32.size) (closing : Closed i step) :
    Sound step.phase step.iface := by
  cases closing with
  | again owed first => exact sound_toward first owed (h.unscored (lt_of_add_one_lt room owed))
  | noChannel owed none => exact sound_fail i _
  | noData paid none => exact sound_fail i _
  | noIdeal paid some unchosen => exact sound_fail i _
  | @selected s log paid some chosen =>
    have hposition := (Interface.select_counters (roundAdded i)).1
    have hrounds := (Interface.select_counters (roundAdded i)).2
    have hlayout := Interface.sameLayout_select (roundAdded i)
    have hend : (roundAdded i).select.iface.position = (roundAdded i).select.iface.channels.length :=
      hposition.trans (h.position.trans hlayout.length.symm)
    refine ⟨Nat.le_of_eq hend, hend, ?_, rfl, offers_of_chosen chosen⟩
    show (roundAdded i).select.iface.settings.target ≤ (roundAdded i).select.iface.roundsDone
    rw [hrounds, hlayout.settings]
    exact UInt32.not_lt.mp paid

/-- **One event keeps the invariant.** -/
theorem sound_handled {p : Phase} {i : Interface} {e : Event} {step : Step} (h : Sound p i)
    (handled : Handled p i e step) : Sound step.phase step.iface := by
  cases handled with
  | ignored => exact h
  | refused | notReady | cutShort | noChannel | outOfRange | rejected => exact sound_fail i _
  | opened first =>
    exact sound_toward ((Interface.stopsFrom_clear i 0).trans first) (target_pos _)
      (Interface.unscored_clear i)
  | dwelt => exact ⟨h.range, h.fits⟩
  | @next _ index freq samples s rest log after =>
    have hstop : OnStop i index freq := h.fits
    have hlayout := Interface.sameLayout_recordAll i index samples
    refine sound_toward ((Interface.stopsFrom_congr hlayout _).trans after) ?_
      (Interface.unscored_recordAll hstop.unscored index samples)
    rw [Interface.roundsDone_recordAll, Interface.settings_recordAll]
    exact hstop.owed
  | @closed _ index freq samples step log range last closing =>
    have hstop : OnStop i index freq := h.fits
    have hbehind : BehindRound (roundStored i index samples) :=
      ⟨(Interface.length_recordAll i index samples).symm,
        fun _ => Interface.unscored_recordAll hstop.unscored index samples⟩
    have hroom : (roundStored i index samples).roundsDone.toNat + 1 < UInt32.size := by
      rw [roundStored, Interface.roundsDone_recordAll]
      exact room_of_owed hstop.owed
    have hclosed := sound_closed hbehind hroom closing
    exact hclosed
  | accepted =>
    have hover : HandedOver i _ := h.fits
    exact ⟨Nat.zero_le _, Interface.isClean_clear i, hover.operating⟩

/-! ## Operations -/

/-- **One operation keeps the invariant**, also one called out of turn. -/
theorem sound_after {x : State} {o : Operation} (h : Sound x.phase x.iface) (room : o.hasRoom x = true) :
    Sound (x.after o).phase (x.after o).iface := by
  cases o with
  | start =>
    cases hstart : start x.phase x.iface with
    | error f =>
      simp only [State.after, Operation.step, hstart]
      exact h
    | ok step =>
      simp only [State.after, Operation.step, hstart]
      exact sound_started (start_started hstart).2
  | handle e => exact sound_handled h (handle_handled _ _ e)
  | ready freq dwell status => exact sound_handled h (onReady_handled _ _ freq dwell status)
  | cancelled freq dwell status => exact sound_handled h (onCancelled_handled _ _ freq dwell status)
  | refused r => exact sound_handled h (onRefused_handled _ _ r)
  | advance => exact sound_advance h
  | closeRound =>
    obtain ⟨p, i⟩ := x
    cases p with
    | roundComplete => exact sound_closed h.fits (of_decide_eq_true room) (closeRound_closed i)
    | _ => exact h
  | reset =>
    obtain ⟨p, i⟩ := x
    refine ⟨h.range, ?_⟩
    cases p with
    -- forgetting a selection keeps the interface clean
    | done s => exact h.fits.1
    | _ => exact h.fits

/-- Soundness is kept by any number of operations, by induction. -/
theorem sound_foldl {x : State} {ops : List Operation} (h : Sound x.phase x.iface)
    (room : x.hasRoom ops = true) : Sound (x.afterAll ops).phase (x.afterAll ops).iface := by
  induction ops generalizing x with
  | nil => exact h
  | cons o rest ih =>
    obtain ⟨hfirst, hrest⟩ := Bool.and_eq_true_iff.mp room
    exact ih (sound_after h hfirst) hrest

/-- **Every reachable state is sound.** On channels without survey data, after any operations in any
order along which the number of rounds done does not wrap, the interface fits the phase and the walk is
within the channel list. -/
theorem sound_afterAll (channels : List Channel) (offChannelCapable : Bool) (settings : Settings)
    (ops : List Operation) (fresh : ∀ c ∈ channels, c.isClean = true)
    (room : (State.new channels offChannelCapable settings).hasRoom ops = true) :
    Sound ((State.new channels offChannelCapable settings).afterAll ops).phase
      ((State.new channels offChannelCapable settings).afterAll ops).iface := by
  refine sound_foldl ⟨Nat.zero_le _, ?_⟩ room
  show Interface.isClean _ = true
  simp only [State.new, Interface.isClean, List.all_eq_true.mpr fresh]
  rfl

end

/-- A sweep driven out of turn: its walk advances while a survey and a verdict are due, and its last round
is closed twice. -/
theorem sound_afterAll_outOfTurn :
    let channels : List Channel :=
      [{ number := 1, freq := 2412 }, { number := 6, freq := 2437, disabled := true }]
    let ops : List Operation :=
      [.advance, .start, .handle .kickoffComplete, .cancelled 2412 5 0, .advance, .closeRound,
        .cancelled 2412 5 0,
        .handle (.survey 2412 [{ total := 5000, busy := 0, own := 0, noise := -95 }]),
        .advance, .closeRound]
    let x := State.new channels true { rounds := 1 }
    (∀ c ∈ channels, c.isClean = true) ∧ x.hasRoom ops = true ∧
      (x.afterAll ops).phase = .awaitingVerdict { number := 1, freq := 2412, score := -64.0 } ∧
      Sound (x.afterAll ops).phase (x.afterAll ops).iface := by
  intro channels ops x
  have hfresh : ∀ c ∈ channels, c.isClean = true := by decide
  have hroom : x.hasRoom ops = true := by decide
  exact ⟨hfresh, hroom, by decide, sound_afterAll channels true { rounds := 1 } ops hfresh hroom⟩

end ChannelSurvey.Sweep

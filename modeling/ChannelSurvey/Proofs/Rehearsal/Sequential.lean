import ChannelSurvey.Proofs.Radio.Sampling
import ChannelSurvey.Proofs.Station.Carrying
import ChannelSurvey.Proofs.Sweep.Handled
import ChannelSurvey.Rehearsal

/-!
# A sweep as a plain loop

What a rehearsal does, written as one would write it without notifications: ask, wait, read, and go on, in
two nested loops. There is no phase, no queue, no position and no count of rounds. A `Tour` carries the
interface, the radio and the calls made so far; whatever ends the sweep early is an error that carries the
failure and the tour up to there.
-/

namespace ChannelSurvey

/-- The same radio with every notification taken off its queue. -/
def SimulatedRadio.heard (r : SimulatedRadio) : SimulatedRadio :=
  { r with pending := [] }

/-- A radio with nothing queued has heard everything. -/
theorem SimulatedRadio.heard_of_quiet {r : SimulatedRadio} (quiet : r.pending = []) : r.heard = r := by
  rw [heard, ← quiet]

/-- What is heard does a radio no harm. -/
theorem SimulatedRadio.Whole.heard {r : SimulatedRadio} (h : r.Whole) : r.heard.Whole :=
  ⟨h.works, h.valid⟩

/-- What the loop works on, and the calls it made. -/
structure Tour where
  iface : Interface
  radio : SimulatedRadio
  calls : Journal := []

/-- A part of the loop: it goes on, or ends the sweep. -/
abbrev Toured (α : Type) := Except (Failure × Tour) α

/-- How a part of the loop comes out: this if it ends the sweep, and that if it goes on. -/
def Toured.Ends {α : Type} (x : Toured α) (early : Failure → Tour → Prop) (after : α → Prop) : Prop :=
  match x with
  | .error (f, t) => early f t
  | .ok a => after a

section

variable {α β : Type} {x : Toured α} {early : Failure → Tour → Prop} {after after' : α → Prop}

/-- A part that another one follows ends the sweep by itself or leaves it to the other. -/
theorem Toured.ends_bind {g : α → Toured β} {last : β → Prop} :
    Toured.Ends (x >>= g) early last ↔ Toured.Ends x early fun a => Toured.Ends (g a) early last := by
  cases x <;> exact Iff.rfl

/-- What is known behind a part may be weakened; an early end keeps what is known of it. -/
theorem Toured.Ends.imp (h : Toured.Ends x early after) (imp : ∀ a, x = .ok a → after a → after' a) :
    Toured.Ends x early after' := by
  cases x with
  | error e => exact h
  | ok a => exact imp a rfl h

end

namespace Tour

/-- Waits for the kick-off scan and clears the interface. -/
def kickoff (t : Tour) : Toured Tour :=
  let a := t.radio.requestKickoff
  let t := { iface := t.iface.clear, radio := a.radio.heard, calls := t.calls ++ [.kickoff a.reply] }
  match a.reply with
  | .error r => .error (.refused r, t)
  | .ok _ => if t.iface.stops = [] then .error (.noUsableData, t) else .ok t

/-- A refused scan ends the sweep on a cleared interface. -/
theorem kickoff_refused {t : Tour} {why : Refusal} {radio : SimulatedRadio} {log : List Severity}
    (answer : t.radio.requestKickoff = { reply := .error why, radio, log }) :
    t.kickoff =
      .error (.refused why,
        { iface := t.iface.clear, radio := radio.heard, calls := t.calls ++ [.kickoff (.error why)] }) := by
  simp only [kickoff, answer]

/-- An accepted scan is waited for; the sweep goes on if there is a channel to visit. -/
theorem kickoff_accepted {t : Tour} {radio : SimulatedRadio} {log : List Severity}
    (answer : t.radio.requestKickoff = { reply := .ok (), radio, log }) :
    t.kickoff =
      let t := { iface := t.iface.clear, radio := radio.heard, calls := t.calls ++ [.kickoff (.ok ())] }
      if t.iface.stops = [] then .error (.noUsableData, t) else .ok t := by
  simp only [kickoff, answer]

/-- Checks what must hold before the scan. -/
def prepare (t : Tour) : Toured Tour :=
  if t.iface.surveyed ≠ 0 then .error (.unmet .noSurveyData, t)
  else if !t.iface.offChannelCapable then .error (.unmet .offChannelCapable, t)
  else t.kickoff

/-- Dwells on a frequency until the radio comes back. -/
def dwell (t : Tour) (freq : UInt32) : Toured Tour :=
  let a := t.radio.requestOffChannel freq t.iface.settings.dwell
  let t := { t with
    radio := a.radio.heard
    calls := t.calls ++ [.offChannel freq t.iface.settings.dwell a.reply] }
  match a.reply with
  | .error r => .error (.refused r, t)
  | .ok _ => if t.radio.cutsShort.contains freq then .error (.cancelled freq cutShortStatus, t) else .ok t

/-- A refused dwell ends the sweep where it stands. -/
theorem dwell_refused {t : Tour} {freq : UInt32} {why : Refusal} {radio : SimulatedRadio} {log : List Severity}
    (answer : t.radio.requestOffChannel freq t.iface.settings.dwell = { reply := .error why, radio, log }) :
    t.dwell freq =
      .error (.refused why,
        { t with
          radio := radio.heard
          calls := t.calls ++ [.offChannel freq t.iface.settings.dwell (.error why)] }) := by
  simp only [dwell, answer]

/-- An accepted dwell is waited for; one that is cut short ends the sweep. -/
theorem dwell_accepted {t : Tour} {freq : UInt32} {radio : SimulatedRadio} {log : List Severity}
    (answer : t.radio.requestOffChannel freq t.iface.settings.dwell = { reply := .ok (), radio, log }) :
    t.dwell freq =
      let t := { t with
        radio := radio.heard
        calls := t.calls ++ [.offChannel freq t.iface.settings.dwell (.ok ())] }
      if radio.cutsShort.contains freq then .error (.cancelled freq cutShortStatus, t) else .ok t := by
  simp only [dwell, answer]
  rfl

/-- Reads the survey of a channel and stores its samples. -/
def survey (t : Tour) (s : Stop) : Toured Tour :=
  let a := t.radio.requestTraffic s.freq
  let t := { t with radio := a.radio, calls := t.calls ++ [.traffic s.freq a.reply] }
  match a.reply with
  | .error r => .error (.refused r, t)
  | .ok samples => .ok { t with iface := t.iface.recordAll s.index samples }

/-- Visits one channel. -/
def visit (t : Tour) (s : Stop) : Toured Tour := do
  let t ← t.dwell s.freq
  t.survey s

/-- Visits these channels in order, so many times over. -/
def rounds (stops : List Stop) : Nat → Tour → Toured Tour
  | 0, t => .ok t
  | n + 1, t => do
    let t ← stops.foldlM visit t
    t.rounds stops n

end Tour

/-- The interface behind the last channel of the last round. -/
def Interface.visited (i : Interface) : Interface :=
  { i with position := i.channels.length, roundsDone := i.settings.target }

namespace Tour

/-- Selects the ideal channel and makes it the operating one. -/
def choose [BinaryLog] (t : Tour) : Toured (Selection × Tour) :=
  if t.iface.surveyed = 0 then .error (.noUsableData, t)
  else
    match t.iface.visited.chosen? with
    | none => .error (.noIdealChannel, t)
    | some s =>
      .ok (s, { t with iface := { t.iface.visited.select.iface with operating := some s.number } })

/-- The whole loop, up to a selection. -/
def loop [BinaryLog] (t : Tour) : Toured (Selection × Tour) := do
  let t ← t.prepare
  let t ← t.rounds t.iface.stops t.iface.settings.target.toNat
  t.choose

variable {η : Type} [Host η]

/-- Tells the host of a failure. -/
def abandon (t : Tour) (host : η) (f : Failure) : Run SimulatedRadio η :=
  { station :=
      { phase := .failed f, iface := t.iface.clear, radio := t.radio
        host := Host.notify host t.iface.clear f }
    journal := t.calls ++ [.notified t.iface.clear f] }

/-- Asks the host for its verdict on a selection. -/
def handOver (t : Tour) (host : η) (s : Selection) : Run SimulatedRadio η :=
  let (v, host) := Host.judge host t.iface
  let t := { t with calls := t.calls ++ [Entry.judged t.iface v] }
  match v.rejection? with
  | none =>
    { station := { phase := .done s, iface := t.iface.clear, radio := t.radio, host }, journal := t.calls }
  | some why => t.abandon host (.rejected s.number why)

end Tour

/-- **The plain loop**: what a rehearsal comes to, with the calls it makes. -/
def Rehearsal.sequential {η : Type} [Host η] [BinaryLog] (w : Rehearsal η) : Run SimulatedRadio η :=
  match Tour.loop { iface := Station.refreshed w, radio := w.radio } with
  | .error (f, t) => t.abandon w.host f
  | .ok (s, t) => t.handOver w.host s

/-! ## What the loop does to the radio -/

namespace Tour

/-- However it comes out, the radio is whole. -/
def KeepsWhole {α : Type} (x : Toured α) (tour : α → Tour) : Prop :=
  Toured.Ends x (fun _ t => t.radio.Whole) fun a => (tour a).radio.Whole

/-- A scan leaves a radio whole. -/
theorem kickoff_whole {t : Tour} (h : t.radio.Whole) : KeepsWhole t.kickoff id := by
  have hkickoff := h.requestKickoff
  rcases hanswer : t.radio.requestKickoff with ⟨reply, radio, log⟩
  rw [hanswer] at hkickoff
  cases reply with
  | error why =>
    rw [kickoff_refused hanswer]
    exact hkickoff.heard
  | ok u =>
    rw [kickoff_accepted hanswer]
    dsimp only
    split <;> exact hkickoff.heard

/-- So do the checks before it, which ask the radio for nothing. -/
theorem prepare_whole {t : Tour} (h : t.radio.Whole) : KeepsWhole t.prepare id := by
  unfold prepare
  split
  · exact h
  · split
    · exact h
    · exact kickoff_whole h

/-- A dwell leaves a radio whole. -/
theorem dwell_whole {t : Tour} (h : t.radio.Whole) (freq : UInt32) : KeepsWhole (t.dwell freq) id := by
  have hdwell := h.requestOffChannel freq t.iface.settings.dwell
  rcases hanswer : t.radio.requestOffChannel freq t.iface.settings.dwell with ⟨reply, radio, log⟩
  rw [hanswer] at hdwell
  cases reply with
  | error why =>
    rw [dwell_refused hanswer]
    exact hdwell.heard
  | ok u =>
    rw [dwell_accepted hanswer]
    dsimp only
    split <;> exact hdwell.heard

/-- With valid profiles a survey draws a sample and leaves the radio whole. -/
theorem survey_whole {t : Tour} (h : t.radio.Whole) (s : Stop) : KeepsWhole (t.survey s) id := by
  have hsurvey := h.requestTraffic s.freq
  unfold survey
  dsimp only
  split <;> exact hsurvey

/-- A visit is a dwell and a survey. -/
theorem visit_whole {t : Tour} (h : t.radio.Whole) (s : Stop) : KeepsWhole (t.visit s) id :=
  Toured.ends_bind.mpr ((dwell_whole h s.freq).imp fun _ _ h' => survey_whole h' s)

/-- A round leaves a radio whole, by induction on the stops. -/
theorem stops_whole {t : Tour} (h : t.radio.Whole) (stops : List Stop) :
    KeepsWhole (stops.foldlM visit t) id := by
  induction stops generalizing t with
  | nil => exact h
  | cons s rest ih =>
    rw [List.foldlM_cons]
    exact Toured.ends_bind.mpr ((visit_whole h s).imp fun _ _ h' => ih h')

/-- Several rounds leave a radio whole, by induction on their number. -/
theorem rounds_whole {t : Tour} (h : t.radio.Whole) (stops : List Stop) (n : Nat) :
    KeepsWhole (t.rounds stops n) id := by
  induction n generalizing t with
  | zero => exact h
  | succ n ih => exact Toured.ends_bind.mpr ((stops_whole h stops).imp fun _ _ h' => ih h')

/-- A selection asks the radio for nothing. -/
theorem choose_whole [BinaryLog] {t : Tour} (h : t.radio.Whole) : KeepsWhole t.choose Prod.snd := by
  unfold choose
  split
  · exact h
  · split <;> exact h

/-- The loop leaves a radio whole that was. -/
theorem loop_whole [BinaryLog] {t : Tour} (h : t.radio.Whole) : KeepsWhole t.loop Prod.snd := by
  refine Toured.ends_bind.mpr ((prepare_whole h).imp fun t' _ h' => ?_)
  exact Toured.ends_bind.mpr ((rounds_whole h' _ _).imp fun _ _ h'' => choose_whole h'')

end Tour

/-- **A rehearsal leaves a radio whole**, whatever the verdict of the host. -/
theorem Rehearsal.sequential_whole {η : Type} [Host η] [BinaryLog] {w : Rehearsal η} (h : w.radio.Whole) :
    (sequential w).station.radio.Whole := by
  have hloop := Tour.loop_whole (t := { iface := Station.refreshed w, radio := w.radio }) h
  unfold sequential
  split
  · rename_i f t hend
    rw [hend] at hloop
    exact hloop
  · rename_i s t hend
    rw [hend] at hloop
    have hradio : t.radio.Whole := hloop
    unfold Tour.handOver
    dsimp only
    split <;> exact hradio

end ChannelSurvey

import ChannelSurvey.Proofs.Interface.Holding
import ChannelSurvey.Proofs.Rehearsal.Refinement
import ChannelSurvey.Proofs.Sweep.Route
import ChannelSurvey.Scenario

/-!
# Rehearsals on a willing radio

The radio of a scenario refuses nothing and cuts no dwell short, and its profiles are valid (`radio_willing`). On
such a radio a visit of the plain loop can be written down (`visit_willing`): the dwell, one sample drawn from
the profile, and the two calls.

**The law** (`exists_surveyed`): the whole route is made, and every channel then holds as many samples as the route
passes it. So the loop comes to a choice unless a capability is missing or there is no channel to survey
(`comes_loop`).
-/

namespace ChannelSurvey

open ChannelSurvey.Random (Generator)

namespace SimulatedRadio

/-- A radio that has valid profiles and nothing queued, and goes along with every request. -/
structure Willing (r : SimulatedRadio) : Prop where
  whole : r.Whole
  quiet : r.pending = []
  kickoff : r.refusesKickoff = false
  offChannel : r.refusesOffChannel = []
  survey : r.refusesSurvey = []
  cuts : r.cutsShort = []

variable {r : SimulatedRadio}

/-- The radio behind a visit: it has been on the frequency for a dwell, and has drawn a sample. -/
def wentTo (r : SimulatedRadio) (freq dwell : UInt32) (g : Generator) : SimulatedRadio :=
  { r with visits := r.visits.push freq, dwells := r.dwells.insert freq dwell, generator := g }

/-- A visit leaves a radio as willing as it was. -/
theorem Willing.wentTo (h : r.Willing) (freq dwell : UInt32) (g : Generator) : (r.wentTo freq dwell g).Willing :=
  ⟨⟨h.whole.works, h.whole.valid⟩, h.quiet, h.kickoff, h.offChannel, h.survey, h.cuts⟩

/-- A willing radio scans when it is asked to. -/
theorem Willing.requestKickoff (h : r.Willing) :
    r.requestKickoff = { reply := .ok (), radio := { r with pending := [.kickoffComplete] } } := by
  simp [SimulatedRadio.requestKickoff, h.kickoff, h.quiet]

/-- It goes off-channel when it is asked to. -/
theorem Willing.requestOffChannel (h : r.Willing) (freq dwell : UInt32) :
    r.requestOffChannel freq dwell =
      { reply := .ok ()
        radio :=
          { r.wentTo freq dwell r.generator with pending := [.ready freq dwell 0, .cancelled freq dwell 0] } } := by
  simp [SimulatedRadio.requestOffChannel, SimulatedRadio.wentTo, h.offChannel, h.cuts, h.quiet]

/-- A survey draws one sample for the latest dwell. -/
theorem Willing.requestTraffic (h : r.Willing) (freq : UInt32) :
    ∃ sample g, (r.profileAt freq).sample? ((r.dwells.get? freq).getD 1) r.generator = some (sample, g) ∧
      r.requestTraffic freq = { reply := .ok [sample], radio := { r with generator := g }, log := [.debug] } := by
  obtain ⟨⟨sample, g⟩, hdrawn⟩ :=
    Profile.exists_sample (h.whole.valid freq) ((r.dwells.get? freq).getD 1) r.generator
  exact ⟨sample, g, hdrawn, by simp [SimulatedRadio.requestTraffic, h.survey, hdrawn]⟩

end SimulatedRadio

/-! ## The radio of a scenario -/

/-- What comes out of two parts came out of the first one. -/
theorem bind_eq_ok {ε α β : Type} {x : Except ε α} {f : α → Except ε β} {b : β} :
    (x >>= f) = .ok b ↔ ∃ a, x = .ok a ∧ f a = .ok b := by
  cases x with
  | error e => simp [bind, Except.bind]
  | ok a => simp [bind, Except.bind]

namespace Scenario

variable {s : Scenario}

/-- The parts of a check. -/
theorem valid_of_check (accepted : s.check = .ok ()) :
    s.defaultProfile.check = .ok () ∧ ∀ e ∈ s.profiles, e.2.check = .ok () := by
  obtain ⟨_, hdefault, hlisted⟩ := bind_eq_ok.mp accepted
  refine ⟨hdefault, ?_⟩
  cases hwrong : s.wrongProfile? with
  | some v =>
    rw [hwrong] at hlisted
    cases hlisted
  | none =>
    intro e he
    have hnone := List.findSome?_eq_none_iff.mp hwrong e he
    rw [Option.map_eq_none_iff] at hnone
    rw [Profile.check, hnone]

/-- Enters a listed profile under its frequency. -/
def enter (s : Scenario) (t : FreqTable Profile) (e : UInt8 × Profile) : FreqTable Profile :=
  match s.band.frequency? e.1 with
  | some freq => t.insert freq e.2
  | none => t

/-- The listed profiles by frequency. -/
def table (s : Scenario) : FreqTable Profile :=
  s.profiles.foldl s.enter {}

/-- **A seed is in the generator only**; the rest of a scenario's radio is its default profile and its table. -/
theorem radio_eq (s : Scenario) (seed : UInt64) :
    s.radio seed =
      { SimulatedRadio.new seed s.defaultProfile with
        offChannelCapable := s.offChannelCapable, profiles := s.table } := by
  have hfold (l : List (UInt8 × Profile)) (r : SimulatedRadio) :
      l.foldl
          (fun r (e : UInt8 × Profile) =>
            match s.band.frequency? e.1 with
            | some freq => r.setProfile freq e.2
            | none => r)
          r =
        { r with profiles := l.foldl s.enter r.profiles } := by
    induction l generalizing r with
    | nil => rfl
    | cons e rest ih =>
      rw [List.foldl_cons, ih, List.foldl_cons, enter]
      split <;> rfl
  exact hfold s.profiles _

/-- A table filled from valid profiles holds no other. -/
theorem valid_table (hprofiles : ∀ e ∈ s.profiles, e.2.check = .ok ()) {freq : UInt32} {p : Profile}
    (known : s.table.get? freq = some p) : p.check = .ok () := by
  have hfold (l : List (UInt8 × Profile)) (t : FreqTable Profile) (hl : ∀ e ∈ l, e.2.check = .ok ())
      (ht : ∀ freq (p : Profile), t.get? freq = some p → p.check = .ok ()) :
      ∀ freq (p : Profile), (l.foldl s.enter t).get? freq = some p → p.check = .ok () := by
    induction l generalizing t with
    | nil => exact ht
    | cons e rest ih =>
      refine ih _ (fun e' he' => hl e' (List.mem_cons_of_mem _ he')) fun freq p hp => ?_
      unfold enter at hp
      split at hp
      · rw [FreqTable.get?_insert] at hp
        split at hp
        · obtain rfl := Option.some.inj hp
          exact hl e List.mem_cons_self
        · exact ht freq p hp
      · exact ht freq p hp
  exact hfold s.profiles {} hprofiles (fun _ _ h => by cases h) freq p known

/-- **The radio of a scenario is willing.** -/
theorem radio_willing (accepted : s.check = .ok ()) (seed : UInt64) : (s.radio seed).Willing := by
  obtain ⟨hdefault, hprofiles⟩ := valid_of_check accepted
  rw [radio_eq]
  refine ⟨⟨rfl, fun freq => ?_⟩, rfl, rfl, rfl, rfl, rfl⟩
  show ((s.table.get? freq).getD s.defaultProfile).check = .ok ()
  cases hknown : s.table.get? freq with
  | none => exact hdefault
  | some p => exact valid_table hprofiles hknown

end Scenario

namespace Tour

variable {t : Tour}

/-! ## A visit -/

/-- The tour behind a visit that came out with a sample. -/
def visited (t : Tour) (s : Stop) (sample : Sample) (g : Generator) : Tour :=
  { iface := t.iface.record s.index sample
    radio := t.radio.wentTo s.freq t.iface.settings.dwell g
    calls :=
      t.calls ++
        [.offChannel s.freq t.iface.settings.dwell (.ok ()), .traffic s.freq (.ok [sample])] }

/-- A dwell of a willing radio goes through. -/
theorem dwell_willing (willing : t.radio.Willing) (freq : UInt32) :
    t.dwell freq =
      .ok { t with
        radio := t.radio.wentTo freq t.iface.settings.dwell t.radio.generator
        calls := t.calls ++ [.offChannel freq t.iface.settings.dwell (.ok ())] } := by
  have hwent := willing.wentTo freq t.iface.settings.dwell t.radio.generator
  have hcuts : ¬ (t.radio.wentTo freq t.iface.settings.dwell t.radio.generator).cutsShort.contains freq := by
    simp [hwent.cuts]
  rw [dwell_accepted (willing.requestOffChannel freq t.iface.settings.dwell)]
  dsimp only
  rw [if_neg hcuts, ← SimulatedRadio.heard_of_quiet hwent.quiet]
  rfl

/-- **A visit on a willing radio** draws one sample. -/
theorem visit_willing (willing : t.radio.Willing) (s : Stop) :
    ∃ sample g, (t.radio.profileAt s.freq).sample? t.iface.settings.dwell t.radio.generator = some (sample, g) ∧
      t.visit s = .ok (t.visited s sample g) := by
  have hwent := willing.wentTo s.freq t.iface.settings.dwell t.radio.generator
  obtain ⟨sample, g, hdrawn, hanswer⟩ := hwent.requestTraffic s.freq
  have hdwell :
      ((t.radio.dwells.insert s.freq t.iface.settings.dwell).get? s.freq).getD 1 = t.iface.settings.dwell := by
    rw [FreqTable.get?_insert, if_pos rfl]
    rfl
  refine ⟨sample, g, hdwell ▸ hdrawn, ?_⟩
  rw [visit, dwell_willing willing]
  show survey _ s = _
  rw [survey]
  simp only [hanswer, visited, List.append_assoc]
  rfl

/-! ## All the visits -/

/-- The rounds visit one stop after the other. -/
theorem rounds_eq (stops : List Stop) (n : Nat) (t : Tour) :
    t.rounds stops n = (List.replicate n stops).flatten.foldlM visit t := by
  induction n generalizing t with
  | zero => rfl
  | succ n ih =>
    rw [rounds, List.replicate_succ, List.flatten_cons, List.foldlM_append]
    exact congrArg _ (funext ih)

/-- **The tour behind these visits**, from one that held nothing. -/
structure Surveyed (t : Tour) (made : List Stop) (u : Tour) : Prop where
  willing : u.radio.Willing
  profiles : u.radio.profileAt = t.radio.profileAt
  layout : Interface.SameLayout u.iface t.iface
  visits : u.radio.visits.toList = t.radio.visits.toList ++ made.map (·.freq)
  /-- Every channel holds a sample for each visit. -/
  held : ∃ held all, u.iface.Holds held all ∧ ∀ k, (held k).length = made.countP (·.index == k)
  unscored : u.iface.Unscored

/-- A tour starts with nothing surveyed. -/
theorem surveyed_start (willing : t.radio.Willing) (clean : t.iface.clear = t.iface) : t.Surveyed [] t where
  willing := willing
  profiles := rfl
  layout := .refl _
  visits := (List.append_nil _).symm
  held := ⟨fun _ => [], [], clean ▸ t.iface.holds_clear, fun _ => rfl⟩
  unscored := clean ▸ t.iface.unscored_clear

/-- **One visit more.** -/
theorem Surveyed.visited {u : Tour} {made : List Stop} (h : t.Surveyed made u) {s : Stop}
    (range : s.index < t.iface.channels.length) (sample : Sample) (g : Generator) :
    t.Surveyed (made ++ [s]) (u.visited s sample g) := by
  obtain ⟨held, all, hholds, hlength⟩ := h.held
  have hrange : s.index < u.iface.channels.length := h.layout.length.symm ▸ range
  refine ⟨h.willing.wentTo .., h.profiles, ?_, ?_, ⟨_, _, Interface.holds_record hholds hrange sample, fun k => ?_⟩, ?_⟩
  · exact (Interface.SameLayout.of_clear_eq (Interface.clear_record ..)).trans h.layout
  · show (u.radio.visits.push s.freq).toList = _
    rw [Array.toList_push, h.visits, List.map_append, List.append_assoc]
    rfl
  · rw [List.countP_append, ← hlength k, Interface.give, List.countP_singleton]
    by_cases same : s.index = k
    · simp [same]
    · simp [same]
  · exact Interface.unscored_record h.unscored s.index sample

/-- **All visits are made.** -/
theorem Surveyed.foldlM {u : Tour} {made : List Stop} (h : t.Surveyed made u) {route : List Stop}
    (range : ∀ s ∈ route, s.index < t.iface.channels.length) :
    ∃ v, route.foldlM visit u = .ok v ∧ t.Surveyed (made ++ route) v := by
  induction route generalizing u made with
  | nil => exact ⟨u, rfl, (List.append_nil made).symm ▸ h⟩
  | cons s rest ih =>
    obtain ⟨sample, g, -, hvisit⟩ := visit_willing h.willing s
    obtain ⟨v, hrest, hsurveyed⟩ := ih (h.visited (range s List.mem_cons_self) sample g) fun s' hs' =>
      range s' (List.mem_cons_of_mem _ hs')
    refine ⟨v, ?_, ?_⟩
    · rw [List.foldlM_cons, hvisit]
      exact hrest
    · rwa [List.append_assoc] at hsurveyed

/-! ## The loop -/

/-- The tour behind the kick-off scan. -/
def opened (t : Tour) : Tour :=
  { t with iface := t.iface.clear, calls := t.calls ++ [.kickoff (.ok ())] }

/-- Only the want of an enabled channel stops a tour behind the scan. -/
theorem kickoff_willing (willing : t.radio.Willing) :
    t.kickoff = if t.iface.stops = [] then .error (.noUsableData, t.opened) else .ok t.opened := by
  rw [kickoff_accepted willing.requestKickoff]
  have hheard : ({ t.radio with pending := [.kickoffComplete] } : SimulatedRadio).heard = t.radio :=
    SimulatedRadio.heard_of_quiet willing.quiet
  have hstops : t.iface.clear.stops = t.iface.stops := Interface.stops_congr (.clear _)
  simp only [hheard, hstops]
  rfl

/-- The loop up to the choice. -/
def collect (t : Tour) : Toured Tour := do
  let t ← t.prepare
  t.rounds t.iface.stops t.iface.settings.target.toNat

/-- The loop collects, and then it chooses. -/
theorem loop_eq [BinaryLog] (t : Tour) : t.loop = t.collect >>= choose := by
  rw [loop, collect, bind_assoc]

/-- An interface that cannot leave its channel collects nothing. -/
theorem collect_incapable (fresh : t.iface.surveyed = 0) (bad : t.iface.offChannelCapable = false) :
    t.collect = .error (.unmet .offChannelCapable, t) := by
  rw [collect, prepare, if_neg (not_not_intro fresh), bad, if_pos Bool.not_false]
  rfl

/-- One that can visits the whole route. -/
theorem collect_able (willing : t.radio.Willing) (fresh : t.iface.surveyed = 0)
    (able : t.iface.offChannelCapable = true) :
    t.collect =
      if t.iface.stops = [] then .error (.noUsableData, t.opened)
      else (Sweep.route t.iface).foldlM visit t.opened := by
  rw [collect, prepare, if_neg (not_not_intro fresh), able, Bool.not_true, if_neg Bool.false_ne_true,
    kickoff_willing willing]
  split
  · rfl
  · show t.opened.rounds t.opened.iface.stops t.opened.iface.settings.target.toNat = _
    rw [rounds_eq, ← Sweep.route_congr (.clear t.iface)]
    rfl

/-- **The whole route is made.** -/
theorem exists_surveyed (willing : t.radio.Willing) :
    ∃ u, (Sweep.route t.iface).foldlM visit t.opened = .ok u ∧ t.opened.Surveyed (Sweep.route t.iface) u := by
  have hlayout : Interface.SameLayout t.iface.clear t.iface := .clear _
  have hstart : t.opened.Surveyed [] t.opened := surveyed_start willing (Interface.clear_clear _)
  refine hstart.foldlM fun s hs => ?_
  obtain ⟨c, hc, _⟩ := Interface.enabled_of_mem_stops (Sweep.mem_route.mp hs)
  show s.index < t.iface.clear.channels.length
  rw [hlayout.length]
  exact (List.getElem?_eq_some_iff.mp hc).1

section

variable [BinaryLog]

/-- The tour behind a selection. -/
def chose (t : Tour) (s : Selection) : Tour :=
  { t with iface := { t.iface.visited.select.iface with operating := some s.number } }

/-- **How a choice comes out.** -/
inductive Chooses (t : Tour) : Toured (Selection × Tour) → Prop
  | unsurveyed (none : t.iface.surveyed = 0) : Chooses t (.error (.noUsableData, t))
  | undecided (none : t.iface.visited.chosen? = none) : Chooses t (.error (.noIdealChannel, t))
  | chosen {s : Selection} (some : t.iface.visited.chosen? = some s) : Chooses t (.ok (s, t.chose s))

theorem chooses_choose (t : Tour) : t.Chooses t.choose := by
  unfold choose
  by_cases hnone : t.iface.surveyed = 0
  · rw [if_pos hnone]
    exact .unsurveyed hnone
  · rw [if_neg hnone]
    cases hchosen : t.iface.visited.chosen? with
    | none => exact .undecided hchosen
    | some s => exact .chosen hchosen

/-- **How the loop comes out on a willing radio**: it lacks the capability, or has no channel to survey, or comes to
a choice with the whole route behind it. -/
inductive Comes (t : Tour) : Toured (Selection × Tour) → Prop
  | incapable (bad : t.iface.offChannelCapable = false) : Comes t (.error (.unmet .offChannelCapable, t))
  | bare (able : t.iface.offChannelCapable = true) (none : t.iface.stops = []) :
    Comes t (.error (.noUsableData, t.opened))
  | surveyed {u : Tour} (able : t.iface.offChannelCapable = true) (some : t.iface.stops ≠ [])
      (all : t.opened.Surveyed (Sweep.route t.iface) u) : Comes t u.choose

/-- The loop comes to one of these ends. -/
theorem comes_loop (willing : t.radio.Willing) (fresh : t.iface.surveyed = 0) : t.Comes t.loop := by
  rw [loop_eq]
  cases able : t.iface.offChannelCapable with
  | false =>
    rw [collect_incapable fresh able]
    exact .incapable able
  | true =>
    rw [collect_able willing fresh able]
    by_cases hstops : t.iface.stops = []
    · rw [if_pos hstops]
      exact .bare able hstops
    · obtain ⟨u, hvisits, hsurveyed⟩ := exists_surveyed willing
      rw [if_neg hstops, hvisits]
      exact .surveyed able hstops hsurveyed

end

end Tour

/-! ## Rehearsing a scenario -/

/-- The end of a sweep, given how the loop came out. -/
def Toured.ending {η : Type} [Host η] (x : Toured (Selection × Tour)) (host : η) : Run SimulatedRadio η :=
  match x with
  | .error (f, t) => t.abandon host f
  | .ok (c, t) => t.handOver host c

/-- From the choice to the end the radio is left alone. -/
theorem Tour.radio_ending_choose {η : Type} [Host η] [BinaryLog] (t : Tour) (host : η) :
    (Toured.ending t.choose host).station.radio = t.radio := by
  have hchooses := t.chooses_choose
  generalize t.choose = x at hchooses ⊢
  cases hchooses with
  | unsurveyed => rfl
  | undecided => rfl
  | chosen =>
    dsimp only [Toured.ending, handOver]
    split <;> rfl

namespace Scenario

variable {η : Type} (s : Scenario) (settings : Settings) (seed : UInt64) (host : η)

/-- A station before a rehearsal of the scenario. -/
def rehearsal : Rehearsal η :=
  { phase := .idle, iface := s.interface settings, radio := s.radio seed, host }

/-- What the loop works on in a rehearsal of the scenario. -/
def tour : Tour :=
  { iface := s.interface settings, radio := s.radio seed }

variable [Host η] [BinaryLog]

/-- The rehearsal of a scenario in a row is its loop with the end in front of the host. -/
theorem sequential_rehearsal :
    Rehearsal.sequential (s.rehearsal settings seed host) = Toured.ending (s.tour settings seed).loop host := by
  have hcapable : (s.radio seed).offChannelCapable = s.offChannelCapable := by rw [radio_eq]
  have hrefreshed : Station.refreshed (s.rehearsal settings seed host) = s.interface settings := by
    show { s.interface settings with offChannelCapable := (s.radio seed).offChannelCapable } = _
    rw [hcapable]
    rfl
  rw [Rehearsal.sequential, hrefreshed]
  rfl

variable {s}

/-- A rehearsal of an accepted scenario comes to the end of the plain loop. -/
theorem exists_rehearsed (accepted : s.check = .ok ()) :
    ∃ run, Rehearsal.runSweep (s.rehearsal settings seed host) = .ok run ∧
      run.Yields (Rehearsal.sequential (s.rehearsal settings seed host)).station
        (Rehearsal.sequential (s.rehearsal settings seed host)).journal := by
  have hwilling := radio_willing accepted seed
  obtain ⟨run, hrun, hyields, -⟩ := Rehearsal.exists_runSweep (w := s.rehearsal settings seed host) rfl hwilling.quiet
  exact ⟨run, hrun, hyields⟩

end Scenario

end ChannelSurvey

import ChannelSurvey.MachineLog
import ChannelSurvey.Proofs.Interface.Outline
import ChannelSurvey.Proofs.Radio.Draws
import ChannelSurvey.Proofs.Rehearsal.Willing

/-!
# What a seed decides

Two rehearsals of a scenario that differ in the seed of the radio only.

**The law** (`seeds_alike`): they visit the same frequencies in the same order, ask and are answered alike, hold as
many samples on every channel when the choice is made, and end in the same kind of outcome. Where no visited profile
has deviations they agree in everything but the generator.

It rests on `Profile.isDegenerate_of_sample`. What is drawn of a sample never makes it degenerate, so two tours keep
the same `Interface.outline`: the layout, the counts, and which samples are degenerate. Whether there is a channel to
choose can be told from an outline (`Interface.chosen?_eq_none`), and which one cannot.
-/

namespace ChannelSurvey

open ChannelSurvey.Random (Generator)

/-- The outline of a visited interface is the visited outline. -/
theorem Interface.outline_visited (i : Interface) : i.visited.outline = i.outline.visited := by
  simp [visited, outline]

/-! ## What two runs have in common -/

/-- A failure without the channel that was rejected. -/
def Failure.kind : Failure → Failure
  | .rejected _ why => .rejected 0 why
  | f => f

/-- Two outcomes of the same kind: two selections, or two failures of one kind. -/
inductive Outcome.SameKind : Outcome → Outcome → Prop
  | selected (s s' : Selection) : SameKind (.selected s) (.selected s')
  | failed {f f' : Failure} (same : f.kind = f'.kind) : SameKind (.failed f) (.failed f')

/-- Two calls of the same kind: the same request with as long a reply, or the host asked about or told of the same
number of samples on each channel. -/
inductive Entry.SameKind : Entry → Entry → Prop
  | message (s : Severity) : SameKind (.message s) (.message s)
  | kickoff (reply : Except Refusal Unit) : SameKind (.kickoff reply) (.kickoff reply)
  | offChannel (freq dwell : UInt32) (reply : Except Refusal Unit) :
      SameKind (.offChannel freq dwell reply) (.offChannel freq dwell reply)
  | traffic (freq : UInt32) {reply reply' : Except Refusal (List Sample)}
      (length : reply.map List.length = reply'.map List.length) :
      SameKind (.traffic freq reply) (.traffic freq reply')
  | judged {i i' : Interface} (census : i.census = i'.census) (v : Verdict) : SameKind (.judged i v) (.judged i' v)
  | notified {i i' : Interface} (census : i.census = i'.census) {f f' : Failure} (same : f.kind = f'.kind) :
      SameKind (.notified i f) (.notified i' f')

/-- Every entry is of its own kind. -/
theorem Entry.SameKind.refl : ∀ e : Entry, SameKind e e
  | .message s => .message s
  | .kickoff reply => .kickoff reply
  | .offChannel freq dwell reply => .offChannel freq dwell reply
  | .traffic freq _ => .traffic freq rfl
  | .judged _ v => .judged rfl v
  | .notified _ _ => .notified rfl rfl

/-- The same radio at some other place of a keystream. -/
def SimulatedRadio.seeded (r : SimulatedRadio) (g : Generator) : SimulatedRadio :=
  { r with generator := g }

/-- Reseeding a radio leaves it as willing as it was. -/
theorem SimulatedRadio.Willing.seeded {r : SimulatedRadio} (h : r.Willing) (g : Generator) : (r.seeded g).Willing :=
  ⟨⟨h.whole.works, h.whole.valid⟩, h.quiet, h.kickoff, h.offChannel, h.survey, h.cuts⟩

namespace Tour

/-- **Two tours alike**: their radios differ in the generator at most, and they hold as many samples, degenerate
ones in the same places. -/
structure Alike (t t' : Tour) : Prop where
  willing : t.radio.Willing
  radio : ∃ g, t'.radio = t.radio.seeded g
  outline : t.iface.outline = t'.iface.outline
  calls : List.Forall₂ Entry.SameKind t.calls t'.calls

/-- **Two tours in agreement**: they differ in the generator at most. -/
structure Agrees (t t' : Tour) : Prop where
  willing : t.radio.Willing
  same : ∃ g, t' = { t with radio := t.radio.seeded g }

variable {t t' : Tour}

/-- Tours that are alike follow the same settings. -/
theorem Alike.settings (h : t.Alike t') : t.iface.settings = t'.iface.settings :=
  (Interface.sameLayout_of_outline h.outline).settings

/-- Their radios have made the same visits. -/
theorem Alike.visits (h : t.Alike t') : t'.radio.visits = t.radio.visits := by
  obtain ⟨g, hradio⟩ := h.radio
  rw [hradio]
  rfl

/-- **Visits keep tours alike**: whether a sample is degenerate is not drawn. -/
theorem visit_alike (h : t.Alike t') (s : Stop) :
    ∃ u u', t.visit s = .ok u ∧ t'.visit s = .ok u' ∧ u.Alike u' := by
  obtain ⟨g₀, hradio⟩ := h.radio
  have hsettings := h.settings
  have hwilling' : t'.radio.Willing := hradio ▸ h.willing.seeded g₀
  obtain ⟨sample, g, hdrawn, hvisit⟩ := visit_willing h.willing s
  obtain ⟨sample', g', hdrawn', hvisit'⟩ := visit_willing hwilling' s
  have hprofile : t'.radio.profileAt s.freq = t.radio.profileAt s.freq := by
    rw [hradio]
    rfl
  have hdegenerate : sample.isDegenerate = sample'.isDegenerate := by
    have hvalid := h.willing.whole.valid s.freq
    rw [hprofile, ← hsettings] at hdrawn'
    rw [Profile.isDegenerate_of_sample hvalid hdrawn, Profile.isDegenerate_of_sample hvalid hdrawn']
  have houtline := Interface.record_alike h.outline s.index hdegenerate
  refine ⟨_, _, hvisit, hvisit', h.willing.wentTo .., ⟨g', ?_⟩, houtline, ?_⟩
  · simp only [visited, hradio, ← hsettings]
    rfl
  · simp only [visited, ← hsettings]
    exact List.rel_append h.calls (.cons (.offChannel ..) (.cons (.traffic s.freq rfl) .nil))

/-- **Visits keep tours in agreement** where the profile has no deviations. -/
theorem visit_agrees (h : t.Agrees t') {s : Stop} (still : (t.radio.profileAt s.freq).Still) :
    ∃ u u', t.visit s = .ok u ∧ t'.visit s = .ok u' ∧ u.Agrees u' ∧ u.radio.profileAt = t.radio.profileAt := by
  obtain ⟨g₀, rfl⟩ := h.same
  obtain ⟨sample, g, hdrawn, hvisit⟩ := visit_willing h.willing s
  obtain ⟨sample', g', hdrawn', hvisit'⟩ :=
    visit_willing (t := { t with radio := t.radio.seeded g₀ }) (h.willing.seeded g₀) s
  have hsame : sample' = sample := by
    have hstill := Profile.sample_of_still still t.iface.settings.dwell g₀ t.radio.generator
    have hdrawn₀ : (t.radio.profileAt s.freq).sample? t.iface.settings.dwell g₀ = some (sample', g') := hdrawn'
    rw [hdrawn, hdrawn₀] at hstill
    exact (Prod.mk.inj (Option.some.inj hstill)).1
  subst hsame
  exact ⟨_, _, hvisit, hvisit', ⟨h.willing.wentTo .., g', rfl⟩, rfl⟩

/-- What every visit keeps of two tours, all of them keep. -/
theorem foldlM_related {R : Tour → Tour → Prop} {route : List Stop}
    (step : ∀ s ∈ route, ∀ t t', R t t' → ∃ u u', t.visit s = .ok u ∧ t'.visit s = .ok u' ∧ R u u') (h : R t t') :
    ∃ u u', route.foldlM visit t = .ok u ∧ route.foldlM visit t' = .ok u' ∧ R u u' := by
  induction route generalizing t t' with
  | nil => exact ⟨t, t', rfl, rfl, h⟩
  | cons s rest ih =>
    obtain ⟨u, u', hvisit, hvisit', hstep⟩ := step s List.mem_cons_self t t' h
    rw [List.foldlM_cons, List.foldlM_cons, hvisit, hvisit']
    exact ih (fun s' hs' => step s' (List.mem_cons_of_mem _ hs')) hstep

end Tour

/-! ## The loop -/

/-- Two parts of a loop that come out related: the same failure, or both go on. -/
inductive Toured.Related {α : Type} (R : Tour → Tour → Prop) (A : α → α → Prop) : Toured α → Toured α → Prop
  | ended (f : Failure) {u u' : Tour} (related : R u u') : Related R A (.error (f, u)) (.error (f, u'))
  | went {a a' : α} (related : A a a') : Related R A (.ok a) (.ok a')

/-- Related parts followed by related parts are related; an early end keeps what is known of it. -/
theorem Toured.Related.bind {α β : Type} {R R' : Tour → Tour → Prop} {A : α → α → Prop} {B : β → β → Prop}
    {x x' : Toured α} {g : α → Toured β} (h : Related R A x x') (weaken : ∀ u u', R u u' → R' u u')
    (next : ∀ a a', A a a' → Related R' B (g a) (g a')) : Related R' B (x >>= g) (x' >>= g) := by
  cases h with
  | ended f related => exact .ended f (weaken _ _ related)
  | went related => exact next _ _ related

namespace Tour

variable {t t' : Tour}

/-- Two selections, and the tours behind them. -/
def Chosen (S : Selection → Selection → Prop) (R : Tour → Tour → Prop) (c c' : Selection × Tour) : Prop :=
  S c.1 c'.1 ∧ R c.2 c'.2

/-- To agree is more than to be alike. -/
theorem Agrees.alike (h : t.Agrees t') : t.Alike t' := by
  obtain ⟨g, rfl⟩ := h.same
  exact ⟨h.willing, ⟨g, rfl⟩, rfl, List.forall₂_same.mpr fun e _ => .refl e⟩

/-- Tours that agree still do when they have been opened. -/
theorem Agrees.opened (h : t.Agrees t') : t.opened.Agrees t'.opened := by
  obtain ⟨g, rfl⟩ := h.same
  exact ⟨h.willing, g, rfl⟩

/-- What every visit keeps of two tours, the loop keeps up to the choice. -/
theorem collect_related {R : Tour → Tour → Prop} (h : t.Agrees t') (fresh : t.iface.surveyed = 0) (start : R t t')
    (opens : R t.opened t'.opened)
    (step : t.iface.offChannelCapable = true → ∀ s ∈ Sweep.route t.iface, ∀ u u', R u u' →
      ∃ v v', u.visit s = .ok v ∧ u'.visit s = .ok v' ∧ R v v') :
    Toured.Related R R t.collect t'.collect := by
  have hwilling := h.willing
  obtain ⟨g, rfl⟩ := h.same
  cases able : t.iface.offChannelCapable with
  | false =>
    rw [collect_incapable fresh able, collect_incapable (t := { t with radio := t.radio.seeded g }) fresh able]
    exact .ended _ start
  | true =>
    rw [collect_able hwilling fresh able,
      collect_able (t := { t with radio := t.radio.seeded g }) (hwilling.seeded g) fresh able]
    by_cases hstops : t.iface.stops = []
    · rw [if_pos hstops, if_pos hstops]
      exact .ended _ opens
    · obtain ⟨u, u', hvisits, hvisits', hrelated⟩ := foldlM_related (step able) opens
      rw [if_neg hstops, if_neg hstops, hvisits, hvisits']
      exact .went hrelated

/-- The rounds of two tours that agree end alike. -/
theorem collect_alike (h : t.Agrees t') (fresh : t.iface.surveyed = 0) :
    Toured.Related Alike Alike t.collect t'.collect :=
  collect_related h fresh h.alike h.opened.alike fun _ s _ _ _ halike => visit_alike halike s

section

variable [BinaryLog]

/-- **Whether there is a choice** is not drawn. -/
theorem choose_alike (h : t.Alike t') : Toured.Related Alike (Chosen (fun _ _ => True) Alike) t.choose t'.choose := by
  have houtline : t.iface.visited.outline = t'.iface.visited.outline := by
    rw [Interface.outline_visited, h.outline, Interface.outline_visited]
  have hsurveyed : t.iface.surveyed = t'.iface.surveyed := congrArg (·.surveyed) h.outline
  unfold choose
  by_cases hnone : t.iface.surveyed = 0
  · rw [if_pos hnone, if_pos (hsurveyed ▸ hnone)]
    exact .ended _ h
  · rw [if_neg hnone, if_neg (hsurveyed ▸ hnone)]
    have hiff : t.iface.visited.chosen? = none ↔ t'.iface.visited.chosen? = none := by
      rw [Interface.chosen?_eq_none, Interface.chosen?_eq_none, ← Interface.barren_outline, houtline,
        Interface.barren_outline]
    cases hchosen : t.iface.visited.chosen? with
    | none =>
      rw [hiff.mp hchosen]
      exact .ended _ h
    | some s =>
      cases hchosen' : t'.iface.visited.chosen? with
      | none =>
        rw [hiff.mpr hchosen'] at hchosen
        cases hchosen
      | some s' =>
        refine .went ⟨trivial, h.willing, h.radio, ?_, h.calls⟩
        show t.iface.visited.select.iface.outline = t'.iface.visited.select.iface.outline
        rw [Interface.outline_select, houtline, Interface.outline_select]

/-- Tours that agree select the same channel. -/
theorem choose_agrees (h : t.Agrees t') : Toured.Related Agrees (Chosen Eq Agrees) t.choose t'.choose := by
  obtain ⟨g, rfl⟩ := h.same
  unfold choose
  dsimp only
  split
  · exact .ended _ h
  · cases t.iface.visited.chosen? with
    | none => exact .ended _ h
    | some s => exact .went ⟨rfl, h.willing, g, rfl⟩

/-- Up to the selection, tours that agree run alike whatever they draw; the selections may differ. -/
theorem loop_alike (h : t.Agrees t') (fresh : t.iface.surveyed = 0) :
    Toured.Related Alike (Chosen (fun _ _ => True) Alike) t.loop t'.loop := by
  rw [loop_eq, loop_eq]
  exact (collect_alike h fresh).bind (fun _ _ => id) fun _ _ => choose_alike

/-- Without deviations along the route the loop leaves nothing to a generator. -/
theorem loop_agrees (h : t.Agrees t') (fresh : t.iface.surveyed = 0)
    (still : t.iface.offChannelCapable = true → ∀ s ∈ Sweep.route t.iface, (t.radio.profileAt s.freq).Still) :
    Toured.Related Agrees (Chosen Eq Agrees) t.loop t'.loop := by
  let R (u u' : Tour) : Prop := u.Agrees u' ∧ u.radio.profileAt = t.radio.profileAt
  have hstep (able : t.iface.offChannelCapable = true) (s : Stop) (hs : s ∈ Sweep.route t.iface) (u u' : Tour)
      (hR : R u u') : ∃ v v', u.visit s = .ok v ∧ u'.visit s = .ok v' ∧ R v v' := by
    obtain ⟨hagrees, hprofiles⟩ := hR
    obtain ⟨v, v', hvisit, hvisit', hagrees', hkept⟩ := visit_agrees hagrees (hprofiles ▸ still able s hs)
    exact ⟨v, v', hvisit, hvisit', hagrees', hkept.trans hprofiles⟩
  rw [loop_eq, loop_eq]
  exact (collect_related (R := R) h fresh ⟨h, rfl⟩ ⟨h.opened, rfl⟩ hstep).bind (fun _ _ => And.left) fun _ _ hR =>
    choose_agrees hR.1

end

end Tour

/-! ## The end of a sweep -/

section

variable {η : Type} [Host η] {t t' : Tour} {host : η}

/-- **Two ends alike**: of the same kind, reached on the same way and with the same kinds of calls. -/
structure Run.Alike (run run' : Run SimulatedRadio η) : Prop where
  visits : run'.station.radio.visits = run.station.radio.visits
  outcome : Outcome.SameKind run.station.outcome run'.station.outcome
  calls : List.Forall₂ Entry.SameKind run.journal run'.journal

/-- **Two ends in agreement**: they differ in the generator at most. -/
structure Run.Agrees (run run' : Run SimulatedRadio η) : Prop where
  station : ∃ g, run'.station = { run.station with radio := run.station.radio.seeded g }
  calls : run'.journal = run.journal

namespace Tour

/-- Tours that are alike fail alike for reasons of one kind. -/
theorem abandon_alike (h : t.Alike t') {f f' : Failure} (same : f.kind = f'.kind) (host host' : η) :
    (t.abandon host f).Alike (t'.abandon host' f') := by
  have hclear : t.iface.clear.census = t'.iface.clear.census := by
    simp only [Interface.census, Interface.clear, (Interface.sameLayout_of_outline h.outline).channels]
  exact ⟨h.visits, .failed same, List.rel_append h.calls (.cons (.notified hclear same) .nil)⟩

/-- One verdict of the hosts ends tours that are alike in outcomes of one kind, whatever they selected. -/
theorem handOver_alike (h : t.Alike t') {v : Verdict} (verdict : ∀ i, (Host.judge host i).1 = v) (s s' : Selection) :
    (t.handOver host s).Alike (t'.handOver host s') := by
  have hjudged := List.rel_append h.calls (.cons (Entry.SameKind.judged (Interface.census_congr h.outline) v) .nil)
  unfold handOver
  dsimp only
  rw [verdict, verdict]
  cases v.rejection? with
  | none => exact ⟨h.visits, .selected s s', hjudged⟩
  | some why =>
    let u : Tour := { t with calls := t.calls ++ [.judged t.iface v] }
    let u' : Tour := { t' with calls := t'.calls ++ [.judged t'.iface v] }
    have hhanded : u.Alike u' := ⟨h.willing, h.radio, h.outline, hjudged⟩
    have hkind : (Failure.rejected s.number why).kind = (Failure.rejected s'.number why).kind := rfl
    exact abandon_alike hhanded hkind _ _

/-- Tours that agree fail for the same reason as the same tour. -/
theorem abandon_agrees (h : t.Agrees t') (host : η) (f : Failure) : (t.abandon host f).Agrees (t'.abandon host f) := by
  obtain ⟨g, rfl⟩ := h.same
  exact ⟨⟨g, rfl⟩, rfl⟩

/-- The same selection handed to the same host ends them as the same tour. -/
theorem handOver_agrees (h : t.Agrees t') (host : η) (s : Selection) :
    (t.handOver host s).Agrees (t'.handOver host s) := by
  obtain ⟨g, rfl⟩ := h.same
  unfold handOver
  dsimp only
  cases (Host.judge host t.iface).1.rejection? with
  | none => exact ⟨⟨g, rfl⟩, rfl⟩
  | some why => exact ⟨⟨g, rfl⟩, rfl⟩

end Tour

/-- Ends that are alike stay alike in front of hosts of one verdict. -/
theorem Toured.ending_alike {x x' : Toured (Selection × Tour)}
    (h : Related Tour.Alike (Tour.Chosen (fun _ _ => True) Tour.Alike) x x') {v : Verdict}
    (verdict : ∀ i, (Host.judge host i).1 = v) : (ending x host).Alike (ending x' host) := by
  cases h with
  | ended f related => exact Tour.abandon_alike related rfl host host
  | went related => exact Tour.handOver_alike related.2 verdict _ _

/-- Ends that agree stay so in front of one host. -/
theorem Toured.ending_agrees {x x' : Toured (Selection × Tour)}
    (h : Related Tour.Agrees (Tour.Chosen Eq Tour.Agrees) x x') (host : η) :
    (ending x host).Agrees (ending x' host) := by
  cases h with
  | ended f related => exact Tour.abandon_agrees related host f
  | @went c c' related =>
    obtain ⟨s, t⟩ := c
    obtain ⟨s', t'⟩ := c'
    obtain ⟨hselection, hagrees⟩ := related
    obtain rfl : s = s' := hselection
    exact Tour.handOver_agrees hagrees host s

end

/-! ## Two seeds -/

namespace Scenario

variable {s : Scenario}

/-- An accepted scenario starts tours that agree, whatever the seeds. -/
theorem tour_agrees (accepted : s.check = .ok ()) (settings : Settings) (seed seed' : UInt64) :
    (s.tour settings seed).Agrees (s.tour settings seed') := by
  refine ⟨radio_willing accepted seed, .ofSeed seed', ?_⟩
  simp only [tour, radio_eq, SimulatedRadio.new, SimulatedRadio.seeded]

/-- The channels as they are when the choice is made; none if it does not come to one. -/
def surveyedCensus (s : Scenario) (settings : Settings) (seed : UInt64) : Option (List (UInt8 × UInt32 × Nat)) :=
  (s.tour settings seed).collect.toOption.map (·.iface.census)

/-- Which channels have how many samples, and which of them are degenerate, is settled by the scenario and not by the
seed. -/
theorem surveyedCensus_eq (accepted : s.check = .ok ()) (settings : Settings) (seed seed' : UInt64) :
    s.surveyedCensus settings seed = s.surveyedCensus settings seed' := by
  have hcollect := Tour.collect_alike (tour_agrees accepted settings seed seed') rfl
  unfold surveyedCensus
  generalize (s.tour settings seed).collect = x at hcollect ⊢
  generalize (s.tour settings seed').collect = x' at hcollect ⊢
  cases hcollect with
  | ended f related => rfl
  | went related => exact congrArg some (Interface.census_congr related.outline)

section

variable {η : Type} [Host η] [BinaryLog]

/-- The host sees these channels when a selection is handed over. -/
theorem surveyedCensus_of_selected (settings : Settings) (seed : UInt64) (host : η) {c : Selection}
    (selected : (Rehearsal.sequential (s.rehearsal settings seed host)).station.outcome = .selected c) :
    ∃ i v, .judged i v ∈ (Rehearsal.sequential (s.rehearsal settings seed host)).journal ∧
      s.surveyedCensus settings seed = some i.census := by
  rw [sequential_rehearsal, Tour.loop_eq] at selected ⊢
  unfold surveyedCensus
  cases hcollect : (s.tour settings seed).collect with
  | error e =>
    rw [hcollect] at selected
    cases selected
  | ok u =>
    rw [hcollect] at selected
    change (Toured.ending u.choose host).station.outcome = .selected c at selected
    show ∃ i v, .judged i v ∈ (Toured.ending u.choose host).journal ∧ some u.iface.census = some i.census
    have hchooses := u.chooses_choose
    generalize u.choose = x at hchooses selected ⊢
    cases hchooses with
    | unsurveyed | undecided => cases selected
    | @chosen d _ =>
      have hcensus : u.iface.census = (u.chose d).iface.census :=
        (Interface.census_congr u.iface.visited.outline_select).symm
      refine ⟨(u.chose d).iface, (Host.judge host (u.chose d).iface).1, ?_, congrArg some hcensus⟩
      show _ ∈ ((u.chose d).handOver host d).journal
      unfold Tour.handOver
      dsimp only
      split <;> simp [Tour.abandon]

/-- Every channel on the route is visited. -/
theorem visited_of_mem_route (accepted : s.check = .ok ()) (settings : Settings) (seed : UInt64) (host : η)
    (able : s.offChannelCapable = true) {stop : Stop} (onRoute : stop ∈ Sweep.route (s.interface settings)) :
    stop.freq ∈ (Rehearsal.sequential (s.rehearsal settings seed host)).station.radio.visits := by
  have hcomes := Tour.comes_loop (t := s.tour settings seed) (radio_willing accepted seed) rfl
  rw [sequential_rehearsal]
  generalize (s.tour settings seed).loop = x at hcomes ⊢
  cases hcomes with
  | incapable bad =>
    have hbad : s.offChannelCapable = false := bad
    rw [able] at hbad
    cases hbad
  | bare _ none =>
    have hstops : stop ∈ (s.interface settings).stops := Sweep.mem_route.mp onRoute
    rw [show (s.interface settings).stops = [] from none] at hstops
    cases hstops
  | @surveyed u _ some all =>
    rw [u.radio_ending_choose, ← Array.mem_toList_iff, all.visits]
    exact List.mem_append_right _ (List.mem_map_of_mem onRoute)

/-- **What a seed decides**: neither the way nor the kind of the end, and nothing at all where no visited profile has
deviations. The host gives the same verdict either way. -/
theorem seeds_alike (s : Scenario) (accepted : s.check = .ok ()) (settings : Settings) (seed seed' : UInt64) (host : η)
    (v : Verdict) (verdict : ∀ i, (Host.judge host i).1 = v) :
    ∃ run run', Rehearsal.runSweep (s.rehearsal settings seed host) = .ok run ∧
      Rehearsal.runSweep (s.rehearsal settings seed' host) = .ok run' ∧
      run.station.radio.visits = run'.station.radio.visits ∧
      s.surveyedCensus settings seed = s.surveyedCensus settings seed' ∧
      (∀ c, run.station.outcome = .selected c →
        ∃ i v, .judged i v ∈ run.journal.calls ∧ s.surveyedCensus settings seed = some i.census) ∧
      Outcome.SameKind run.station.outcome run'.station.outcome ∧
      List.Forall₂ Entry.SameKind run.journal.calls run'.journal.calls ∧
      ((∀ freq ∈ run.station.radio.visits, ((s.radio seed).profileAt freq).Still) →
        (∃ g, run'.station = { run.station with radio := run.station.radio.seeded g }) ∧
          run'.journal.calls = run.journal.calls) := by
  obtain ⟨run, hrun, hyields⟩ := exists_rehearsed settings seed host accepted
  obtain ⟨run', hrun', hyields'⟩ := exists_rehearsed settings seed' host accepted
  have halike := Toured.ending_alike (Tour.loop_alike (tour_agrees accepted settings seed seed') rfl) verdict
  rw [← sequential_rehearsal, ← sequential_rehearsal] at halike
  have hcensus := surveyedCensus_eq accepted settings seed seed'
  refine ⟨run, run', hrun, hrun', ?_, hcensus, fun c selected => ?_, ?_, ?_, fun still => ?_⟩
  · rw [hyields.station, hyields'.station, halike.visits]
  · rw [hyields.station] at selected
    rw [hyields.calls]
    exact surveyedCensus_of_selected settings seed host selected
  · rw [hyields.station, hyields'.station]
    exact halike.outcome
  · rw [hyields.calls, hyields'.calls]
    exact halike.calls
  · have hagrees := Toured.ending_agrees
      (Tour.loop_agrees (tour_agrees accepted settings seed seed') rfl fun able stop onRoute =>
        still stop.freq (hyields.station ▸ visited_of_mem_route accepted settings seed host able onRoute)) host
    rw [← sequential_rehearsal, ← sequential_rehearsal] at hagrees
    rw [hyields.station, hyields'.station, hyields.calls, hyields'.calls]
    exact ⟨hagrees.station, hagrees.calls⟩

end

/-- Three silent channels without deviations, surveyed twice: any two seeds come to the same. -/
theorem seeds_alike_silent :
    let s : Scenario :=
      { band := .ghz24, disabled := [2, 3, 4, 5, 7, 8, 9, 10, 12, 13]
        defaultProfile := { busy := 0.0, busyJitter := 0.0, noiseJitter := 0 } }
    let settings : Settings := { rounds := 2, dwell := 5 }
    let host : ScriptedHost := {}
    s.check = .ok () ∧ (∀ i, (Host.judge host i).1 = .valid) ∧
    ∃ run run', Rehearsal.runSweep (s.rehearsal settings 1 host) = .ok run ∧
      Rehearsal.runSweep (s.rehearsal settings 2 host) = .ok run' ∧
      run.station.radio.visits = #[2412, 2437, 2462, 2412, 2437, 2462] ∧
      (∀ freq ∈ run.station.radio.visits, ((s.radio 1).profileAt freq).Still) ∧
      run.station.outcome = .selected { number := 1, freq := 2412, score := -64.0 } ∧
      run'.station.outcome = run.station.outcome ∧ run'.journal.calls = run.journal.calls := by
  intro s settings host
  have hcheck : s.check = .ok () := by decide +kernel
  have hverdict (i : Interface) : (Host.judge host i).1 = .valid := rfl
  have hdefault : s.defaultProfile.Still := ⟨rfl, by decide +kernel⟩
  have hstill (freq : UInt32) : ((s.radio 1).profileAt freq).Still := hdefault
  obtain ⟨run, run', hrun, hrun', -, -, -, -, -, hsame⟩ := s.seeds_alike hcheck settings 1 2 host .valid hverdict
  obtain ⟨⟨g, hstation⟩, hcalls⟩ := hsame fun freq _ => hstill freq
  have hvisits : (Rehearsal.runSweep (s.rehearsal settings 1 host)).toOption.map (·.station.radio.visits) =
      some #[2412, 2437, 2462, 2412, 2437, 2462] := by
    decide +kernel
  have houtcome : (Rehearsal.runSweep (s.rehearsal settings 1 host)).toOption.map (·.station.outcome) =
      some (.selected { number := 1, freq := 2412, score := -64.0 }) := by
    decide +kernel
  rw [hrun] at hvisits houtcome
  refine ⟨hcheck, hverdict, run, run', hrun, hrun', Option.some.inj hvisits, fun freq _ => hstill freq,
    Option.some.inj houtcome, ?_, hcalls⟩
  rw [hstation]
  rfl

end Scenario

end ChannelSurvey

import ChannelSurvey.Proofs.Band.Planned
import ChannelSurvey.Proofs.Rehearsal.Willing
import ChannelSurvey.Proofs.Selection.Scoring

/-!
# What a rehearsal has surveyed

The channels of a rehearsal when it comes to a selection, before they are cleared.

**The law** (`surveys_of_chosen`): they are the channels of the scenario's plan. Every enabled one counts a sample for
each round and no disabled one counts any, and the one selected is the first of the least scores. It is the only
one of its number, since a plan has every number once (`nodup_numbers`).
-/

namespace ChannelSurvey

namespace Interface

variable [BinaryLog] {i : Interface}

/-- Where no channel had a score, only usable channels are given one. -/
theorem isUsable_of_score (unscored : i.Unscored) {c : Channel} (hc : c ∈ i.select.iface.channels) {score : Float}
    (scored : c.score = some score) : c.isUsable = true := by
  cases hbaseline : i.baseline with
  | none =>
    rw [select_without_baseline hbaseline] at hc
    rw [unscored c hc] at scored
    cases scored
  | some baseline =>
    rw [select_of_baseline hbaseline] at hc
    obtain ⟨d, hd, rfl⟩ := List.mem_map.mp hc
    by_cases usable : d.isUsable = true
    · rw [if_pos usable, Channel.isUsable_assess, usable]
    · rw [if_neg usable, unscored d hd] at scored
      cases scored

theorem rated_iff (unscored : i.Unscored) {k : Nat} {score : Float} :
    i.select.iface.Rated k score ↔ ∃ c, i.select.iface.channels[k]? = some c ∧ c.score = some score := by
  constructor
  · rintro ⟨c, hc, -, hscore⟩
    exact ⟨c, hc, hscore⟩
  · rintro ⟨c, hc, hscore⟩
    exact ⟨c, hc, isUsable_of_score unscored (List.mem_of_getElem? hc) hscore, hscore⟩

end Interface

/-- Settings that ask for rounds get as many. -/
theorem Settings.target_of_rounds {settings : Settings} (rounds : settings.rounds ≠ 0) :
    settings.target = settings.rounds := by
  show (if settings.rounds ≤ 1 then 1 else settings.rounds) = settings.rounds
  split
  · rename_i few
    have hpos : settings.rounds.toNat ≠ 0 := fun hzero => rounds (UInt32.toNat_inj.mp hzero)
    have hfew : settings.rounds.toNat ≤ 1 := UInt32.le_iff_toNat_le.mp few
    refine UInt32.toNat_inj.mp ?_
    show 1 = settings.rounds.toNat
    omega
  · rfl

namespace Scenario

variable {s : Scenario} {settings : Settings}

/-! ## The channels of a scenario -/

theorem clear_channels (s : Scenario) : s.channels.map (·.clear) = s.channels := by
  have hplan : ∀ c ∈ s.band.plan, c.clear = c := by
    cases s.band <;> decide
  rw [channels, disableListed, List.map_map]
  refine List.map_congr_left fun c hc => ?_
  have hclear := hplan c hc
  simp only [Function.comp_apply]
  split
  · exact congrArg (fun c : Channel => { c with disabled := true }) hclear
  · exact hclear

/-- A plan has every number once. -/
theorem nodup_numbers (s : Scenario) : (s.channels.map (·.number)).Nodup := by
  rw [numbers_channels]
  cases s.band <;> decide

/-! ## The channels at a selection -/

/-- **The channels at a selection.** -/
structure Surveys (s : Scenario) (settings : Settings) (selection : Selection) (rows : List Channel) : Prop where
  /-- They are those of the plan, in its order. -/
  plan : rows.map (·.clear) = s.channels
  counts : ∀ c ∈ rows, c.count = if c.disabled then 0 else settings.rounds
  /-- The selected one is enabled, the only one of its number, and the first of the least scores. -/
  chosen : ∃ k c, rows[k]? = some c ∧ c.disabled = false ∧ c.number = selection.number ∧ c.freq = selection.freq ∧
    c.score = some selection.score ∧
    (∀ j d, rows[j]? = some d → (d.number = selection.number ↔ j = k)) ∧
    ((∀ c ∈ rows, ∀ score, c.score = some score → score.isNaN = false) →
      FirstLeast (fun j score => ∃ d, rows[j]? = some d ∧ d.score = some score) k selection.score)

theorem numbers_of_plan {rows : List Channel} (plan : rows.map (·.clear) = s.channels) :
    rows.map (·.number) = s.channels.map (·.number) := by
  rw [← plan, List.map_map]
  rfl

/-- What has a number in a plan has one place. -/
theorem place_unique {rows : List Channel} (plan : rows.map (·.clear) = s.channels) {j k : Nat} {c d : Channel}
    (hd : rows[j]? = some d) (hc : rows[k]? = some c) (same : d.number = c.number) : j = k := by
  have hnodup := s.nodup_numbers
  rw [← numbers_of_plan plan] at hnodup
  have hj : (rows.map (·.number))[j]? = some d.number := by rw [List.getElem?_map, hd, Option.map_some]
  have hk : (rows.map (·.number))[k]? = some c.number := by rw [List.getElem?_map, hc, Option.map_some]
  obtain ⟨hlt, -⟩ := List.getElem?_eq_some_iff.mp hj
  exact (List.getElem?_inj hlt hnodup).mp (hj.trans (same ▸ hk.symm))

variable [BinaryLog]

/-- **With the route behind it a rehearsal has surveyed the plan.** -/
theorem surveys_of_chosen {seed : UInt64} {u : Tour} {selection : Selection} (rounds : settings.rounds ≠ 0)
    (all : (s.tour settings seed).opened.Surveyed (Sweep.route (s.interface settings)) u)
    (chosen : u.iface.visited.chosen? = some selection) :
    s.Surveys settings selection u.iface.visited.select.iface.channels := by
  have hunscored : u.iface.visited.Unscored := all.unscored
  have hplan : u.iface.visited.select.iface.channels.map (·.clear) = s.channels := by
    have hselect := (Interface.sameLayout_select u.iface.visited).channels
    have hlayout : u.iface.channels.map (·.clear) = (s.channels.map (·.clear)).map (·.clear) := all.layout.channels
    rw [hselect]
    show u.iface.channels.map (·.clear) = _
    rw [hlayout, clear_channels, clear_channels]
  refine ⟨hplan, ?_, ?_⟩
  · intro c hc
    obtain ⟨k, hk⟩ := List.mem_iff_getElem?.mp hc
    obtain ⟨held, stored, hholds, hlength⟩ := all.held
    have hvisited : u.iface.visited.Holds held stored := hholds.congr rfl rfl rfl
    have hcount := ((Interface.holds_select hvisited).channel k c hk).count
    have hplanned : (s.interface settings).channels[k]? = some c.clear := by
      show s.channels[k]? = _
      rw [← hplan, List.getElem?_map, hk, Option.map_some]
    rw [hcount, hlength, Sweep.countP_route hplanned]
    show UInt32.ofNat (if c.disabled then 0 else settings.target.toNat) = _
    rw [Settings.target_of_rounds rounds]
    cases c.disabled with
    | false => exact UInt32.ofNat_toNat
    | true => rfl
  · obtain ⟨k, hideal, hselection⟩ := Option.bind_eq_some_iff.mp chosen
    obtain ⟨c, hc, hnumber, hfreq, hscore⟩ := Interface.selection?_eq_some.mp hselection
    have husable := Interface.isUsable_of_score hunscored (List.mem_of_getElem? hc) hscore
    have henabled := (Channel.isUsable_iff.mp husable).2.2
    refine ⟨k, c, hc, henabled, hnumber, hfreq, hscore, fun j d hd => ?_, fun numbers => ?_⟩
    · constructor
      · intro same
        exact place_unique hplan hd hc (same.trans hnumber.symm)
      · rintro rfl
        rw [hc] at hd
        rw [← Option.some.inj hd, hnumber]
    · have hrated : u.iface.visited.select.iface.Rated = fun j score =>
          ∃ d, u.iface.visited.select.iface.channels[j]? = some d ∧ d.score = some score := by
        funext j score
        exact propext (Interface.rated_iff hunscored)
      have hnumbers (j : Nat) (score : Float) (rated : u.iface.visited.select.iface.Rated j score) :
          score.isNaN = false := by
        obtain ⟨d, hd, -, hscored⟩ := rated
        exact numbers d (List.mem_of_getElem? hd) score hscored
      obtain ⟨score, hleast⟩ := Interface.firstLeast_of_ideal hnumbers hideal
      obtain ⟨d, hd, -, hscored⟩ := hleast.attained
      have hsame : d = c := Option.some.inj (hd.symm.trans hc)
      have hvalue : score = selection.score := by
        rw [hsame, hscore] at hscored
        exact (Option.some.inj hscored).symm
      rw [← hrated, ← hvalue]
      exact hleast

end Scenario

end ChannelSurvey

import ChannelSurvey.Proofs.Score.Order
import ChannelSurvey.Proofs.Selection.Candidate
import Mathlib.Data.List.Basic
import Mathlib.Data.List.Induction

/-!
# Which channel is the ideal one

Of positions with scores, `FirstLeast` singles out the first one of the lowest score: no score is lower, and
every score before it is higher.

**The laws**: among candidates in ascending order whose scores are numbers, `ideal?` finds the first of the
least (`firstLeast_foldl_better`), and it finds none only where there is no candidate (`ideal?_eq_none`).
The ideal channel has its score when the selection is read off it (`selection?_of_ideal`). So a selection is
that of the first of the least (`firstLeast_of_selected`), and is missing only without candidates
(`unselected_iff`).
-/

namespace ChannelSurvey

/-- **The first of the least**: the score at `index` is the lowest one, and every score before it is
higher. -/
structure FirstLeast (scored : Nat → Float → Prop) (index : Nat) (score : Float) : Prop where
  attained : scored index score
  least : ∀ k other, scored k other → score ≤ other
  first : ∀ k other, scored k other → k < index → score < other

/-! ## Among candidates -/

theorem better_some (best next : Nat × Float) :
    better (some best) next = if best.2 ≤ next.2 then some best else some next := rfl

/-- The place is held as soon as there is a candidate. -/
theorem better_ne_none (held : Option (Nat × Float)) (next : Nat × Float) : better held next ≠ none := by
  unfold better
  split
  · exact Option.some_ne_none _
  · split <;> exact Option.some_ne_none _

theorem ideal?_eq_none {candidates : List (Nat × Float)} : ideal? candidates = none ↔ candidates = [] := by
  refine ⟨fun h => ?_, fun h => by rw [h]; rfl⟩
  cases candidates using List.reverseRecOn with
  | nil => rfl
  | append_singleton before next =>
    rw [ideal?, List.foldl_append, Option.map_eq_none_iff] at h
    exact absurd h (better_ne_none _ _)

/-- **Holding the place of the best** leaves the first of the least. A further candidate stands behind all
others, so it takes the place exactly when it is lower than all of them. -/
theorem firstLeast_foldl_better {candidates : List (Nat × Float)} {index : Nat} {score : Float}
    (ascending : candidates.Pairwise (·.1 < ·.1)) (numbers : ∀ c ∈ candidates, c.2.isNaN = false)
    (h : candidates.foldl better none = some (index, score)) :
    FirstLeast (fun k other => (k, other) ∈ candidates) index score := by
  induction candidates using List.reverseRecOn generalizing index score with
  | nil => cases h
  | append_singleton before next ih =>
    obtain ⟨hbefore, _, hbehind⟩ := List.pairwise_append.mp ascending
    have hnumbers : ∀ c ∈ before, c.2.isNaN = false := fun c hc => numbers c (List.mem_append_left _ hc)
    have hnext : next.2.isNaN = false := numbers next (List.mem_append_right _ List.mem_cons_self)
    rw [List.foldl_append, List.foldl_cons, List.foldl_nil] at h
    cases hheld : before.foldl better none with
    | none =>
      obtain rfl : before = [] := ideal?_eq_none.mp (Option.map_eq_none_iff.mpr hheld)
      rw [hheld] at h
      obtain rfl : next = (index, score) := Option.some.inj h
      refine ⟨List.mem_cons_self, fun k other hmem => ?_, fun k other hmem hlt => ?_⟩
      · obtain ⟨rfl, rfl⟩ := Prod.mk.inj (List.mem_singleton.mp hmem)
        exact number_le_refl hnext
      · obtain ⟨rfl, rfl⟩ := Prod.mk.inj (List.mem_singleton.mp hmem)
        exact absurd hlt (Nat.lt_irrefl k)
    | some best =>
      obtain ⟨place, lowest⟩ := best
      have hleast := ih hbefore hnumbers hheld
      have hlowest : lowest.isNaN = false := hnumbers (place, lowest) hleast.attained
      rw [hheld, better_some] at h
      split at h
      · rename_i kept
        obtain ⟨rfl, rfl⟩ := Prod.mk.inj (Option.some.inj h)
        refine ⟨List.mem_append_left _ hleast.attained, fun k other hmem => ?_, fun k other hmem hlt => ?_⟩
        · rcases List.mem_append.mp hmem with hold | hnew
          · exact hleast.least k other hold
          · obtain rfl := List.mem_singleton.mp hnew
            exact kept
        · rcases List.mem_append.mp hmem with hold | hnew
          · exact hleast.first k other hold hlt
          · obtain rfl := List.mem_singleton.mp hnew
            exact absurd (hbehind _ hleast.attained _ List.mem_cons_self) (Nat.lt_asymm hlt)
      · rename_i lower
        obtain rfl : next = (index, score) := Option.some.inj h
        have hlower : score < lowest := number_lt_of_not_le hlowest hnext lower
        have hbelow : ∀ k other, (k, other) ∈ before → score < other := fun k other hold =>
          number_lt_of_lt_of_le hnext hlowest (hnumbers (k, other) hold) hlower (hleast.least k other hold)
        refine ⟨List.mem_append_right _ List.mem_cons_self, fun k other hmem => ?_, fun k other hmem hlt => ?_⟩
        · rcases List.mem_append.mp hmem with hold | hnew
          · exact number_le_of_lt hnext (hnumbers (k, other) hold) (hbelow k other hold)
          · obtain ⟨rfl, rfl⟩ := Prod.mk.inj (List.mem_singleton.mp hnew)
            exact number_le_refl hnext
        · rcases List.mem_append.mp hmem with hold | hnew
          · exact hbelow k other hold
          · obtain ⟨rfl, rfl⟩ := Prod.mk.inj (List.mem_singleton.mp hnew)
            exact absurd hlt (Nat.lt_irrefl k)

/-! ## Among the channels of an interface -/

section

variable [BinaryLog]

/-- Scoring gives a usable channel the score it arrives at. -/
theorem Channel.score_assess {c : Channel} {baseline : Int8} {score : Float}
    (h : c.assessment baseline = some score) : (c.assess baseline).score = some score := by
  unfold assessment at h
  unfold assess
  split at h
  · cases h
  · rename_i stocked
    rw [if_neg stocked]
    exact h

theorem Channel.identity_assess (c : Channel) (baseline : Int8) :
    (c.assess baseline).number = c.number ∧ (c.assess baseline).freq = c.freq := by
  unfold assess
  split <;> exact ⟨rfl, rfl⟩

namespace Interface

/-- A candidate carries the number of its place. -/
theorem index_of_candidate {baseline : Int8} {entry : Channel × Nat} {candidate : Nat × Float}
    (h : (if entry.1.isUsable then (entry.1.assessment baseline).map (entry.2, ·) else none) = some candidate) :
    candidate.1 = entry.2 := by
  split at h
  · obtain ⟨_, _, rfl⟩ := Option.map_eq_some_iff.mp h
    rfl
  · cases h

/-- Candidates come in the order of the channels. -/
theorem pairwise_candidates (i : Interface) (baseline : Int8) : (i.candidates baseline).Pairwise (·.1 < ·.1) := by
  have hnumbered : (i.channels.zipIdx.map (·.2)).Pairwise (· < ·) := by
    rw [List.zipIdx_map_snd]
    exact List.pairwise_lt_range' 1
  refine List.Pairwise.filterMap _ ?_ (List.pairwise_map.mp hnumbered)
  intro c d hlt e he f hf
  rw [index_of_candidate he, index_of_candidate hf]
  exact hlt

/-- The selection that is read off a candidate has its score. -/
theorem selection?_assessed {i : Interface} {baseline : Int8} {index : Nat} {score : Float}
    (h : (index, score) ∈ i.candidates baseline) :
    ∃ c, i.channels[index]? = some c ∧
      (i.assessed baseline).selection? index = some { number := c.number, freq := c.freq, score } := by
  obtain ⟨c, hc, husable, hassessment⟩ := mem_candidates.mp h
  obtain ⟨hnumber, hfreq⟩ := Channel.identity_assess c baseline
  have hassessed := getElem?_assessed hc husable baseline
  exact ⟨c, hc, selection?_eq_some.mpr ⟨_, hassessed, hnumber, hfreq, Channel.score_assess hassessment⟩⟩

/-- With a noise floor on record, selecting picks the ideal candidate, and what is read off it is a
selection. -/
theorem selection?_of_ideal {i : Interface} {index : Nat} (h : i.select.ideal = some index) :
    ∃ s, i.select.iface.selection? index = some s := by
  cases hbaseline : i.baseline with
  | none =>
    simp only [select, hbaseline] at h
    cases h
  | some baseline =>
    simp only [select, hbaseline] at h ⊢
    obtain ⟨score, hmem⟩ := mem_of_ideal? h
    obtain ⟨c, _, hselection⟩ := selection?_assessed hmem
    exact ⟨_, hselection⟩

/-- **A selection is missing** only where no channel can be scored. -/
theorem unselected_iff {i : Interface} {baseline : Int8} (known : i.baseline = some baseline) :
    i.select.ideal.bind i.select.iface.selection? = none ↔ i.candidates baseline = [] := by
  have hideal : i.select.ideal = ideal? (i.candidates baseline) := by simp only [select, known]
  rw [← ideal?_eq_none, ← hideal]
  refine ⟨fun h => ?_, fun h => by rw [h]; rfl⟩
  cases hpicked : i.select.ideal with
  | none => rfl
  | some index =>
    obtain ⟨s, hselection⟩ := selection?_of_ideal hpicked
    rw [hpicked, Option.bind_some, hselection] at h
    cases h

/-- **A selection** is that of the first channel of the least score. -/
theorem firstLeast_of_selected {i : Interface} {baseline : Int8} {s : Selection}
    (known : i.baseline = some baseline) (numbers : ∀ c ∈ i.candidates baseline, c.2.isNaN = false)
    (h : i.select.ideal.bind i.select.iface.selection? = some s) :
    ∃ index c, i.channels[index]? = some c ∧ c.number = s.number ∧ c.freq = s.freq ∧
      i.select.iface.selection? index = some s ∧
      FirstLeast (fun k score => (k, score) ∈ i.candidates baseline) index s.score := by
  simp only [select, known] at h ⊢
  obtain ⟨index, hideal, hselection⟩ := Option.bind_eq_some_iff.mp h
  obtain ⟨⟨place, score⟩, hfold, rfl⟩ := Option.map_eq_some_iff.mp hideal
  have hleast := firstLeast_foldl_better (i.pairwise_candidates baseline) numbers hfold
  obtain ⟨c, hc, hread⟩ := selection?_assessed hleast.attained
  obtain rfl : _ = s := Option.some.inj (hread.symm.trans hselection)
  exact ⟨place, c, hc, rfl, rfl, hread, hleast⟩

end Interface

/-! ## Scoring again -/

theorem Channel.samples_assess (c : Channel) (baseline : Int8) : (c.assess baseline).samples = c.samples := by
  unfold assess
  split <;> rfl

/-- An assessment does not read the score it sets. -/
theorem Channel.assessment_assess (c : Channel) (baseline : Int8) :
    (c.assess baseline).assessment baseline = c.assessment baseline := by
  unfold assess
  split <;> rfl

/-- Assessing a channel twice is assessing it once. -/
theorem Channel.assess_assess (c : Channel) (baseline : Int8) :
    (c.assess baseline).assess baseline = c.assess baseline := by
  cases keeps : c.samples.isEmpty || c.disabled with
  | true =>
    have hsame : c.assess baseline = c := if_pos keeps
    rw [hsame, hsame]
  | false =>
    simp only [assess, keeps, Bool.false_eq_true, if_false]
    rfl

namespace Interface

theorem assessed_assessed (i : Interface) (baseline : Int8) :
    (i.assessed baseline).assessed baseline = i.assessed baseline := by
  simp only [assessed, List.map_map]
  congr 1
  refine List.map_congr_left fun c _ => ?_
  simp only [Function.comp_apply]
  cases usable : c.isUsable with
  | true => simp only [if_true, Channel.isUsable_assess, usable, Channel.assess_assess]
  | false => simp only [Bool.false_eq_true, if_false, usable]

/-- Where the channels of one interface come of those of another by a change that keeps which are usable and what these
are assessed at, both have the same candidates. -/
theorem candidates_map {i j : Interface} {g : Channel → Channel} (channels : j.channels = i.channels.map g)
    (usable : ∀ c ∈ i.channels, (g c).isUsable = c.isUsable) {baseline baseline' : Int8}
    (same : ∀ c ∈ i.channels, c.isUsable = true → (g c).assessment baseline' = c.assessment baseline) :
    j.candidates baseline' = i.candidates baseline := by
  rw [candidates, candidates, channels, List.zipIdx_map, List.filterMap_map]
  refine List.filterMap_congr fun entry hentry => ?_
  obtain ⟨c, index⟩ := entry
  have hc : c ∈ i.channels := List.fst_mem_of_mem_zipIdx hentry
  simp only [Function.comp_apply, Prod.map_apply, id_eq, usable c hc]
  split
  · rw [same c hc ‹_›]
  · rfl

/-- Assessed channels are the same candidates. -/
theorem candidates_assessed (i : Interface) (baseline : Int8) :
    (i.assessed baseline).candidates baseline = i.candidates baseline := by
  refine candidates_map rfl (fun c _ => ?_) fun c _ usable => ?_
  · split
    · exact c.isUsable_assess baseline
    · rfl
  · rw [if_pos usable, c.assessment_assess]

/-- The baseline stays when channels are assessed. -/
theorem baseline_assessed (i : Interface) (baseline : Int8) : (i.assessed baseline).baseline = i.baseline := by
  simp only [Interface.baseline, assessed, List.flatMap_map]
  congr 3
  funext c
  split
  · rw [Channel.samples_assess]
  · rfl

/-- **Scoring again changes nothing**: the ideal channel stays the ideal one, with its score. -/
theorem select_again (i : Interface) :
    i.select.iface.select.ideal = i.select.ideal ∧ i.select.iface.select.iface = i.select.iface := by
  cases h : i.baseline with
  | none =>
    have hselect : i.select = { iface := i, ideal := none, log := [] } := by simp only [select, h]
    rw [hselect]
    exact ⟨congrArg Choice.ideal hselect, congrArg Choice.iface hselect⟩
  | some baseline =>
    have hselect : i.select =
        { iface := i.assessed baseline, ideal := ideal? (i.candidates baseline), log := i.selectLog } := by
      simp only [select, h]
    have hagain : (i.assessed baseline).baseline = some baseline := (i.baseline_assessed baseline).trans h
    rw [hselect]
    simp only [select, hagain, candidates_assessed, assessed_assessed, and_self]

end Interface

end

end ChannelSurvey

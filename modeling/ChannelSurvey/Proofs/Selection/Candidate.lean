import ChannelSurvey.Proofs.Interface.Clearing

/-!
# Where a selection comes from

A winner is one of the candidates, and a candidate is a usable channel with a score. So what a sweep
settles on is always a channel that is enabled and holds samples, with the score it was given
(`usable_of_selection`).
-/

namespace ChannelSurvey

/-- Holding the place of the best, a fold never leaves the list. -/
theorem mem_of_foldl_better {candidates : List (Nat × Float)} {held : Option (Nat × Float)}
    {e : Nat × Float} (h : candidates.foldl better held = some e) : held = some e ∨ e ∈ candidates := by
  induction candidates generalizing held with
  | nil => exact Or.inl h
  | cons next rest ih =>
    rcases ih h with hheld | hrest
    · have hcases : held = some e ∨ e = next := by
        cases held with
        | none => exact Or.inr (Option.some.inj hheld).symm
        | some place =>
          simp only [better] at hheld
          split at hheld
          · exact Or.inl hheld
          · exact Or.inr (Option.some.inj hheld).symm
      rcases hcases with hold | rfl
      · exact Or.inl hold
      · exact Or.inr List.mem_cons_self
    · exact Or.inr (List.mem_cons_of_mem _ hrest)

/-- The ideal position is the position of a candidate. -/
theorem mem_of_ideal? {candidates : List (Nat × Float)} {index : Nat}
    (h : ideal? candidates = some index) : ∃ score, (index, score) ∈ candidates := by
  obtain ⟨⟨place, score⟩, hfold, rfl⟩ := Option.map_eq_some_iff.mp h
  rcases mem_of_foldl_better hfold with hnone | hmem
  · cases hnone
  · exact ⟨score, hmem⟩

theorem Channel.isUsable_iff {c : Channel} :
    c.isUsable = true ↔ 0 < c.count ∧ c.samples.isEmpty = false ∧ c.disabled = false := by
  simp only [isUsable, Bool.and_eq_true, decide_eq_true_iff, Bool.not_eq_true', and_assoc]

namespace Interface

variable [BinaryLog]

/-- A usable channel is scored in its place. -/
theorem getElem?_assessed {i : Interface} {index : Nat} {c : Channel} (hc : i.channels[index]? = some c)
    (usable : c.isUsable = true) (baseline : Int8) :
    (i.assessed baseline).channels[index]? = some (c.assess baseline) := by
  simp only [assessed, List.getElem?_map, hc, Option.map_some, usable, if_true]

/-- **The candidates** are the usable channels that have a score, by position. -/
theorem mem_candidates {i : Interface} {baseline : Int8} {index : Nat} {score : Float} :
    (index, score) ∈ i.candidates baseline ↔
      ∃ c, i.channels[index]? = some c ∧ c.isUsable = true ∧ c.assessment baseline = some score := by
  rw [candidates, List.mem_filterMap]
  constructor
  · rintro ⟨⟨c, place⟩, hmem, hc⟩
    simp only at hc
    split at hc
    · rename_i husable
      obtain ⟨_, hassessment, heq⟩ := Option.map_eq_some_iff.mp hc
      cases heq
      exact ⟨c, List.mem_zipIdx_iff_getElem?.mp hmem, husable, hassessment⟩
    · cases hc
  · rintro ⟨c, hc, husable, hassessment⟩
    refine ⟨(c, index), List.mem_zipIdx_iff_getElem?.mpr hc, ?_⟩
    simp only [husable, if_true, hassessment, Option.map_some]

omit [BinaryLog] in
/-- A selection carries the number, the frequency and the score of its channel. -/
theorem selection?_eq_some {i : Interface} {index : Nat} {s : Selection} :
    i.selection? index = some s ↔
      ∃ c, i.channels[index]? = some c ∧ c.number = s.number ∧ c.freq = s.freq ∧ c.score = some s.score := by
  constructor
  · intro h
    obtain ⟨c, hc, hread⟩ := Option.bind_eq_some_iff.mp h
    obtain ⟨score, hscore, heq⟩ := Option.bind_eq_some_iff.mp hread
    obtain rfl := Option.some.inj heq
    exact ⟨c, hc, rfl, rfl, hscore⟩
  · rintro ⟨c, hc, hnumber, hfreq, hscore⟩
    simp [selection?, hc, hnumber, hfreq, hscore]

/-- **What a sweep settles on is a candidate**, scored in its place. -/
theorem candidate_of_selection {i : Interface} {s : Selection}
    (h : i.select.ideal.bind i.select.iface.selection? = some s) :
    ∃ (index : Nat) (c : Channel) (baseline : Int8) (score : Float),
      i.channels[index]? = some c ∧ c.isUsable = true ∧ c.assessment baseline = some score ∧
      i.select.iface.channels[index]? = some (c.assess baseline) ∧ c.number = s.number ∧ c.freq = s.freq ∧
      (c.assess baseline).score = some s.score := by
  obtain ⟨index, hideal, hselection⟩ := Option.bind_eq_some_iff.mp h
  cases hbaseline : i.baseline with
  | none =>
    simp only [select, hbaseline] at hideal
    cases hideal
  | some baseline =>
    simp only [select, hbaseline] at hideal hselection ⊢
    obtain ⟨score, hmem⟩ := mem_of_ideal? hideal
    obtain ⟨c, hc, husable, hassessment⟩ := mem_candidates.mp hmem
    have hassessed := getElem?_assessed hc husable baseline
    obtain ⟨d, hd, hnumber, hfreq, hscore⟩ := selection?_eq_some.mp hselection
    obtain rfl : d = c.assess baseline := Option.some.inj (hd.symm.trans hassessed)
    have hclear := Channel.clear_assess c baseline
    exact ⟨index, c, baseline, score, hc, husable, hassessment, hassessed,
      (congrArg Channel.number hclear).symm.trans hnumber, (congrArg Channel.freq hclear).symm.trans hfreq, hscore⟩

/-- **What a sweep settles on is a usable channel of the scored interface**, with its number, its
frequency and its score. -/
theorem usable_of_selection {i : Interface} {s : Selection}
    (h : i.select.ideal.bind i.select.iface.selection? = some s) :
    ∃ c ∈ i.select.iface.channels, c.isUsable = true ∧ c.number = s.number ∧ c.freq = s.freq ∧
      c.score = some s.score := by
  obtain ⟨index, c, baseline, _, _, husable, _, hassessed, hnumber, hfreq, hscore⟩ := candidate_of_selection h
  have hclear := Channel.clear_assess c baseline
  exact ⟨c.assess baseline, List.mem_of_getElem? hassessed, (Channel.isUsable_assess c baseline).trans husable,
    (congrArg Channel.number hclear).trans hnumber, (congrArg Channel.freq hclear).trans hfreq, hscore⟩

end Interface

end ChannelSurvey

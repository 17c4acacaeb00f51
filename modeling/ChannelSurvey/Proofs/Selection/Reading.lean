import ChannelSurvey.Proofs.Selection.Scoring

/-!
# What a selection reads

A selection writes scores into the channels it reads, and leaves the scores of channels that are not usable where
they are. `Interface.unrated` is an interface without the scores and the minima of its channels.

**The law** (`selection_settled`): selecting any number of times names the same position each time and changes
nothing after the first; and interfaces that are the same but for scores and minima of channels have the same position
named and the same scores given to their usable channels.

Both rest on what decides a selection: which channels are usable, and what their ratings against the baseline are.
Where one list of channels comes of another by a change that keeps these, the same position is named (`ideal_map`).
-/

namespace ChannelSurvey

/-- A channel without its score and its minimum. -/
def Channel.unrated (c : Channel) : Channel :=
  { c with quietest := none, score := none }

@[simp] theorem Channel.isUsable_unrated (c : Channel) : c.unrated.isUsable = c.isUsable := rfl

@[simp] theorem Channel.rating_unrated [BinaryLog] (c : Channel) (baseline : Int8) :
    c.unrated.rating baseline = c.rating baseline := rfl

namespace Interface

/-- **An interface without the scores and the minima of its channels.** Its own lowest noise floor stays. -/
def unrated (i : Interface) : Interface :=
  { i with channels := i.channels.map (·.unrated) }

section

variable [BinaryLog]

/-- The interface after so many selections. -/
def selectedTimes (i : Interface) (n : Nat) : Interface :=
  (fun j => j.select.iface)^[n] i

/-! ## Selecting again -/

/-- Every selection after the first starts from the interface the last one left. -/
theorem selectedTimes_succ (i : Interface) (n : Nat) : i.selectedTimes (n + 1) = i.select.iface := by
  induction n with
  | zero => rfl
  | succ n ih =>
    rw [selectedTimes, Function.iterate_succ_apply', ← selectedTimes, ih]
    exact (select_again i).2

/-- Selecting any number of times before changes no choice. -/
theorem ideal_selectedTimes (i : Interface) (n : Nat) : (i.selectedTimes n).select.ideal = i.select.ideal := by
  cases n with
  | zero => rfl
  | succ n =>
    rw [selectedTimes_succ]
    exact (select_again i).1

/-! ## What decides a selection -/

variable {i j : Interface}

/-- **What decides a selection.** Where one interface comes of another by changes to its channels that keep which are
usable and what their ratings against the baseline are, the same position is named. -/
theorem ideal_map {g : Channel → Channel} {f : Int8 → Int8} (channels : j.channels = i.channels.map g)
    (usable : ∀ c ∈ i.channels, (g c).isUsable = c.isUsable) (baseline : j.baseline = i.baseline.map f)
    (rated : ∀ b, i.baseline = some b → ∀ c ∈ i.channels, (g c).rating (f b) = c.rating b) :
    j.select.ideal = i.select.ideal := by
  cases hbaseline : i.baseline with
  | none =>
    rw [hbaseline] at baseline
    rw [select_without_baseline hbaseline, select_without_baseline baseline]
  | some b =>
    rw [hbaseline] at baseline
    rw [select_of_baseline hbaseline, select_of_baseline baseline]
    have hcandidates : j.candidates (f b) = i.candidates b := by
      refine candidates_map channels usable fun c hc husable => ?_
      rw [Channel.assessment_eq_rating ((usable c hc).trans husable), Channel.assessment_eq_rating husable,
        rated b hbaseline c hc]
    exact congrArg ideal? hcandidates

/-- A usable channel has its rating for a score once a selection was made. -/
theorem getElem?_select {index : Nat} {c : Channel} (hc : i.channels[index]? = some c) (usable : c.isUsable = true) :
    ∃ baseline, i.baseline = some baseline ∧
      i.select.iface.channels[index]? = some { c with score := c.rating baseline } := by
  obtain ⟨baseline, known⟩ := baseline_of_isUsable (List.mem_of_getElem? hc) usable
  refine ⟨baseline, known, ?_⟩
  rw [select_of_baseline known, ← Channel.assess_of_isUsable usable]
  exact getElem?_assessed hc usable baseline

/-! ## Without scores and minima -/

omit [BinaryLog] in
/-- The baseline does not read the scores. -/
theorem baseline_unrated (i : Interface) : i.unrated.baseline = i.baseline := by
  rw [baseline, unrated, List.flatMap_map]
  rfl

/-- Nor does the choice. -/
theorem ideal_unrated (i : Interface) : i.unrated.select.ideal = i.select.ideal := by
  refine ideal_map (g := Channel.unrated) (f := id) rfl (fun c _ => c.isUsable_unrated) ?_ fun b _ c _ => ?_
  · rw [baseline_unrated, Option.map_id_fun, id_eq]
  · exact c.rating_unrated b

omit [BinaryLog] in
/-- Channels at the same position differ in scores and minima only. -/
theorem unrated_getElem? (same : i.unrated = j.unrated) {index : Nat} {c d : Channel}
    (hc : i.channels[index]? = some c) (hd : j.channels[index]? = some d) : c.unrated = d.unrated := by
  have hchannels : i.unrated.channels[index]? = j.unrated.channels[index]? := by rw [same]
  simp only [unrated, List.getElem?_map, hc, hd, Option.map_some, Option.some_inj] at hchannels
  exact hchannels

/-- **A selection is settled at once, and reads no score.** Selecting any number of times names the same position each
time and leaves the interface as the first selection did. Interfaces that are the same but for scores and minima of
channels have the same position named, the same channels usable, and the same scores given to these. -/
theorem selection_settled (i : Interface) :
    (∀ n, (i.selectedTimes n).select.ideal = i.select.ideal ∧ i.selectedTimes (n + 1) = i.select.iface) ∧
    ∀ j : Interface, i.unrated = j.unrated →
      i.select.ideal = j.select.ideal ∧
      ∀ (index : Nat) (c d : Channel), i.channels[index]? = some c → j.channels[index]? = some d →
        c.isUsable = d.isUsable ∧
        (c.isUsable = true →
          ∃ score, i.select.iface.channels[index]? = some { c with score } ∧
            j.select.iface.channels[index]? = some { d with score }) := by
  refine ⟨fun n => ⟨ideal_selectedTimes i n, selectedTimes_succ i n⟩, fun j same => ⟨?_, ?_⟩⟩
  · rw [← ideal_unrated i, same, ideal_unrated j]
  · intro index c d hc hd
    have hunrated := unrated_getElem? same hc hd
    have husable : c.isUsable = d.isUsable := by rw [← c.isUsable_unrated, hunrated, d.isUsable_unrated]
    refine ⟨husable, fun usable => ?_⟩
    obtain ⟨b, known, hscored⟩ := getElem?_select hc usable
    obtain ⟨b', known', hscored'⟩ := getElem?_select hd (husable ▸ usable)
    rw [← baseline_unrated, same, baseline_unrated, known'] at known
    obtain rfl : b' = b := Option.some.inj known
    have hrating : c.rating b' = d.rating b' := by rw [← c.rating_unrated, hunrated, d.rating_unrated]
    rw [← hrating] at hscored'
    exact ⟨c.rating b', hscored, hscored'⟩

end

/-- The disabled channel and the one without a sample keep their old scores, which look like the best; the other two
are both idle and tie, whatever scores and minima they come with. -/
theorem selection_settled_stale :
    let idle : Sample := { total := 5000, busy := 0, own := 0, noise := -95 }
    let i (score : Option Float) (quietest : Option Int8) : Interface :=
      { channels :=
          [{ number := 1, freq := 2412, disabled := true, count := 1, samples := #[idle], score, quietest },
            { number := 2, freq := 2417, score, quietest },
            { number := 3, freq := 2422, count := 1, samples := #[idle], quietest },
            { number := 4, freq := 2427, count := 2, samples := #[idle, idle], score, quietest }]
        offChannelCapable := true, settings := {}, quietest := some (-93) }
    let stale := i (some (-90.0)) (some (-128))
    let bare := i none none
    stale.unrated = bare.unrated ∧ bare.select.ideal = some 2 ∧ (stale.selectedTimes 3).select.ideal = some 2 ∧
      stale.select.iface.channels.map (·.score) = [some (-90.0), some (-90.0), some (-64.0), some (-64.0)] ∧
      bare.select.iface.channels.map (·.score) = [none, none, some (-64.0), some (-64.0)] := by
  intro idle i stale bare
  have hsame : stale.unrated = bare.unrated := rfl
  have hideal : bare.select.ideal = some 2 := by decide +kernel
  obtain ⟨htimes, hreads⟩ := selection_settled stale
  have hagain : (stale.selectedTimes 3).select.ideal = some 2 := by
    rw [(htimes 3).1, (hreads bare hsame).1, hideal]
  exact ⟨hsame, hideal, hagain, by decide +kernel, by decide +kernel⟩

end Interface

end ChannelSurvey

import ChannelSurvey.Proofs.Selection.Scoring
import ChannelSurvey.Proofs.Sweep.Handled

/-!
# Outlines

The outline of an interface keeps its layout, the counts, and which samples are degenerate, and leaves out what the
samples are.

**The laws**: what storing a sample does to an outline depends on the outlines alone (`record_alike`), and selecting
leaves it as it is (`outline_select`). Whether there is a channel to select can be told from an outline
(`chosen?_eq_none`, `barren_outline`), and which one cannot.
-/

namespace ChannelSurvey

/-- What is left of a sample that is not drawn: whether it is degenerate. -/
def Sample.outline (s : Sample) : Sample :=
  if s.isDegenerate then { total := 0, busy := 0, own := 0, noise := 0 }
  else { total := 1, busy := 0, own := 0, noise := 0 }

def Channel.outline (c : Channel) : Channel :=
  { c with quietest := none, samples := c.samples.map (·.outline), score := none }

/-- **The outline of an interface**: its layout, the counts, and which samples are degenerate. -/
def Interface.outline (i : Interface) : Interface :=
  { i with channels := i.channels.map (·.outline), quietest := none, operating := none }

/-- An outline is degenerate just when its sample is. -/
@[simp] theorem Sample.isDegenerate_outline (s : Sample) : s.outline.isDegenerate = s.isDegenerate := by
  unfold outline
  split
  · rename_i degenerate
    rw [degenerate]
    rfl
  · rename_i useful
    rw [Bool.not_eq_true] at useful
    rw [useful]
    rfl

/-- Whether a sample is degenerate is all an outline keeps of it. -/
theorem Sample.outline_congr {s s' : Sample} (h : s.isDegenerate = s'.isDegenerate) : s.outline = s'.outline := by
  rw [outline, h, outline]

/-- Outlining twice is outlining once. -/
@[simp] theorem Sample.outline_outline (s : Sample) : s.outline.outline = s.outline := by
  rw [outline, isDegenerate_outline, outline]

namespace Channel

/-- Recording a sample shows in the outline as recording its outline. -/
theorem outline_record (c : Channel) (s : Sample) : (c.record s).outline = (c.outline.record s.outline).outline := by
  simp only [outline, record, Array.map_push, Sample.outline_outline, Array.map_map, Function.comp_def]

/-- The outline of a channel has no more to lose. -/
@[simp] theorem outline_outline (c : Channel) : c.outline.outline = c.outline := by
  simp only [outline, Array.map_map, Function.comp_def, Sample.outline_outline]

/-- The samples of an outline are the outlines of the samples. -/
@[simp] theorem samples_outline (c : Channel) : c.outline.samples = c.samples.map (·.outline) :=
  rfl

/-- Whether a channel is usable shows in its outline. -/
@[simp] theorem isUsable_outline (c : Channel) : c.outline.isUsable = c.isUsable := by
  have hempty : (c.samples.map (·.outline)).isEmpty = c.samples.isEmpty := by
    rw [Array.isEmpty, Array.isEmpty, Array.size_map]
  show (decide (0 < c.count) && !(c.samples.map (·.outline)).isEmpty && !c.disabled) = _
  rw [hempty]
  rfl

end Channel

namespace Interface

variable {i j : Interface}

/-- Recording a sample on one of the channels shows in the outline as recording its outline there. -/
theorem outline_record (i : Interface) (index : Nat) (s : Sample) :
    (i.record index s).outline = (i.outline.record index s.outline).outline := by
  cases hc : i.channels[index]? with
  | none => simp [record, outline, hc]
  | some c =>
    simp [record, outline, hc, Function.comp_def, c.outline_record s]
    rfl

/-- Samples of one kind recorded at the same index keep two interfaces alike. -/
theorem record_alike (same : i.outline = j.outline) (index : Nat) {s s' : Sample}
    (degenerate : s.isDegenerate = s'.isDegenerate) :
    (i.record index s).outline = (j.record index s').outline := by
  rw [outline_record, same, Sample.outline_congr degenerate, ← outline_record]

/-- An outline shows the layout. -/
theorem sameLayout_of_outline (same : i.outline = j.outline) : SameLayout i j := by
  have hclear (i : Interface) : i.outline.channels.map (·.clear) = i.channels.map (·.clear) := by
    simp [outline, Channel.outline, Channel.clear]
  refine ⟨?_, congrArg (·.settings) same⟩
  rw [← hclear, same, hclear]

/-! ## Selections -/

/-- Scores do not show in an outline, so a selection leaves it as it is. -/
theorem outline_select [BinaryLog] (i : Interface) : i.select.iface.outline = i.outline := by
  cases hbaseline : i.baseline with
  | none => rw [select_without_baseline hbaseline]
  | some baseline =>
    rw [select_of_baseline hbaseline, assessed_eq]
    simp only [outline, List.map_map, mk.injEq, and_true]
    refine List.map_congr_left fun c _ => ?_
    simp only [Function.comp_apply]
    split <;> rfl

/-- No channel holds a useful sample. -/
def Barren (i : Interface) : Prop :=
  ∀ c ∈ i.channels, c.isUsable = true → ∀ s ∈ c.samples.toList, s.isDegenerate = true

/-- Whether a selection can find nothing shows in the outline. -/
theorem barren_outline : i.outline.Barren ↔ i.Barren := by
  simp [Barren, outline]

/-- A selection finds nothing just on a barren interface. -/
theorem chosen?_eq_none [BinaryLog] : i.chosen? = none ↔ i.Barren := by
  rw [chosen?, Option.bind_eq_none_iff, Barren, ← ideal_eq_none]
  constructor
  · intro hnone
    rw [Option.eq_none_iff_forall_ne_some]
    intro index hideal
    obtain ⟨s, hs⟩ := selection?_of_ideal hideal
    exact absurd ((hnone index hideal).symm.trans hs) (by simp)
  · intro hnone index hideal
    rw [hnone] at hideal
    cases hideal

/-- The channels with the number of their samples, as counted and as stored. -/
def census (i : Interface) : List (UInt8 × UInt32 × Nat) :=
  i.channels.map fun c => (c.number, c.count, c.samples.size)

/-- Interfaces with one outline have one census. -/
theorem census_congr (same : i.outline = j.outline) : i.census = j.census := by
  have hcensus (i : Interface) : i.outline.census = i.census := by
    simp [census, outline, Channel.outline]
  rw [← hcensus, same, hcensus]

end Interface

end ChannelSurvey

import ChannelSurvey.Selection

/-!
# What clearing forgets

`clear` drops the survey data and the counters of a sweep and keeps the rest. Two interfaces that are
equal once cleared therefore have the same channels, flags, settings, capability and operating channel.

**The laws**: storing samples and scoring channels touch survey data only (`clear_recordAll`,
`clear_select`), and an interface is clean exactly when clearing changes nothing (`isClean_iff`). A step
of a sweep is then described by what it does beside `clear`.
-/

namespace ChannelSurvey

namespace Channel

/-- Clearing a channel twice is clearing it once. -/
@[simp] theorem clear_clear (c : Channel) : c.clear.clear = c.clear := rfl

/-- A cleared channel keeps no trace of a sample it was given. -/
@[simp] theorem clear_record (c : Channel) (s : Sample) : (c.record s).clear = c.clear := rfl

/-- A cleared channel keeps no trace of its assessment. -/
@[simp] theorem clear_assess [BinaryLog] (c : Channel) (baseline : Int8) :
    (c.assess baseline).clear = c.clear := by
  unfold assess
  split <;> rfl

/-- A score decides nothing about whether a channel takes part. -/
theorem isUsable_assess [BinaryLog] (c : Channel) (baseline : Int8) :
    (c.assess baseline).isUsable = c.isUsable := by
  unfold assess
  split <;> rfl

/-- A channel holds no survey data exactly when there is nothing to drop. -/
theorem isClean_iff {c : Channel} : c.isClean = true ↔ c.clear = c := by
  obtain ⟨number, freq, disabled, quietest, count, samples, score⟩ := c
  simp only [isClean, clear, Bool.and_eq_true, Array.isEmpty_iff, beq_iff_eq,
    Option.isNone_iff_eq_none, mk.injEq, true_and]
  constructor
  · rintro ⟨⟨⟨rfl, rfl⟩, rfl⟩, rfl⟩
    exact ⟨rfl, rfl, rfl, rfl⟩
  · rintro ⟨rfl, rfl, rfl, rfl⟩
    exact ⟨⟨⟨rfl, rfl⟩, rfl⟩, rfl⟩

end Channel

namespace Interface

/-- Clearing an interface twice is clearing it once. -/
@[simp] theorem clear_clear (i : Interface) : i.clear.clear = i.clear := by
  simp only [clear, List.map_map, Function.comp_def, Channel.clear_clear]

/-- An interface is clean exactly when clearing changes nothing. -/
theorem isClean_iff {i : Interface} : i.isClean = true ↔ i.clear = i := by
  have hchannels : i.channels.all (·.isClean) = true ↔ i.channels.map (·.clear) = i.channels := by
    have hmap := List.map_inj_left (f := Channel.clear) (g := id) (l := i.channels)
    rw [List.map_id] at hmap
    rw [List.all_eq_true, hmap]
    exact forall₂_congr fun c _ => Channel.isClean_iff
  obtain ⟨channels, capable, settings, quietest, position, roundsDone, surveyed, operating⟩ := i
  simp only [isClean, clear, Bool.and_eq_true, beq_iff_eq, Option.isNone_iff_eq_none, mk.injEq,
    true_and, and_true, hchannels]
  constructor
  · rintro ⟨⟨⟨⟨rfl, rfl⟩, rfl⟩, rfl⟩, h⟩
    exact ⟨h, rfl, rfl, rfl, rfl⟩
  · rintro ⟨h, rfl, rfl, rfl, rfl⟩
    exact ⟨⟨⟨⟨rfl, rfl⟩, rfl⟩, rfl⟩, h⟩

/-- Whatever an interface held, it is clean once cleared. -/
@[simp] theorem isClean_clear (i : Interface) : i.clear.isClean = true :=
  isClean_iff.mpr (clear_clear i)

/-- **The same layout**: the same channels with the same flags, in order, and the same settings. -/
structure SameLayout (i j : Interface) : Prop where
  channels : i.channels.map (·.clear) = j.channels.map (·.clear)
  settings : i.settings = j.settings

namespace SameLayout

theorem refl (i : Interface) : SameLayout i i := ⟨rfl, rfl⟩

theorem symm {i j : Interface} (h : SameLayout i j) : SameLayout j i :=
  ⟨h.channels.symm, h.settings.symm⟩

theorem trans {i j k : Interface} (h : SameLayout i j) (h' : SameLayout j k) : SameLayout i k :=
  ⟨h.channels.trans h'.channels, h.settings.trans h'.settings⟩

/-- Interfaces of one layout have equally many channels. -/
theorem length {i j : Interface} (h : SameLayout i j) : i.channels.length = j.channels.length := by
  have hlength := congrArg List.length h.channels
  rwa [List.length_map, List.length_map] at hlength

/-- Channels at the same position have the same number, frequency and flag. -/
theorem getElem? {i j : Interface} (h : SameLayout i j) {index : Nat} {c : Channel}
    (hc : i.channels[index]? = some c) :
    ∃ d, j.channels[index]? = some d ∧ d.number = c.number ∧ d.freq = c.freq ∧ d.disabled = c.disabled := by
  have hclear := congrArg (·[index]?) h.channels
  simp only [List.getElem?_map, hc, Option.map_some] at hclear
  obtain ⟨d, hd, hsame⟩ := Option.map_eq_some_iff.mp hclear.symm
  injection hsame with hnumber hfreq hflag
  exact ⟨d, hd, hnumber, hfreq, hflag⟩

/-- Interfaces that are equal once cleared have the same layout. -/
theorem of_clear_eq {i j : Interface} (h : i.clear = j.clear) : SameLayout i j :=
  ⟨congrArg Interface.channels h, by have hs := congrArg Interface.settings h; exact hs⟩

/-- Clearing empties the channels and leaves the layout. -/
theorem clear (i : Interface) : SameLayout i.clear i :=
  of_clear_eq (clear_clear i)

end SameLayout

/-! ## Storing -/

/-- A cleared interface keeps no trace of a sample it stored. -/
@[simp] theorem clear_record (i : Interface) (index : Nat) (s : Sample) :
    (i.record index s).clear = i.clear := by
  unfold record
  split
  · rfl
  · rename_i c hc
    obtain ⟨hlt, rfl⟩ := List.getElem?_eq_some_iff.mp hc
    simp only [clear, List.map_set, Channel.clear_record]
    rw [← List.map_set, List.set_getElem_self]

/-- Nor does it keep a trace of a whole survey. -/
@[simp] theorem clear_recordAll (i : Interface) (index : Nat) (samples : List Sample) :
    (i.recordAll index samples).clear = i.clear := by
  induction samples generalizing i with
  | nil => rfl
  | cons s rest ih => exact (ih (i.record index s)).trans (clear_record i index s)

/-- Storing samples leaves the layout. -/
theorem sameLayout_recordAll (i : Interface) (index : Nat) (samples : List Sample) :
    SameLayout (i.recordAll index samples) i :=
  .of_clear_eq (clear_recordAll i index samples)

@[simp] theorem length_recordAll (i : Interface) (index : Nat) (samples : List Sample) :
    (i.recordAll index samples).channels.length = i.channels.length :=
  (sameLayout_recordAll i index samples).length

@[simp] theorem settings_recordAll (i : Interface) (index : Nat) (samples : List Sample) :
    (i.recordAll index samples).settings = i.settings :=
  (sameLayout_recordAll i index samples).settings

/-- Storing a sample neither reads nor moves the counters of the walk, so they may be set before or after. -/
theorem record_counters (i : Interface) (index : Nat) (s : Sample) (position : Nat) (rounds : UInt32) :
    ({ i with position, roundsDone := rounds } : Interface).record index s =
      { i.record index s with position, roundsDone := rounds } := by
  simp only [record]
  split <;> rfl

/-- Storing samples neither reads nor moves the walk. -/
theorem recordAll_counters (i : Interface) (index : Nat) (samples : List Sample) (position : Nat)
    (rounds : UInt32) :
    ({ i with position, roundsDone := rounds } : Interface).recordAll index samples =
      { i.recordAll index samples with position, roundsDone := rounds } := by
  induction samples generalizing i with
  | nil => rfl
  | cons s rest ih =>
    show (({ i with position, roundsDone := rounds } : Interface).record index s).recordAll index rest = _
    rw [record_counters, ih]
    rfl

/-- Storing samples closes no round. -/
@[simp] theorem roundsDone_recordAll (i : Interface) (index : Nat) (samples : List Sample) :
    (i.recordAll index samples).roundsDone = i.roundsDone := by
  have h := congrArg roundsDone (recordAll_counters i index samples i.position i.roundsDone)
  exact h

def Unscored (i : Interface) : Prop :=
  ∀ c ∈ i.channels, c.score = none

/-- A sample assigns no score. -/
theorem unscored_record {i : Interface} (h : i.Unscored) (index : Nat) (s : Sample) :
    (i.record index s).Unscored := by
  unfold record
  split
  · exact h
  · rename_i c hc
    intro d hd
    rcases List.mem_or_eq_of_mem_set hd with hold | rfl
    · exact h d hold
    · exact h c (List.mem_of_getElem? hc)

/-- Nor does a whole survey. -/
theorem unscored_recordAll {i : Interface} (h : i.Unscored) (index : Nat) (samples : List Sample) :
    (i.recordAll index samples).Unscored := by
  induction samples generalizing i with
  | nil => exact h
  | cons s rest ih => exact ih (unscored_record h index s)

/-- Clearing takes every score away. -/
theorem unscored_clear (i : Interface) : i.clear.Unscored := by
  intro c hc
  obtain ⟨d, _, rfl⟩ := List.mem_map.mp hc
  rfl

/-! ## Scoring -/

variable [BinaryLog]

/-- A cleared interface keeps no trace of its assessment. -/
@[simp] theorem clear_assessed (i : Interface) (baseline : Int8) :
    (i.assessed baseline).clear = i.clear := by
  simp only [clear, assessed, List.map_map]
  congr 1
  refine List.map_congr_left fun c _ => ?_
  simp only [Function.comp_apply]
  split
  · exact Channel.clear_assess c baseline
  · rfl

/-- A selection changes nothing that clearing leaves. -/
@[simp] theorem clear_select (i : Interface) : i.select.iface.clear = i.clear := by
  unfold select
  split
  · rfl
  · exact clear_assessed i _

/-- A selection leaves the layout. -/
theorem sameLayout_select (i : Interface) : SameLayout i.select.iface i :=
  .of_clear_eq (clear_select i)

/-- A selection moves no counter of the walk. -/
theorem select_counters (i : Interface) :
    i.select.iface.position = i.position ∧ i.select.iface.roundsDone = i.roundsDone := by
  unfold select
  split <;> exact ⟨rfl, rfl⟩

end Interface

end ChannelSurvey

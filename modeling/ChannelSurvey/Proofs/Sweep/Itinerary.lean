import ChannelSurvey.Proofs.Interface.Clearing
import ChannelSurvey.Sweep.Step

/-!
# The itinerary of a round

A round visits the enabled channels in ascending order. `stops` lists them, `stopsFrom` those at or after a
position, and `toward` is the step that asks for a dwell on one.

**The laws**: `advance` heads for the first stop at or after the position of the walk, and completes the
round when there is none (`advance_toward`, `advance_complete`); behind a stop the itinerary goes on with
the stops after it (`stopsFrom_eq_cons`). The itinerary reads no survey data (`stopsFrom_congr`), so it
stays the same while samples come in.
-/

namespace ChannelSurvey

/-- A channel to visit: its position in the channel list and its frequency. -/
structure Stop where
  index : Nat
  freq : UInt32
  deriving DecidableEq, Repr

namespace Interface

/-- The enabled channels at or after a position, ascending. -/
def stopsFrom (i : Interface) (position : Nat) : List Stop :=
  ((i.channels.zipIdx.drop position).filter fun c => !c.1.disabled).map fun c => ⟨c.2, c.1.freq⟩

/-- The enabled channels, ascending. -/
def stops (i : Interface) : List Stop :=
  i.stopsFrom 0

theorem stopsFrom_clear (i : Interface) (position : Nat) :
    i.clear.stopsFrom position = i.stopsFrom position := by
  simp only [stopsFrom, clear, List.zipIdx_map, ← List.map_drop, List.filter_map, List.map_map]
  rfl

theorem stopsFrom_congr {i j : Interface} (h : SameLayout i j) (position : Nat) :
    i.stopsFrom position = j.stopsFrom position := by
  have hchannels : i.clear.channels = j.clear.channels := h.channels
  rw [← stopsFrom_clear i, ← stopsFrom_clear j, stopsFrom, hchannels, stopsFrom]

theorem stops_congr {i j : Interface} (h : SameLayout i j) : i.stops = j.stops :=
  stopsFrom_congr h 0

/-- A round has no more stops than there are channels. -/
theorem length_stops_le (i : Interface) : i.stops.length ≤ i.channels.length := by
  rw [stops, stopsFrom, List.length_map, List.drop_zero]
  exact Nat.le_trans (List.length_filter_le ..) (Nat.le_of_eq List.length_zipIdx)

/-- The stops of a round have the frequencies of the enabled channels, in their order. -/
theorem map_freq_stops (i : Interface) :
    i.stops.map (·.freq) = (i.channels.filter fun c => !c.disabled).map (·.freq) := by
  have hkeep : ∀ (cs : List Channel) (n : Nat),
      ((cs.zipIdx n).filter fun c => !c.1.disabled).map (fun c => c.1.freq) =
        (cs.filter fun c => !c.disabled).map (·.freq) := by
    intro cs n
    rw [← List.zipIdx_map_fst n cs, List.filter_map, List.map_map, List.zipIdx_map_fst]
    rfl
  rw [stops, stopsFrom, List.drop_zero, List.map_map]
  exact hkeep i.channels 0

/-- **The first stop at or after a position** is an enabled channel, and the stops behind it are those
after its own position. -/
theorem stopsFrom_eq_cons {i : Interface} {position : Nat} {s : Stop} {rest : List Stop}
    (h : i.stopsFrom position = s :: rest) :
    position ≤ s.index ∧ rest = i.stopsFrom (s.index + 1) ∧
      ∃ c, i.channels[s.index]? = some c ∧ c.disabled = false ∧ c.freq = s.freq := by
  obtain ⟨⟨c, index⟩, cs, hfilter, rfl, rfl⟩ := List.map_eq_cons_iff.mp h
  obtain ⟨skipped, behind, hdrop, _, henabled, rfl⟩ := List.filter_eq_cons_iff.mp hfilter
  -- The entry stands at `position + skipped.length`, and carries that number as its own.
  have hentry : i.channels.zipIdx[position + skipped.length]? = some (c, index) := by
    rw [← List.getElem?_drop, hdrop, List.getElem?_append_right (Nat.le_refl _), Nat.sub_self]
    rfl
  obtain ⟨d, hd, heq⟩ := Option.map_eq_some_iff.mp (List.getElem?_zipIdx.symm.trans hentry)
  rw [Nat.zero_add] at heq
  cases heq
  refine ⟨Nat.le_add_right _ _, ?_, c, hd, by simpa using henabled, rfl⟩
  have hbehind : behind = i.channels.zipIdx.drop (position + skipped.length + 1) := by
    rw [Nat.add_assoc, ← List.drop_drop, hdrop, ← List.drop_drop, List.drop_left]
    rfl
  rw [stopsFrom, hbehind]

/-- The stops at or after a position are the enabled channels there. -/
theorem mem_stopsFrom {i : Interface} {position : Nat} {s : Stop} :
    s ∈ i.stopsFrom position ↔
      position ≤ s.index ∧ ∃ c, i.channels[s.index]? = some c ∧ c.disabled = false ∧ c.freq = s.freq := by
  rw [stopsFrom, List.mem_map]
  constructor
  · rintro ⟨⟨c, index⟩, hmem, rfl⟩
    obtain ⟨hentry, henabled⟩ := List.mem_filter.mp hmem
    obtain ⟨k, hk, hget⟩ := List.mem_drop_iff_getElem.mp hentry
    rw [List.getElem_zipIdx, Nat.zero_add] at hget
    cases hget
    exact ⟨Nat.le_add_right _ _, _, List.getElem?_eq_getElem _, by simpa using henabled, rfl⟩
  · rintro ⟨hposition, c, hc, henabled, hfreq⟩
    refine ⟨(c, s.index), List.mem_filter.mpr ⟨?_, by simpa using henabled⟩, by rw [hfreq]⟩
    obtain ⟨hlt, rfl⟩ := List.getElem?_eq_some_iff.mp hc
    have hindex : position + (s.index - position) = s.index := Nat.add_sub_cancel' hposition
    refine List.mem_drop_iff_getElem.mpr ⟨s.index - position, ?_, ?_⟩
    · rw [List.length_zipIdx, Nat.add_comm, hindex]
      exact hlt
    · simp only [List.getElem_zipIdx, hindex, Nat.zero_add]

theorem enabled_of_mem_stops {i : Interface} {s : Stop} (h : s ∈ i.stops) :
    ∃ c, i.channels[s.index]? = some c ∧ c.disabled = false := by
  obtain ⟨_, c, hc, henabled, _⟩ := mem_stopsFrom.mp h
  exact ⟨c, hc, henabled⟩

/-- Without a stop at or after a position, every channel there is disabled. -/
theorem disabled_of_stopsFrom_nil {i : Interface} {position : Nat} (none : i.stopsFrom position = []) :
    ∀ k c, position ≤ k → i.channels[k]? = some c → c.disabled = true := by
  intro k c hk hc
  cases henabled : c.disabled with
  | true => rfl
  | false =>
    have hmem : (⟨k, c.freq⟩ : Stop) ∈ i.stopsFrom position := mem_stopsFrom.mpr ⟨hk, c, hc, henabled, rfl⟩
    rw [none] at hmem
    cases hmem

theorem stopsFrom_eq_nil {i : Interface} {position : Nat}
    (disabled : ∀ k c, position ≤ k → i.channels[k]? = some c → c.disabled = true) :
    i.stopsFrom position = [] := by
  refine List.eq_nil_iff_forall_not_mem.mpr fun s hs => ?_
  obtain ⟨hposition, c, hc, henabled, _⟩ := mem_stopsFrom.mp hs
  rw [disabled s.index c hposition hc] at henabled
  cases henabled

/-- **No enabled channel is passed over** on the way to the first stop. -/
theorem disabled_before_stop {i : Interface} {position : Nat} {s : Stop} {rest : List Stop}
    (h : i.stopsFrom position = s :: rest) :
    ∀ k c, position ≤ k → k < s.index → i.channels[k]? = some c → c.disabled = true := by
  obtain ⟨_, hrest, _⟩ := stopsFrom_eq_cons h
  intro k c hk hlt hc
  cases henabled : c.disabled with
  | true => rfl
  | false =>
    have hmem : (⟨k, c.freq⟩ : Stop) ∈ i.stopsFrom position := mem_stopsFrom.mpr ⟨hk, c, hc, henabled, rfl⟩
    rw [h, hrest] at hmem
    rcases List.mem_cons.mp hmem with rfl | hbehind
    · exact absurd hlt (Nat.lt_irrefl _)
    · exact absurd hlt (Nat.not_lt.mpr (Nat.le_of_succ_le (mem_stopsFrom.mp hbehind).1))

theorem index_lt_of_stopsFrom {i : Interface} {position : Nat} {s : Stop} {rest : List Stop}
    (h : i.stopsFrom position = s :: rest) : s.index < i.channels.length := by
  obtain ⟨_, _, c, hc, _⟩ := stopsFrom_eq_cons h
  exact (List.getElem?_eq_some_iff.mp hc).1

end Interface

namespace Sweep

/-- The step that asks for a dwell on a stop. -/
def toward (i : Interface) (s : Stop) : Step :=
  { phase := .scanning s.index s.freq
    iface := { i with position := s.index }
    action := some (.requestOffChannel s.freq i.settings.dwell) }

/-- The next enabled channel is the first stop at or after the position of the walk. -/
theorem nextEnabled_stop (i : Interface) :
    (nextEnabled i).map (fun c => (⟨c.2, c.1.freq⟩ : Stop)) = (i.stopsFrom i.position).head? := by
  rw [nextEnabled, Interface.stopsFrom, List.head?_map, List.head?_filter]

/-- While a stop is left in the round, the walk heads for it. -/
theorem advance_toward {p : Phase} {i : Interface} {s : Stop} {rest : List Stop}
    (active : p.isActive = true) (h : i.stopsFrom i.position = s :: rest) :
    advance p i = toward i s := by
  have hrange : ¬ i.channels.length < i.position :=
    Nat.not_lt.mpr (Nat.le_of_lt
      (Nat.lt_of_le_of_lt (Interface.stopsFrom_eq_cons h).1 (Interface.index_lt_of_stopsFrom h)))
  have hnext := nextEnabled_stop i
  rw [h, List.head?_cons] at hnext
  obtain ⟨⟨c, index⟩, hc, rfl⟩ := Option.map_eq_some_iff.mp hnext
  simp only [advance, active, hrange, hc, Bool.not_true, Bool.false_eq_true, if_false]
  rfl

/-- Without a stop left, the round is complete. -/
theorem advance_complete {p : Phase} {i : Interface} (active : p.isActive = true)
    (hrange : i.position ≤ i.channels.length) (h : i.stopsFrom i.position = []) :
    advance p i = { phase := .roundComplete, iface := { i with position := i.channels.length } } := by
  have hnext := nextEnabled_stop i
  rw [h, List.head?_nil, Option.map_eq_none_iff] at hnext
  simp only [advance, active, Nat.not_lt.mpr hrange, hnext, Bool.not_true, Bool.false_eq_true, if_false]

theorem advance_outOfRange {p : Phase} {i : Interface} (active : p.isActive = true)
    (hrange : i.channels.length < i.position) : advance p i = fail i (.unmet .positionInRange) := by
  simp only [advance, active, hrange, Bool.not_true, Bool.false_eq_true, if_false, if_true]

end Sweep

end ChannelSurvey

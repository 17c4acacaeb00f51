import ChannelSurvey.Proofs.Interface.Holding

/-!
# The baseline of a sweep

`Interface.noises` lists every noise floor an interface knows: those of its samples, channel by channel, and the one
on record.

**The law** (`baseline_eq_some`): the baseline is the lowest of them. So no sample lies below it, whether or not the
noise floor on record agrees with the samples, and where it does, it is the baseline (`baseline_of_recorded`). How far
a sample lies above it fits a byte (`gain_range`), and four bytes take the difference of any two noise floors
(`toInt_sub_toInt32`).
-/

/-- Four bytes take the difference of any two numbers of one byte. -/
theorem Int8.toInt_sub_toInt32 (a b : Int8) : (a.toInt32 - b.toInt32).toInt = a.toInt - b.toInt := by
  have ha := a.le_toInt
  have ha' := a.toInt_lt
  have hb := b.le_toInt
  have hb' := b.toInt_lt
  rw [Int32.toInt_sub, toInt_toInt32, toInt_toInt32]
  apply Int.bmod_eq_of_le <;> omega

namespace ChannelSurvey.Interface

/-- Every noise floor an interface knows. -/
def noises (i : Interface) : List Int8 :=
  (i.channels.flatMap fun c => c.samples.toList.map (·.noise)) ++ i.quietest.toList

theorem mem_noises {i : Interface} {noise : Int8} :
    noise ∈ i.noises ↔
      (∃ c ∈ i.channels, ∃ s ∈ c.samples.toList, s.noise = noise) ∨ i.quietest = some noise := by
  simp only [noises, List.mem_append, List.mem_flatMap, List.mem_map, Option.mem_toList]

theorem noise_mem_noises {i : Interface} {c : Channel} {s : Sample} (hc : c ∈ i.channels)
    (hs : s ∈ c.samples.toList) : s.noise ∈ i.noises :=
  mem_noises.mpr (.inl ⟨c, hc, s, hs, rfl⟩)

theorem baseline_eq_none {i : Interface} : i.baseline = none ↔ i.noises = [] :=
  List.min?_eq_none_iff

/-- **The baseline** is the lowest noise floor the interface knows. -/
theorem baseline_eq_some {i : Interface} {baseline : Int8} :
    i.baseline = some baseline ↔ baseline ∈ i.noises ∧ ∀ noise ∈ i.noises, baseline ≤ noise :=
  List.min?_eq_some_iff

/-- Where the noise floor on record is the lowest of samples that include all that are held, it is the baseline. -/
theorem baseline_of_recorded {i : Interface} {all : List Sample} (record : i.quietest = lowestNoise all)
    (held : ∀ c ∈ i.channels, ∀ s ∈ c.samples.toList, s ∈ all) : i.baseline = lowestNoise all := by
  cases hlowest : lowestNoise all with
  | none =>
    rw [baseline_eq_none]
    refine List.eq_nil_iff_forall_not_mem.mpr fun noise hnoise => ?_
    rcases mem_noises.mp hnoise with ⟨c, hc, s, hs, _⟩ | hrecord
    · have hall := held c hc s hs
      rw [lowestNoise_eq_none.mp hlowest] at hall
      cases hall
    · rw [record, hlowest] at hrecord
      cases hrecord
  | some lowest =>
    rw [baseline_eq_some]
    refine ⟨mem_noises.mpr (.inr (record.trans hlowest)), fun noise hnoise => ?_⟩
    rcases mem_noises.mp hnoise with ⟨c, hc, s, hs, rfl⟩ | hrecord
    · exact (List.min?_eq_some_iff.mp hlowest).2 _ (List.mem_map_of_mem (held c hc s hs))
    · rw [record, hlowest] at hrecord
      cases hrecord
      exact Int8.le_refl _

/-- **No sample lies below the baseline**, and none further above it than the noise floors reach. -/
theorem gain_range {i : Interface} {baseline : Int8} (known : i.baseline = some baseline) {c : Channel} {s : Sample}
    (hc : c ∈ i.channels) (hs : s ∈ c.samples.toList) :
    0 ≤ s.noise.toInt - baseline.toInt ∧ s.noise.toInt - baseline.toInt ≤ 255 := by
  have hlow := Int8.le_iff_toInt_le.mp ((baseline_eq_some.mp known).2 s.noise (noise_mem_noises hc hs))
  have hbottom := baseline.le_toInt
  have htop := s.noise.toInt_lt
  omega

end ChannelSurvey.Interface

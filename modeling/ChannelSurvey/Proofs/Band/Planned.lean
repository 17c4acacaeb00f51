import ChannelSurvey.Scenario

/-!
# Bands, their plans and the channels of a scenario

A band gives each of its numbers a frequency of its own (`Band.frequency?_inj`). Its plan has some of the numbers, by
ascending frequency. The channels of a scenario are those of the plan: disabling by number leaves everything else about
a channel alone (`map_disableListed`).
-/

namespace ChannelSurvey

/-! ## Numbers and frequencies -/

namespace Band

variable {band : Band} {n m : UInt8} {freq : UInt32}

/-- Five megahertz for each number, without overflow. -/
theorem toNat_center (base : UInt32) (low : base.toNat ≤ 5000) (n : UInt8) :
    (base + 5 * n.toUInt32).toNat = base.toNat + 5 * n.toNat := by
  have hn := n.toNat_lt
  have hfive : (5 : UInt32).toNat = 5 := rfl
  rw [UInt32.toNat_add, UInt32.toNat_mul, UInt8.toNat_toUInt32, hfive]
  omega

/-- The numbers of a band and their frequencies, in whole numbers. -/
theorem toNat_frequency (h : band.frequency? n = some freq) :
    (band = .ghz24 ∧ 1 ≤ n.toNat ∧ n.toNat ≤ 14 ∧
      freq.toNat = if n.toNat = 14 then 2484 else 2407 + 5 * n.toNat) ∨
    (band = .ghz5 ∧ 36 ≤ n.toNat ∧ n.toNat ≤ 177 ∧ freq.toNat = 5000 + 5 * n.toNat) := by
  cases band with
  | ghz24 =>
    refine .inl ⟨rfl, ?_⟩
    rw [frequency?] at h
    split at h
    · rename_i range
      obtain rfl := Option.some.inj h
      have hlow : 1 ≤ n.toNat := UInt8.le_iff_toNat_le.mp range.1
      have hhigh : n.toNat ≤ 13 := UInt8.le_iff_toNat_le.mp range.2
      rw [if_neg (by omega)]
      exact ⟨hlow, by omega, toNat_center 2407 (by decide) n⟩
    · split at h
      · rename_i last
        obtain rfl := Option.some.inj h
        subst last
        decide
      · cases h
  | ghz5 =>
    refine .inr ⟨rfl, ?_⟩
    rw [frequency?] at h
    split at h
    · rename_i range
      obtain rfl := Option.some.inj h
      exact ⟨UInt8.le_iff_toNat_le.mp range.1, UInt8.le_iff_toNat_le.mp range.2, toNat_center 5000 (by decide) n⟩
    · cases h

/-- **No two numbers have one frequency.** -/
theorem frequency?_inj (hn : band.frequency? n = some freq) (hm : band.frequency? m = some freq) : n = m := by
  refine UInt8.toNat_inj.mp ?_
  rcases toNat_frequency hn with ⟨rfl, hlow, hhigh, hfreq⟩ | ⟨rfl, hlow, hhigh, hfreq⟩
  · rcases toNat_frequency hm with ⟨-, hlow', hhigh', hfreq'⟩ | ⟨hband, -⟩
    · split at hfreq <;> split at hfreq' <;> omega
    · cases hband
  · rcases toNat_frequency hm with ⟨hband, -⟩ | ⟨-, hlow', hhigh', hfreq'⟩
    · cases hband
    · omega

/-- The numbers a band has. -/
def Defines : Band → UInt8 → Prop
  | ghz24, n => 1 ≤ n ∧ n ≤ 14
  | ghz5, n => 36 ≤ n ∧ n ≤ 177

/-- **A band has a frequency for the numbers it has**, and for no other. -/
theorem isSome_frequency? : (band.frequency? n).isSome = true ↔ band.Defines n := by
  constructor
  · intro h
    obtain ⟨freq, hfreq⟩ := Option.isSome_iff_exists.mp h
    rcases toNat_frequency hfreq with ⟨rfl, hlow, hhigh, -⟩ | ⟨rfl, hlow, hhigh, -⟩
    · exact ⟨UInt8.le_iff_toNat_le.mpr hlow, UInt8.le_iff_toNat_le.mpr hhigh⟩
    · exact ⟨UInt8.le_iff_toNat_le.mpr hlow, UInt8.le_iff_toNat_le.mpr hhigh⟩
  · intro h
    cases band with
    | ghz24 =>
      rw [frequency?]
      split
      · rfl
      · rename_i range
        have hlow : 1 ≤ n.toNat := UInt8.le_iff_toNat_le.mp h.1
        have hhigh : n.toNat ≤ 14 := UInt8.le_iff_toNat_le.mp h.2
        have hrange : ¬ (1 ≤ n.toNat ∧ n.toNat ≤ 13) := fun hin =>
          range ⟨UInt8.le_iff_toNat_le.mpr hin.1, UInt8.le_iff_toNat_le.mpr hin.2⟩
        have hlast : n.toNat = 14 := by omega
        rw [if_pos (UInt8.toNat_inj.mp hlast)]
        rfl
    | ghz5 =>
      rw [frequency?, if_pos (show 36 ≤ n ∧ n ≤ 177 from h)]
      rfl

/-- In the lower band the plan has every number. -/
theorem mem_planNumbers_ghz24 (h : ghz24.Defines n) : n ∈ ghz24.planNumbers := by
  have hall : ∀ k < 15, 1 ≤ k → UInt8.ofNat k ∈ ghz24.planNumbers := by decide
  obtain ⟨hlow, hhigh⟩ := h
  have hmem := hall n.toNat (Nat.lt_succ_of_le (UInt8.le_iff_toNat_le.mp hhigh)) (UInt8.le_iff_toNat_le.mp hlow)
  rwa [UInt8.ofNat_toNat] at hmem

theorem numbers_plan (band : Band) : band.plan.map (·.number) = band.planNumbers := by
  cases band <;> decide

theorem ascending_plan (band : Band) : (band.plan.map (·.freq)).Pairwise (· < ·) := by
  cases band <;> decide

/-- What a plan says of each of its channels. -/
theorem of_mem_plan {c : Channel} (hc : c ∈ band.plan) :
    band.frequency? c.number = some c.freq ∧ c.disabled = band.startsDisabled c.number := by
  obtain ⟨number, -, hmade⟩ := List.mem_filterMap.mp hc
  obtain ⟨freq, hfreq, rfl⟩ := Option.map_eq_some_iff.mp hmade
  exact ⟨hfreq, rfl⟩

theorem number_mem_planNumbers {c : Channel} (hc : c ∈ band.plan) : c.number ∈ band.planNumbers := by
  rw [← numbers_plan]
  exact List.mem_map_of_mem hc

end Band

/-! ## The channels of a scenario -/

/-- A channel, disabled if its number is listed. -/
theorem mem_disableListed {numbers : List UInt8} {channels : List Channel} {c : Channel} :
    c ∈ disableListed numbers channels ↔
      ∃ d ∈ channels, c = { d with disabled := d.disabled || numbers.contains d.number } := by
  rw [disableListed, List.mem_map]
  refine exists_congr fun d => and_congr_right fun _ => ?_
  cases hlisted : numbers.contains d.number with
  | false => rw [if_neg Bool.false_ne_true, Bool.or_false, eq_comm]
  | true => rw [if_pos rfl, Bool.or_true, eq_comm]

theorem map_disableListed {β : Type} {f : Channel → β} (same : ∀ c b, f { c with disabled := b } = f c)
    (numbers : List UInt8) (channels : List Channel) : (disableListed numbers channels).map f = channels.map f := by
  rw [disableListed, List.map_map]
  refine List.map_congr_left fun c _ => ?_
  simp only [Function.comp_apply]
  split
  · exact same c true
  · rfl

namespace Scenario

variable {s : Scenario} {c : Channel}

theorem numbers_channels (s : Scenario) : s.channels.map (·.number) = s.band.planNumbers := by
  rw [channels, map_disableListed fun _ _ => rfl, Band.numbers_plan]

theorem freqs_channels (s : Scenario) : s.channels.map (·.freq) = s.band.plan.map (·.freq) :=
  map_disableListed (fun _ _ => rfl) _ _

theorem frequency?_of_mem_channels (hc : c ∈ s.channels) : s.band.frequency? c.number = some c.freq := by
  obtain ⟨d, hd, rfl⟩ := mem_disableListed.mp hc
  exact (Band.of_mem_plan hd).1

/-- **What disables a channel**: the plan or the list. -/
theorem disabled_iff (hc : c ∈ s.channels) :
    c.disabled = true ↔ s.band.startsDisabled c.number = true ∨ c.number ∈ s.disabled := by
  obtain ⟨d, hd, rfl⟩ := mem_disableListed.mp hc
  show (d.disabled || s.disabled.contains d.number) = true ↔ _
  rw [Bool.or_eq_true, List.contains_iff_mem, (Band.of_mem_plan hd).2]

end Scenario

end ChannelSurvey

import ChannelSurvey.Proofs.Score.Baseline
import ChannelSurvey.Proofs.Selection.Reading

/-!
# Noise floors count relative to each other

`Interface.raised` adds the same number of dB to every noise floor an interface knows: to those of its samples, in
disabled channels too, and to the one on record. The minima of single channels stay.

**The law** (`selection_raised`): as long as no noise floor leaves its range, the same position is named and every
channel has the same score.

The baseline is raised with the noise floors (`baseline_raised`), since it is the lowest of all that were raised and
nothing else. A sample lies as far above it as before, and this distance is all that a factor reads of a noise floor.
-/

namespace ChannelSurvey

/-- A noise floor raised by `d` dB. -/
def raise (d : Int) (noise : Int8) : Int8 :=
  .ofInt (noise.toInt + d)

/-- The noise floor stays in its range when it is raised by `d` dB. -/
def Raisable (d : Int) (noise : Int8) : Prop :=
  -128 ≤ noise.toInt + d ∧ noise.toInt + d ≤ 127

instance (d : Int) (noise : Int8) : Decidable (Raisable d noise) :=
  inferInstanceAs (Decidable (_ ∧ _))

/-- A noise floor that stays in range is raised by the whole amount. -/
theorem toInt_raise {d : Int} {noise : Int8} (h : Raisable d noise) : (raise d noise).toInt = noise.toInt + d :=
  Int8.toInt_ofInt_of_le h.1 (Int.lt_add_one_of_le h.2)

theorem raise_le_raise {d : Int} {a b : Int8} (ha : Raisable d a) (hb : Raisable d b) (h : a ≤ b) :
    raise d a ≤ raise d b := by
  rw [Int8.le_iff_toInt_le] at h ⊢
  rw [toInt_raise ha, toInt_raise hb]
  omega

def Sample.raised (d : Int) (s : Sample) : Sample :=
  { s with noise := raise d s.noise }

/-- A channel whose samples are raised. Its own minimum stays. -/
def Channel.raised (d : Int) (c : Channel) : Channel :=
  { c with samples := c.samples.map (·.raised d) }

@[simp] theorem Channel.isUsable_raised (d : Int) (c : Channel) : (c.raised d).isUsable = c.isUsable := by
  have hstocked : (c.raised d).samples.isEmpty = c.samples.isEmpty := by
    rw [Array.isEmpty, raised, Array.size_map]
    rfl
  rw [isUsable, hstocked]
  rfl

/-- **An interface with every noise floor it knows raised** by `d` dB. -/
def Interface.raised (d : Int) (i : Interface) : Interface :=
  { i with
    channels := i.channels.map (·.raised d)
    quietest := i.quietest.map (raise d) }

namespace Interface

variable {i : Interface} {d : Int}

/-- The noise floors of a raised interface are the raised ones. -/
theorem noises_raised (d : Int) (i : Interface) : (i.raised d).noises = i.noises.map (raise d) := by
  simp only [noises, raised, Channel.raised, Sample.raised, List.map_append, List.map_flatMap, List.flatMap_map,
    Array.toList_map, List.map_map, Option.toList_map, Function.comp_def]

/-- **The baseline is raised with the noise floors.** -/
theorem baseline_raised (fits : ∀ noise ∈ i.noises, Raisable d noise) :
    (i.raised d).baseline = i.baseline.map (raise d) := by
  cases known : i.baseline with
  | none => rw [Option.map_none, baseline_eq_none, noises_raised, baseline_eq_none.mp known, List.map_nil]
  | some b =>
    obtain ⟨hb, hlow⟩ := baseline_eq_some.mp known
    rw [Option.map_some, baseline_eq_some, noises_raised]
    refine ⟨List.mem_map_of_mem hb, fun noise hnoise => ?_⟩
    obtain ⟨n, hn, rfl⟩ := List.mem_map.mp hnoise
    exact raise_le_raise (fits b hb) (fits n hn) (hlow n hn)

end Interface

section

variable [BinaryLog] {d : Int} {b : Int8}

/-- Raised together with the baseline, a sample keeps its factor. -/
theorem Sample.factor_raised {s : Sample} (hb : Raisable d b) (hs : Raisable d s.noise) :
    (s.raised d).factor (raise d b) = s.factor b := by
  have hratio : (s.raised d).ratio (raise d b) = s.ratio b := by
    have hgain : (raise d s.noise).toInt - (raise d b).toInt = s.noise.toInt - b.toInt := by
      rw [toInt_raise hs, toInt_raise hb]
      omega
    rw [ratio, raised, hgain]
    rfl
  rw [factor, hratio]
  rfl

theorem Channel.rating_raised {c : Channel} (hb : Raisable d b) (hc : ∀ s ∈ c.samples.toList, Raisable d s.noise) :
    (c.raised d).rating (raise d b) = c.rating b := by
  have hfactors : (c.raised d).factors (raise d b) = c.factors b := by
    rw [factors, raised, Array.toList_map, List.filterMap_map]
    exact List.filterMap_congr fun s hs => Sample.factor_raised hb (hc s hs)
  rw [← mean_factors, hfactors, mean_factors]

namespace Interface

variable {i : Interface}

/-- Against a baseline every channel keeps its rating. -/
theorem rating_raised (fits : ∀ noise ∈ i.noises, Raisable d noise) (known : i.baseline = some b) {c : Channel}
    (hc : c ∈ i.channels) : (c.raised d).rating (raise d b) = c.rating b :=
  Channel.rating_raised (fits b (baseline_eq_some.mp known).1) fun _ hs => fits _ (noise_mem_noises hc hs)

/-- The choice does not see how high the floors are. -/
theorem ideal_raised (fits : ∀ noise ∈ i.noises, Raisable d noise) :
    (i.raised d).select.ideal = i.select.ideal :=
  ideal_map rfl (fun c _ => c.isUsable_raised d) (baseline_raised fits) fun _ known _ => rating_raised fits known

/-- Raising the noise floors of a scored interface is scoring the raised one. -/
theorem select_raised (fits : ∀ noise ∈ i.noises, Raisable d noise) :
    (i.raised d).select.iface = i.select.iface.raised d := by
  have hbaseline := baseline_raised fits
  cases known : i.baseline with
  | none =>
    rw [known] at hbaseline
    rw [select_without_baseline known, select_without_baseline hbaseline]
  | some b =>
    rw [known] at hbaseline
    rw [select_of_baseline known, select_of_baseline hbaseline, assessed_eq, assessed_eq]
    simp only [raised, List.map_map]
    congr 1
    refine List.map_congr_left fun c hc => ?_
    simp only [Function.comp_apply, Channel.isUsable_raised, rating_raised fits known hc]
    split <;> rfl

/-- **Only the distances between noise floors count.** Raised by the same number of dB, as long as all stay in range,
they have the same position named, and every channel has the same score. Raised or not, and whether or not the noise
floor on record is that of a sample, every sample lies between 0 and 255 dB above the baseline, and four bytes take
the difference. -/
theorem selection_raised (i : Interface) (d : Int) (fits : ∀ noise ∈ i.noises, Raisable d noise) :
    (i.raised d).select.ideal = i.select.ideal ∧
    (i.raised d).select.iface.channels.map (·.score) = i.select.iface.channels.map (·.score) ∧
    ∀ j, j = i ∨ j = i.raised d → ∀ baseline, j.baseline = some baseline →
      ∀ c ∈ j.channels, ∀ s ∈ c.samples.toList,
        (0 ≤ s.noise.toInt - baseline.toInt ∧ s.noise.toInt - baseline.toInt ≤ 255) ∧
          (s.noise.toInt32 - baseline.toInt32).toInt = s.noise.toInt - baseline.toInt := by
  refine ⟨ideal_raised fits, ?_, fun j _ baseline known c hc s hs => ⟨gain_range known hc hs, ?_⟩⟩
  · rw [select_raised fits, raised, List.map_map]
    rfl
  · exact Int8.toInt_sub_toInt32 s.noise baseline

end Interface

end

/-- A disabled channel holds the quietest sample, 20 dB below the noise floor on record, and is raised with the rest.
The logarithm is exact on the two ratios that come up, 2 and 32. -/
theorem Interface.selection_raised_disabled :
    let _ : BinaryLog := ⟨fun x => if x ≤ 2 then 1 else 5⟩
    let heard (noise : Int8) : Sample := { total := 5000, busy := 5000, own := 0, noise }
    let i : Interface :=
      { channels :=
          [{ number := 1, freq := 2412, disabled := true, count := 1, samples := #[heard (-120)], score := some 0.5 },
            { number := 6, freq := 2437, count := 1, samples := #[heard (-115)] },
            { number := 11, freq := 2462, count := 2, samples := #[heard (-115), heard (-119)] }]
        offChannelCapable := true, settings := {}, quietest := some (-100) }
    (∀ noise ∈ i.noises, Raisable 227 noise) ∧
      i.baseline = some (-120) ∧ (i.raised 227).baseline = some 107 ∧ (i.raised 227).select.ideal = some 2 ∧
      (i.raised 227).select.iface.channels.map (·.score) = [some 0.5, some 5.0, some 3.0] := by
  intro log heard i
  have hfits : ∀ noise ∈ i.noises, Raisable 227 noise := by decide +kernel
  have hideal : i.select.ideal = some 2 := by decide +kernel
  have hscores : i.select.iface.channels.map (·.score) = [some 0.5, some 5.0, some 3.0] := by decide +kernel
  obtain ⟨hsame, hkept, _⟩ := selection_raised i 227 hfits
  exact ⟨hfits, by decide, by decide +kernel, hsame.trans hideal, hkept.trans hscores⟩

end ChannelSurvey

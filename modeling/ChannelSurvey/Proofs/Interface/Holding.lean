import ChannelSurvey.Proofs.Interface.Clearing

/-!
# What an interface holds

Storing samples one by one keeps four accounts of them: the samples themselves, channel by channel, their
number, the lowest noise floor of a channel and of the interface, and the number of channels that have
any. `Holds` says that these accounts agree with the samples each channel was given, `held`, and with all
samples given, `all`.

**The law** (`holds_recordAll`): storing samples for a channel of the list adds them to what that channel
holds and to nothing else. Counts are 32 bits wide; that a channel has samples shows in its count only
while none of them has wrapped, so the number of channels is accounted for under that condition.
-/

namespace ChannelSurvey

/-- The lowest noise floor among samples. -/
def lowestNoise (samples : List Sample) : Option Int8 :=
  (samples.map (·.noise)).min?

theorem lowestNoise_eq_none {samples : List Sample} : lowestNoise samples = none ↔ samples = [] := by
  rw [lowestNoise, List.min?_eq_none_iff, List.map_eq_nil_iff]

/-- A sample more can only lower the lowest noise floor. -/
theorem lowestNoise_concat (samples : List Sample) (s : Sample) :
    lowestNoise (samples ++ [s]) = some (quieter (lowestNoise samples) s.noise) := by
  rw [lowestNoise, lowestNoise]
  cases samples with
  | nil => rfl
  | cons first rest =>
    rw [List.map_append, List.map_cons, List.cons_append, List.min?_cons', List.foldl_append, List.min?_cons']
    rfl

/-- A channel holds these samples: they are stored in this order, counted, and their lowest noise floor is
on record. -/
structure Channel.Holds (c : Channel) (samples : List Sample) : Prop where
  stored : c.samples.toList = samples
  count : c.count = UInt32.ofNat samples.length
  quietest : c.quietest = lowestNoise samples

/-- A cleared channel holds nothing. -/
theorem Channel.holds_clear (c : Channel) : c.clear.Holds [] :=
  ⟨rfl, rfl, rfl⟩

/-- A channel holds what it is given, behind what it holds already. -/
theorem Channel.holds_record {c : Channel} {samples : List Sample} (h : c.Holds samples) (s : Sample) :
    (c.record s).Holds (samples ++ [s]) := by
  constructor
  · rw [record, Array.toList_push, h.stored]
  · rw [record, h.count, List.length_append, UInt32.ofNat_add]
    rfl
  · rw [record, h.quietest, lowestNoise_concat]

/-- While the count has not wrapped it is the number of samples. -/
theorem Channel.Holds.toNat_count {c : Channel} {samples : List Sample} (h : c.Holds samples)
    (few : samples.length < UInt32.size) : c.count.toNat = samples.length := by
  rw [h.count]
  exact UInt32.toNat_ofNat_of_lt few

/-- Short of wrapping around, a count of zero means that nothing is held. -/
theorem Channel.Holds.count_eq_zero {c : Channel} {samples : List Sample} (h : c.Holds samples)
    (few : samples.length < UInt32.size) : c.count = 0 ↔ samples = [] := by
  rw [← UInt32.toNat_inj, h.toNat_count few]
  exact List.length_eq_zero_iff

/-- Scoring a channel leaves what it holds alone. -/
theorem Channel.holds_assess [BinaryLog] {c : Channel} {samples : List Sample} (h : c.Holds samples)
    (baseline : Int8) : (c.assess baseline).Holds samples := by
  unfold assess
  split
  · exact h
  · exact ⟨h.stored, h.count, h.quietest⟩

/-- The channel has samples. -/
def Channel.isStocked (c : Channel) : Bool :=
  !c.samples.isEmpty

theorem Channel.isStocked_record (c : Channel) (s : Sample) : (c.record s).isStocked = true := by
  simp only [isStocked, record, Array.isEmpty_push, Bool.not_false]

/-- A channel that is not stocked holds nothing. -/
theorem Channel.Holds.isStocked_eq_false {c : Channel} {samples : List Sample} (h : c.Holds samples) :
    c.isStocked = false ↔ samples = [] := by
  rw [isStocked, Bool.not_eq_false', Array.isEmpty_iff, ← Array.toList_eq_nil_iff, h.stored]

/-- While the count has not wrapped, a channel has samples exactly when its count is not zero. -/
theorem Channel.Holds.isStocked_iff {c : Channel} {samples : List Sample} (h : c.Holds samples)
    (few : samples.length < UInt32.size) : c.isStocked = true ↔ ¬ c.count = 0 := by
  rw [h.count_eq_zero few, ← h.isStocked_eq_false, Bool.not_eq_false]

theorem Channel.isStocked_assess [BinaryLog] (c : Channel) (baseline : Int8) :
    (c.assess baseline).isStocked = c.isStocked := by
  unfold assess
  split <;> rfl

namespace Interface

/-- **What an interface holds**: each channel what was given for it, the interface what was given at all. -/
structure Holds (i : Interface) (held : Nat → List Sample) (all : List Sample) : Prop where
  channel : ∀ index (c : Channel), i.channels[index]? = some c → c.Holds (held index)
  quietest : i.quietest = lowestNoise all
  /-- While no count has wrapped, the channels that have samples are counted. -/
  surveyed : (∀ index, (held index).length < UInt32.size) → i.surveyed = i.channels.countP (·.isStocked)

/-- Given samples are added to what one channel holds. -/
def give (held : Nat → List Sample) (index : Nat) (samples : List Sample) (k : Nat) : List Sample :=
  if index = k then held k ++ samples else held k

theorem length_le_give (held : Nat → List Sample) (index : Nat) (samples : List Sample) (k : Nat) :
    (held k).length ≤ (give held index samples k).length := by
  unfold give
  split
  · rw [List.length_append]
    exact Nat.le_add_right _ _
  · exact Nat.le_refl _

/-- On a cleared interface no channel has samples. -/
theorem countP_isStocked_clear (i : Interface) : i.clear.channels.countP (·.isStocked) = 0 := by
  rw [List.countP_eq_zero]
  intro c hc
  obtain ⟨d, _, rfl⟩ := List.mem_map.mp hc
  exact Bool.false_ne_true

/-- A cleared interface holds nothing for any channel. -/
theorem holds_clear (i : Interface) : i.clear.Holds (fun _ => []) [] := by
  refine ⟨fun index c hc => ?_, rfl, fun _ => i.countP_isStocked_clear.symm⟩
  rw [clear, List.getElem?_map] at hc
  obtain ⟨d, _, rfl⟩ := Option.map_eq_some_iff.mp hc
  exact d.holds_clear

/-- Recording a sample in range gives it to its channel and keeps the accounts of the interface. -/
theorem record_eq {i : Interface} {index : Nat} {c : Channel} (hc : i.channels[index]? = some c) (s : Sample) :
    i.record index s =
      { i with
        channels := i.channels.set index (c.record s)
        surveyed := if c.count = 0 then i.surveyed + 1 else i.surveyed
        quietest := some (quieter i.quietest s.noise) } := by
  simp only [record, hc]

/-- Recording one out of range changes nothing. -/
theorem record_outOfRange {i : Interface} {index : Nat} (range : i.channels.length ≤ index) (s : Sample) :
    i.record index s = i := by
  simp only [record, List.getElem?_eq_none range]

/-- Samples for a channel that is none of the interface's are stored nowhere. -/
theorem recordAll_outOfRange {i : Interface} {index : Nat} (range : i.channels.length ≤ index)
    (samples : List Sample) : i.recordAll index samples = i := by
  induction samples with
  | nil => rfl
  | cons s rest ih =>
    have hskip : i.recordAll index (s :: rest) = (i.record index s).recordAll index rest := rfl
    rw [hskip, record_outOfRange range, ih]

/-- Storing a sample on a channel that has none makes it one more that has some. -/
theorem countP_isStocked_set {cs : List Channel} {index : Nat} {c d : Channel} (hc : cs[index]? = some c)
    (stocked : d.isStocked = true) :
    (cs.set index d).countP (·.isStocked) =
      if c.isStocked then cs.countP (·.isStocked) else cs.countP (·.isStocked) + 1 := by
  obtain ⟨hlt, rfl⟩ := List.getElem?_eq_some_iff.mp hc
  rw [List.countP_set hlt, if_pos stocked]
  split
  · rename_i some
    have hpos : 0 < cs.countP (·.isStocked) := List.countP_pos_iff.mpr ⟨_, List.getElem_mem hlt, some⟩
    exact Nat.sub_add_cancel hpos
  · rfl

/-- Storing a sample counts its channel exactly when the channel had none. -/
theorem surveyed_record {i : Interface} {index : Nat} {c : Channel} {samples : List Sample}
    (hc : i.channels[index]? = some c) (h : c.Holds samples) (few : samples.length < UInt32.size) (s : Sample) :
    (i.record index s).surveyed + i.channels.countP (·.isStocked) =
      i.surveyed + (i.record index s).channels.countP (·.isStocked) := by
  rw [record_eq hc, countP_isStocked_set hc (c.isStocked_record s)]
  by_cases hcount : c.count = 0
  · rw [if_pos hcount, if_neg fun hs => (h.isStocked_iff few).mp hs hcount, Nat.add_right_comm, Nat.add_assoc]
  · rw [if_neg hcount, if_pos ((h.isStocked_iff few).mpr hcount)]

/-- Storing a sample adds it to what its channel holds, and to nothing else. -/
theorem channel_record {i : Interface} {held : Nat → List Sample}
    (h : ∀ k (c : Channel), i.channels[k]? = some c → c.Holds (held k)) {index : Nat}
    (range : index < i.channels.length) (s : Sample) (k : Nat) (d : Channel)
    (hd : (i.record index s).channels[k]? = some d) :
    d.Holds (give held index [s] k) := by
  obtain ⟨c, hc⟩ : ∃ c, i.channels[index]? = some c := ⟨_, List.getElem?_eq_getElem range⟩
  rw [record_eq hc] at hd
  unfold give
  by_cases same : index = k
  · subst same
    rw [List.getElem?_set_self range] at hd
    obtain rfl := Option.some.inj hd
    rw [if_pos rfl]
    exact Channel.holds_record (h index c hc) s
  · rw [List.getElem?_set_ne same] at hd
    rw [if_neg same]
    exact h k d hd

/-- **Storing one sample** adds it to what its channel holds. -/
theorem holds_record {i : Interface} {held : Nat → List Sample} {all : List Sample} (h : i.Holds held all)
    {index : Nat} (range : index < i.channels.length) (s : Sample) :
    (i.record index s).Holds (give held index [s]) (all ++ [s]) := by
  obtain ⟨c, hc⟩ : ∃ c, i.channels[index]? = some c := ⟨_, List.getElem?_eq_getElem range⟩
  refine ⟨channel_record h.channel range s, ?_, fun few => ?_⟩
  · rw [lowestNoise_concat, ← h.quietest, record_eq hc]
  · have hfew : ∀ k, (held k).length < UInt32.size := fun k =>
      Nat.lt_of_le_of_lt (length_le_give held index [s] k) (few k)
    have hsurveyed := surveyed_record hc (h.channel index c hc) (hfew index) s
    rw [h.surveyed hfew, Nat.add_comm] at hsurveyed
    exact Nat.add_left_cancel hsurveyed

/-- What is given in two parts is given as a whole. -/
theorem give_give (held : Nat → List Sample) (index : Nat) (samples more : List Sample) :
    give (give held index samples) index more = give held index (samples ++ more) := by
  funext k
  unfold give
  split <;> simp only [List.append_assoc]

/-- **Storing samples** adds them, in their order, to what their channel holds. -/
theorem holds_recordAll {i : Interface} {held : Nat → List Sample} {all : List Sample} (h : i.Holds held all)
    {index : Nat} (range : index < i.channels.length) (samples : List Sample) :
    (i.recordAll index samples).Holds (give held index samples) (all ++ samples) := by
  induction samples generalizing i held all with
  | nil =>
    have hnone : give held index [] = held := by
      funext k
      simp only [give, List.append_nil, ite_self]
    rw [hnone, List.append_nil]
    exact h
  | cons s rest ih =>
    have hlength := length_recordAll i index [s]
    have hrest := ih (holds_record h range s) (hlength.symm ▸ range)
    rw [give_give, List.append_assoc] at hrest
    exact hrest

/-- The counters of the walk and the operating channel are no account of samples. -/
theorem Holds.congr {i j : Interface} {held : Nat → List Sample} {all : List Sample} (h : i.Holds held all)
    (channels : j.channels = i.channels) (quietest : j.quietest = i.quietest)
    (surveyed : j.surveyed = i.surveyed) : j.Holds held all :=
  ⟨channels ▸ h.channel, quietest.trans h.quietest, fun few => by rw [surveyed, channels, h.surveyed few]⟩

variable [BinaryLog]

/-- Scoring the channels leaves what they hold alone. -/
theorem holds_select {i : Interface} {held : Nat → List Sample} {all : List Sample} (h : i.Holds held all) :
    i.select.iface.Holds held all := by
  unfold select
  split
  · exact h
  · rename_i baseline hbaseline
    refine ⟨fun index c hc => ?_, h.quietest, fun few => ?_⟩
    · simp only [assessed, List.getElem?_map, Option.map_eq_some_iff] at hc
      obtain ⟨d, hd, rfl⟩ := hc
      split
      · exact Channel.holds_assess (h.channel index d hd) baseline
      · exact h.channel index d hd
    · rw [assessed, List.countP_map]
      refine (h.surveyed few).trans (List.countP_congr fun c _ => ?_)
      simp only [Function.comp_apply]
      split
      · rw [Channel.isStocked_assess]
      · rfl

end Interface

end ChannelSurvey

import ChannelSurvey.Proofs.Score.Baseline
import Mathlib.Data.List.DropRight

/-!
# The sample store

The survey data of an interface is edited in three ways: a sample is recorded for a channel, one channel is cleared,
or all of them are. The samples are what is stored; counts and minima are folded in beside them as samples come. Of
any list of edits, `keptFor` reads off the samples recorded for one channel since it was last cleared, and `recorded`
those recorded for any channel since all were.

**The law** (`store_of_edits`): after any edits every channel holds what is kept for it, counted and with its lowest
noise floor, and the lowest noise floor of the interface is that of everything recorded, which is also its baseline.
The channels that hold samples are counted at least once each; they are counted exactly unless samples were withdrawn
(`Withdrawn`), that is, unless one channel was cleared by itself while it held some.

Clearing one channel leaves the accounts of the interface alone. So the number of channels that is kept and the true
one are not equal along a run; what recording a sample never changes is their difference (`surveyed_record`).
-/

namespace ChannelSurvey

/-- What can be done to the survey data of an interface. -/
inductive Edit where
  | record (index : Nat) (s : Sample)
  | clearChannel (index : Nat)
  | clear
  deriving DecidableEq

namespace Edit

/-- The edit clears the channel at `index`, alone or with all others. -/
def clears (index : Nat) : Edit → Bool
  | record .. => false
  | clearChannel k => k == index
  | clear => true

/-- The sample that is recorded for a position with `p`. -/
def sample? (p : Nat → Bool) : Edit → Option Sample
  | record k s => if p k then some s else none
  | clearChannel _ | clear => none

end Edit

/-- The samples recorded for the channel at `index` since it was last cleared, in order. -/
def keptFor (index : Nat) (edits : List Edit) : List Sample :=
  (edits.rtakeWhile fun e => !e.clears index).filterMap (·.sample? (· == index))

/-- The samples recorded for any of so many channels since all of them were last cleared, in order. -/
def recorded (channels : Nat) (edits : List Edit) : List Sample :=
  (edits.rtakeWhile fun e => e != .clear).filterMap (·.sample? (· < channels))

/-- **Samples were withdrawn**: a channel was cleared by itself while it held some, and since then the channels were
not all cleared. -/
def Withdrawn (channels : Nat) (edits : List Edit) : Prop :=
  ∃ before index after, edits = before ++ .clearChannel index :: after ∧ .clear ∉ after ∧ index < channels ∧
    keptFor index before ≠ []

/-! ## One more edit -/

section

variable (index k channels : Nat) (s : Sample) (edits : List Edit)

@[simp] theorem keptFor_nil : keptFor k [] = [] := rfl

@[simp] theorem recorded_nil : recorded channels [] = [] := rfl

/-- An addition is kept for its own channel, behind what is kept already. -/
theorem keptFor_record : keptFor k (edits ++ [.record index s]) = Interface.give (keptFor · edits) index [s] k := by
  rw [keptFor, List.rtakeWhile_concat_pos _ _ _ rfl, List.filterMap_append, Interface.give]
  by_cases same : index = k
  · simp [Edit.sample?, same, keptFor]
  · simp [Edit.sample?, same, keptFor]

/-- Clearing a channel forgets what is kept for it. -/
theorem keptFor_clearChannel :
    keptFor k (edits ++ [.clearChannel index]) = if index = k then [] else keptFor k edits := by
  by_cases same : index = k
  · rw [if_pos same, keptFor, List.rtakeWhile_concat_neg _ _ _ (by simp [Edit.clears, same])]
    rfl
  · rw [if_neg same, keptFor, List.rtakeWhile_concat_pos _ _ _ (by simp [Edit.clears, same]), List.filterMap_append]
    exact List.append_nil _

/-- Clearing the interface forgets everything. -/
theorem keptFor_clear : keptFor k (edits ++ [.clear]) = [] := by
  rw [keptFor, List.rtakeWhile_concat_neg _ _ _ (by simp [Edit.clears])]
  rfl

/-- Only an addition in range is recorded. -/
theorem recorded_record :
    recorded channels (edits ++ [.record index s]) =
      if index < channels then recorded channels edits ++ [s] else recorded channels edits := by
  rw [recorded, List.rtakeWhile_concat_pos _ _ _ rfl, List.filterMap_append]
  by_cases range : index < channels
  · simp [Edit.sample?, range, recorded]
  · simp [Edit.sample?, range, recorded]

/-- Clearing one channel leaves what was recorded. -/
theorem recorded_clearChannel : recorded channels (edits ++ [.clearChannel index]) = recorded channels edits := by
  rw [recorded, List.rtakeWhile_concat_pos _ _ _ rfl, List.filterMap_append]
  exact List.append_nil _

/-- Clearing the interface starts the record again. -/
theorem recorded_clear : recorded channels (edits ++ [.clear]) = [] := by
  rw [recorded, List.rtakeWhile_concat_neg _ _ _ (by simp)]
  rfl

end

/-- What is kept for a channel is part of what is recorded. -/
theorem mem_recorded_of_mem_keptFor {channels index : Nat} (range : index < channels) {s : Sample} {edits : List Edit}
    (h : s ∈ keptFor index edits) : s ∈ recorded channels edits := by
  induction edits using List.reverseRecOn with
  | nil => cases h
  | append_singleton before e ih =>
    cases e with
    | record k t =>
      rw [keptFor_record, Interface.give] at h
      rw [recorded_record]
      by_cases same : k = index
      · subst same
        rw [if_pos rfl] at h
        rw [if_pos range]
        rcases List.mem_append.mp h with hold | hnew
        · exact List.mem_append_left _ (ih hold)
        · exact List.mem_append_right _ hnew
      · rw [if_neg same] at h
        split
        · exact List.mem_append_left _ (ih h)
        · exact ih h
    | clearChannel k =>
      rw [keptFor_clearChannel] at h
      rw [recorded_clearChannel]
      split at h
      · cases h
      · exact ih h
    | clear =>
      rw [keptFor_clear] at h
      cases h

/-- Unless everything is cleared, samples that were withdrawn stay withdrawn. -/
theorem Withdrawn.concat {channels : Nat} {edits : List Edit} (h : Withdrawn channels edits) {e : Edit}
    (keeps : e ≠ .clear) : Withdrawn channels (edits ++ [e]) := by
  obtain ⟨before, index, after, rfl, hafter, hrange, hheld⟩ := h
  refine ⟨before, index, after ++ [e], List.append_assoc .., fun hmem => ?_, hrange, hheld⟩
  rcases List.mem_append.mp hmem with hold | hnew
  · exact hafter hold
  · exact keeps (List.mem_singleton.mp hnew).symm

/-- Clearing a channel that holds samples withdraws them. -/
theorem withdrawn_clearChannel {channels index : Nat} {edits : List Edit} (range : index < channels)
    (held : keptFor index edits ≠ []) : Withdrawn channels (edits ++ [.clearChannel index]) :=
  ⟨edits, index, [], rfl, List.not_mem_nil, range, held⟩

namespace Interface

/-- The interface after an edit. -/
def edit (i : Interface) : Edit → Interface
  | .record index s => i.record index s
  | .clearChannel index => i.clearChannel index
  | .clear => i.clear

/-- The interface after edits, one after the other. -/
def editAll (i : Interface) (edits : List Edit) : Interface :=
  edits.foldl edit i

/-- The last edit is made last. -/
theorem editAll_concat (i : Interface) (edits : List Edit) (e : Edit) :
    i.editAll (edits ++ [e]) = (i.editAll edits).edit e :=
  List.foldl_concat ..

/-! ## Recording and clearing one channel -/

/-- There is nothing to clear behind the last channel. -/
theorem clearChannel_outOfRange {i : Interface} {index : Nat} (range : i.channels.length ≤ index) :
    i.clearChannel index = i := by
  rw [clearChannel, List.modify_eq_self range]

/-- Clearing a channel replaces it and touches nothing else. -/
theorem clearChannel_eq {i : Interface} {index : Nat} {c : Channel} (hc : i.channels[index]? = some c) :
    i.clearChannel index = { i with channels := i.channels.set index c.clear } := by
  rw [clearChannel, List.modify_eq_set_getElem?, hc]
  rfl

@[simp] theorem length_record (i : Interface) (index : Nat) (s : Sample) :
    (i.record index s).channels.length = i.channels.length :=
  length_recordAll i index [s]

@[simp] theorem length_edit (i : Interface) (e : Edit) : (i.edit e).channels.length = i.channels.length := by
  cases e with
  | record index s => exact length_record i index s
  | clearChannel index => exact List.length_modify ..
  | clear => exact List.length_map ..

/-- No edit adds or removes a channel. -/
@[simp] theorem length_editAll (i : Interface) (edits : List Edit) :
    (i.editAll edits).channels.length = i.channels.length := by
  induction edits generalizing i with
  | nil => rfl
  | cons e rest ih => exact (ih (i.edit e)).trans (length_edit i e)

/-- Clearing a channel takes it off those that hold samples, if it held any. -/
theorem countP_isStocked_clearChannel {i : Interface} {index : Nat} {c : Channel} (hc : i.channels[index]? = some c) :
    (i.clearChannel index).channels.countP (·.isStocked) =
      if c.isStocked then i.channels.countP (·.isStocked) - 1 else i.channels.countP (·.isStocked) := by
  obtain ⟨hlt, rfl⟩ := List.getElem?_eq_some_iff.mp hc
  have hcleared : i.channels[index].clear.isStocked = false := rfl
  rw [clearChannel_eq hc, List.countP_set hlt, hcleared, if_neg Bool.false_ne_true]
  split <;> rfl

/-! ## The accounts along a run -/

/-- **The accounts of an interface** after these edits. -/
structure Stores (i : Interface) (edits : List Edit) : Prop where
  channel : ∀ index (c : Channel), i.channels[index]? = some c → c.Holds (keptFor index edits)
  quietest : i.quietest = lowestNoise (recorded i.channels.length edits)
  /-- Every channel that holds samples is counted. -/
  counted : i.channels.countP (·.isStocked) ≤ i.surveyed
  exact : ¬ Withdrawn i.channels.length edits → i.surveyed = i.channels.countP (·.isStocked)

variable {i : Interface} {edits : List Edit}

/-- An addition keeps the store in step, as long as the count of its channel does not wrap around. -/
theorem stores_record (h : i.Stores edits) (index : Nat) (s : Sample)
    (few : index < i.channels.length → (keptFor index edits).length < UInt32.size) :
    (i.record index s).Stores (edits ++ [.record index s]) := by
  by_cases range : index < i.channels.length
  · obtain ⟨c, hc⟩ : ∃ c, i.channels[index]? = some c := ⟨_, List.getElem?_eq_getElem range⟩
    have hheld := h.channel index c hc
    have hsurveyed := surveyed_record hc hheld (few range) s
    refine ⟨fun k d hd => ?_, ?_, ?_, fun kept => ?_⟩
    · rw [keptFor_record]
      exact channel_record h.channel range s k d hd
    · rw [length_record, recorded_record, if_pos range, lowestNoise_concat, ← h.quietest, record_eq hc]
    · have hcounted := h.counted
      omega
    · rw [length_record] at kept
      have hexact := h.exact fun hw => kept (hw.concat (by simp))
      omega
  · have hout := Nat.not_lt.mp range
    rw [record_outOfRange hout]
    refine ⟨fun k d hd => ?_, ?_, h.counted, fun kept => h.exact fun hw => kept (hw.concat (by simp))⟩
    · have hk := (List.getElem?_eq_some_iff.mp hd).1
      rw [keptFor_record, give, if_neg (by omega)]
      exact h.channel k d hd
    · rw [recorded_record, if_neg range]
      exact h.quietest

/-- So does clearing a channel. -/
theorem stores_clearChannel (h : i.Stores edits) (index : Nat) :
    (i.clearChannel index).Stores (edits ++ [.clearChannel index]) := by
  by_cases range : index < i.channels.length
  · obtain ⟨c, hc⟩ : ∃ c, i.channels[index]? = some c := ⟨_, List.getElem?_eq_getElem range⟩
    have hheld := h.channel index c hc
    have hstocked := countP_isStocked_clearChannel hc
    have hlength : (i.clearChannel index).channels.length = i.channels.length := length_edit i (.clearChannel index)
    refine ⟨fun k d hd => ?_, ?_, ?_, fun kept => ?_⟩
    · rw [keptFor_clearChannel]
      rw [clearChannel_eq hc] at hd
      by_cases same : index = k
      · subst same
        rw [List.getElem?_set_self range] at hd
        obtain rfl := Option.some.inj hd
        rw [if_pos rfl]
        exact c.holds_clear
      · rw [List.getElem?_set_ne same] at hd
        rw [if_neg same]
        exact h.channel k d hd
    · rw [hlength, recorded_clearChannel]
      exact h.quietest
    · rw [hstocked]
      have hcounted := h.counted
      show _ ≤ i.surveyed
      split <;> omega
    · rw [hlength] at kept
      have hexact := h.exact fun hw => kept (hw.concat (by simp))
      -- nothing was withdrawn, so the channel held nothing
      have hnone : keptFor index edits = [] := Decidable.not_not.mp fun held => kept (withdrawn_clearChannel range held)
      have hbare : c.isStocked = false := hheld.isStocked_eq_false.mpr hnone
      rw [hstocked, hbare, if_neg Bool.false_ne_true]
      exact hexact
  · have hout := Nat.not_lt.mp range
    rw [clearChannel_outOfRange hout]
    refine ⟨fun k d hd => ?_, ?_, h.counted, fun kept => h.exact fun hw => kept (hw.concat (by simp))⟩
    · have hk := (List.getElem?_eq_some_iff.mp hd).1
      rw [keptFor_clearChannel, if_neg (by omega)]
      exact h.channel k d hd
    · rw [recorded_clearChannel]
      exact h.quietest

/-- Clearing the interface brings it in step, whatever was stored before. -/
theorem stores_clear (i : Interface) (edits : List Edit) : i.clear.Stores (edits ++ [.clear]) := by
  refine ⟨fun k d hd => ?_, ?_, ?_, fun _ => ?_⟩
  · rw [clear, List.getElem?_map] at hd
    obtain ⟨c, _, rfl⟩ := Option.map_eq_some_iff.mp hd
    rw [keptFor_clear]
    exact c.holds_clear
  · rw [recorded_clear]
    rfl
  · rw [countP_isStocked_clear]
    exact Nat.zero_le _
  · rw [countP_isStocked_clear]
    rfl

/-- **One more edit** keeps the accounts. -/
theorem stores_edit (h : i.Stores edits) (e : Edit)
    (few : ∀ index < i.channels.length, (keptFor index edits).length < UInt32.size) :
    (i.edit e).Stores (edits ++ [e]) := by
  cases e with
  | record index s => exact stores_record h index s (few index)
  | clearChannel index => exact stores_clearChannel h index
  | clear => exact stores_clear i edits

/-- **An interface stores what its edits leave**, by induction on the edits. -/
theorem stores_editAll (fresh : i.Stores []) (edits : List Edit)
    (few : ∀ before, before <+: edits → ∀ index < i.channels.length, (keptFor index before).length < UInt32.size) :
    (i.editAll edits).Stores edits := by
  induction edits using List.reverseRecOn with
  | nil => exact fresh
  | append_singleton before e ih =>
    have hbefore : before <+: before ++ [e] := List.prefix_append before [e]
    rw [editAll_concat]
    refine stores_edit (ih fun b hb => few b (hb.trans hbefore)) e ?_
    rw [length_editAll]
    exact few before hbefore

/-- Whatever a channel holds was recorded. -/
theorem Stores.mem_recorded (h : i.Stores edits) {c : Channel} (hc : c ∈ i.channels) {s : Sample}
    (hs : s ∈ c.samples.toList) : s ∈ recorded i.channels.length edits := by
  obtain ⟨index, hindex⟩ := List.mem_iff_getElem?.mp hc
  rw [(h.channel index c hindex).stored] at hs
  exact mem_recorded_of_mem_keptFor (List.getElem?_eq_some_iff.mp hindex).1 hs

/-- **The noise floor on record is the baseline**: it is that of a sample recorded, and no sample held is lower. -/
theorem Stores.baseline_eq (h : i.Stores edits) : i.baseline = i.quietest := by
  rw [h.quietest]
  exact baseline_of_recorded h.quietest fun c hc s hs => h.mem_recorded hc hs

/-- With no channel counted, no channel holds anything. -/
theorem Stores.holds_nil (h : i.Stores edits) (none : i.surveyed = 0) : ∀ c ∈ i.channels, c.Holds [] := by
  intro c hc
  obtain ⟨index, hindex⟩ := List.mem_iff_getElem?.mp hc
  have hheld := h.channel index c hindex
  have hnone : i.channels.countP (·.isStocked) = 0 := Nat.le_zero.mp (none ▸ h.counted)
  have hbare : c.isStocked = false := Bool.eq_false_iff.mpr (List.countP_eq_zero.mp hnone c hc)
  rw [← hheld.isStocked_eq_false.mp hbare]
  exact hheld

/-- A new interface stores nothing yet. -/
theorem stores_nil (channels : List Channel) (offChannelCapable : Bool) (settings : Settings)
    (fresh : ∀ c ∈ channels, c.Holds []) : Stores { channels, offChannelCapable, settings } [] := by
  have hnone : channels.countP (·.isStocked) = 0 :=
    List.countP_eq_zero.mpr fun c hc => Bool.eq_false_iff.mp ((fresh c hc).isStocked_eq_false.mpr rfl)
  refine ⟨fun index c hc => fresh c (List.mem_of_getElem? hc), rfl, ?_, fun _ => hnone.symm⟩
  exact Nat.le_of_eq hnone

/-- **The law of the store.** On channels that hold nothing, after any edits along which no channel holds more samples
than its count can tell:

* every channel holds, in order, the samples recorded for it since it was last cleared, their number and their lowest
  noise floor;
* the lowest noise floor of the interface is that of the samples recorded for any channel since all were last
  cleared, and it is the baseline;
* every channel that holds samples is counted, and none is counted besides unless samples were withdrawn, so where
  no channel is counted none holds anything;
* recording a sample for a position without a channel changes nothing. -/
theorem store_of_edits (channels : List Channel) (offChannelCapable : Bool) (settings : Settings)
    (edits : List Edit) (fresh : ∀ c ∈ channels, c.Holds [])
    (few : ∀ before, before <+: edits → ∀ index < channels.length, (keptFor index before).length < UInt32.size) :
    let i := ({ channels, offChannelCapable, settings } : Interface).editAll edits
    i.channels.length = channels.length ∧
    (∀ index (c : Channel), i.channels[index]? = some c →
      c.samples.toList = keptFor index edits ∧ c.count.toNat = (keptFor index edits).length ∧
        c.quietest = lowestNoise (keptFor index edits)) ∧
    (i.quietest = lowestNoise (recorded channels.length edits) ∧ i.baseline = i.quietest) ∧
    (i.channels.countP (·.isStocked) ≤ i.surveyed ∧
      (¬ Withdrawn channels.length edits → i.surveyed = i.channels.countP (·.isStocked)) ∧
      (i.surveyed = 0 → ∀ c ∈ i.channels, c.Holds [])) ∧
    ∀ index s, channels.length ≤ index → i.record index s = i := by
  intro i
  have hlength : i.channels.length = channels.length := length_editAll _ edits
  have hstores : i.Stores edits := stores_editAll (stores_nil channels offChannelCapable settings fresh) edits few
  refine ⟨hlength, fun index c hc => ?_, ⟨?_, hstores.baseline_eq⟩, ⟨hstores.counted, ?_, hstores.holds_nil⟩, ?_⟩
  · have hheld := hstores.channel index c hc
    have hrange : index < channels.length := hlength ▸ (List.getElem?_eq_some_iff.mp hc).1
    exact ⟨hheld.stored, hheld.toNat_count (few edits List.prefix_rfl index hrange), hheld.quietest⟩
  · rw [← hlength]
    exact hstores.quietest
  · rw [← hlength]
    exact hstores.exact
  · intro index s range
    exact record_outOfRange (hlength ▸ range) s

/-- What a channel holds was recorded one edit at a time. -/
theorem length_keptFor_le (index : Nat) (edits : List Edit) : (keptFor index edits).length ≤ edits.length :=
  Nat.le_trans (List.length_filterMap_le ..) (List.rtakeWhile_suffix ..).length_le

/-- After all was cleared, two channels are recorded for, one of them disabled, and the quietest sample of all is
withdrawn: it stays the lowest noise floor, and its channel stays counted. -/
theorem store_of_edits_withdrawn :
    let heard (noise : Int8) : Sample := { total := 5000, busy := 100, own := 0, noise }
    let channels : List Channel :=
      [{ number := 1, freq := 2412 }, { number := 6, freq := 2437, disabled := true }]
    let edits : List Edit :=
      [.record 0 (heard (-120)), .record 7 (heard (-128)), .clearChannel 0, .clear, .clearChannel 1,
        .record 1 (heard (-90)), .record 0 (heard (-99)), .record 1 (heard (-97)), .record 2 (heard (-128)),
        .clearChannel 0]
    let i := ({ channels, offChannelCapable := true, settings := {} } : Interface).editAll edits
    (∀ c ∈ channels, c.Holds []) ∧ i.channels.map (·.samples.toList) = [[], [heard (-90), heard (-97)]] ∧
      i.quietest = some (-99) ∧ i.baseline = i.quietest ∧ i.surveyed = 2 ∧
      i.channels.countP (·.isStocked) ≤ i.surveyed := by
  intro heard channels edits i
  have hfresh : ∀ c ∈ channels, c.Holds [] := by
    simp only [channels, List.forall_mem_cons, List.not_mem_nil, false_imp_iff, implies_true, and_true]
    exact ⟨⟨rfl, rfl, rfl⟩, ⟨rfl, rfl, rfl⟩⟩
  have hfew : ∀ before, before <+: edits → ∀ index < channels.length, (keptFor index before).length < UInt32.size := by
    intro before hbefore index _
    exact Nat.lt_of_le_of_lt (Nat.le_trans (length_keptFor_le index before) hbefore.length_le) (by decide)
  obtain ⟨_, _, ⟨_, hbaseline⟩, ⟨hcounted, _⟩, _⟩ := store_of_edits channels true {} edits hfresh hfew
  exact ⟨hfresh, by decide, by decide, hbaseline, by decide, hcounted⟩

end Interface

end ChannelSurvey

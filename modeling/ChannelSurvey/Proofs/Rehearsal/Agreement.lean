import ChannelSurvey.Proofs.Band.Planned
import ChannelSurvey.Proofs.Document.Listing
import ChannelSurvey.Proofs.Rehearsal.Willing

/-!
# Both sides of a rehearsal agree

A scenario lists its profiles by number, the interface has its channels by position, and the radio finds a profile by
frequency.

**The law** (`sides_agree`): they mean the same channels. The interface of a loaded scenario has the channels of the
band's plan in ascending order, the listed ones disabled besides those the plan disables, and a survey of one of them is
drawn from the profile listed under its number, or from the default profile, however the list is ordered and whatever
was asked of the radio before. What carries this is that no two numbers have one frequency (`Band.frequency?_inj`): a
profile that is entered later leaves the ones before it alone (`Scenario.get?_foldl_enter`).
-/

namespace ChannelSurvey

/-! ## Lists by number -/

section

variable {β : Type} {l l' : List (UInt8 × β)} {number : UInt8} {b : β}

theorem lookup_eq_none_of_not_mem (h : number ∉ l.map (·.1)) : l.lookup number = none := by
  rw [List.lookup_eq_none_iff]
  intro e he
  exact bne_iff_ne.mpr fun hsame => h (hsame ▸ List.mem_map_of_mem he)

theorem mem_of_lookup (h : l.lookup number = some b) : (number, b) ∈ l := by
  obtain ⟨before, after, rfl, -⟩ := List.lookup_eq_some_iff.mp h
  exact List.mem_append_right before List.mem_cons_self

/-- Where every number stands once, it finds the entry it stands in. -/
theorem lookup_of_mem (once : (l.map (·.1)).Nodup) (h : (number, b) ∈ l) : l.lookup number = some b := by
  obtain ⟨before, after, rfl⟩ := List.append_of_mem h
  refine List.lookup_eq_some_iff.mpr ⟨before, after, rfl, fun e he => bne_iff_ne.mpr ?_⟩
  rintro rfl
  rw [List.map_append, List.map_cons] at once
  exact (List.nodup_append.mp once).2.2 _ (List.mem_map_of_mem he) _ List.mem_cons_self rfl

theorem lookup_perm (once : (l.map (·.1)).Nodup) (arranged : l'.Perm l) : l'.lookup number = l.lookup number := by
  have honce' := ((arranged.map (·.1)).nodup_iff).mpr once
  refine Option.ext fun b => ⟨fun h => ?_, fun h => ?_⟩
  · exact lookup_of_mem once (arranged.mem_iff.mp (mem_of_lookup h))
  · exact lookup_of_mem honce' (arranged.mem_iff.mpr (mem_of_lookup h))

end

/-! ## The profiles of a scenario -/

namespace Scenario

variable {s : Scenario} {number : UInt8} {freq : UInt32}

/-- The profile for a channel number: the listed one, or the default. -/
def profileOf (s : Scenario) (number : UInt8) : Profile :=
  (s.profiles.lookup number).getD s.defaultProfile

/-- Entering a profile under another number leaves a frequency alone. -/
theorem get?_enter_of_ne (defined : s.band.frequency? number = some freq) {e : UInt8 × Profile} (ne : number ≠ e.1)
    (t : FreqTable Profile) : (s.enter t e).get? freq = t.get? freq := by
  unfold enter
  split
  · rename_i freq' hother
    rw [FreqTable.get?_insert, if_neg]
    rintro rfl
    exact ne (Band.frequency?_inj defined hother)
  · rfl

theorem get?_enter (defined : s.band.frequency? number = some freq) (p : Profile) (t : FreqTable Profile) :
    (s.enter t (number, p)).get? freq = some p := by
  rw [enter, defined]
  show (t.insert freq p).get? freq = some p
  rw [FreqTable.get?_insert, if_pos rfl]

/-- **What is found under a frequency is what is listed under its number.** -/
theorem get?_foldl_enter (defined : s.band.frequency? number = some freq) {l : List (UInt8 × Profile)}
    (once : (l.map (·.1)).Nodup) (t : FreqTable Profile) :
    (l.foldl s.enter t).get? freq = (l.lookup number).or (t.get? freq) := by
  induction l generalizing t with
  | nil => rfl
  | cons e rest ih =>
    obtain ⟨key, p⟩ := e
    obtain ⟨hkey, hrest⟩ := List.nodup_cons.mp once
    rw [List.foldl_cons, ih hrest, List.lookup_cons]
    by_cases hsame : number = key
    · subst hsame
      rw [lookup_eq_none_of_not_mem hkey, Option.none_or, get?_enter defined, beq_self_eq_true]
      rfl
    · rw [get?_enter_of_ne defined hsame, beq_eq_false_iff_ne.mpr hsame]

theorem profileAt_radio (defined : s.band.frequency? number = some freq) (once : (s.profiles.map (·.1)).Nodup)
    (seed : UInt64) : (s.radio seed).profileAt freq = s.profileOf number := by
  rw [radio_eq]
  show (s.table.get? freq).getD s.defaultProfile = _
  rw [table, get?_foldl_enter defined once]
  show ((s.profiles.lookup number).or none).getD s.defaultProfile = _
  rw [Option.or_none]
  rfl

theorem check_profileOf (accepted : s.check = .ok ()) (number : UInt8) : (s.profileOf number).check = .ok () := by
  obtain ⟨hdefault, hlisted⟩ := valid_of_check accepted
  rw [profileOf]
  cases hfound : s.profiles.lookup number with
  | none => exact hdefault
  | some p => exact hlisted (number, p) (mem_of_lookup hfound)

end Scenario

/-! ## Surveys -/

namespace SimulatedRadio

/-- What a radio is after requests and notifications. -/
inductive Becomes (r : SimulatedRadio) : SimulatedRadio → Prop
  | same : Becomes r r
  | kickoff {r' : SimulatedRadio} (before : Becomes r r') : Becomes r r'.requestKickoff.radio
  | offChannel {r' : SimulatedRadio} (before : Becomes r r') (freq dwell : UInt32) :
      Becomes r (r'.requestOffChannel freq dwell).radio
  | traffic {r' : SimulatedRadio} (before : Becomes r r') (freq : UInt32) : Becomes r (r'.requestTraffic freq).radio
  | heard {r' r'' : SimulatedRadio} {e : Event} (before : Becomes r r') (next : r'.nextEvent = some (e, r'')) :
      Becomes r r''

/-- A survey of the frequency is drawn from the profile. -/
structure DrawsFrom (r : SimulatedRadio) (freq : UInt32) (p : Profile) : Prop where
  profile : r.profileAt freq = p
  answer : ∃ sample g, p.sample? ((r.dwells.get? freq).getD 1) r.generator = some (sample, g) ∧
    (r.requestTraffic freq).reply = .ok [sample]

variable {r r' : SimulatedRadio}

/-- **Nothing that is asked of a radio changes its profiles**, or what surveys it refuses. -/
theorem Becomes.keeps (h : r.Becomes r') : r'.profileAt = r.profileAt ∧ r'.refusesSurvey = r.refusesSurvey := by
  induction h with
  | same => exact ⟨rfl, rfl⟩
  | kickoff _ ih =>
    unfold requestKickoff
    split <;> exact ih
  | offChannel _ _ _ ih =>
    unfold requestOffChannel
    split <;> exact ih
  | traffic _ _ ih =>
    unfold requestTraffic
    split
    · exact ih
    · split <;> exact ih
  | heard _ next ih =>
    unfold nextEvent at next
    split at next
    · cases next
    · cases next
      exact ih

theorem drawsFrom_of_valid {freq : UInt32} {p : Profile} (profile : r.profileAt freq = p) (valid : p.check = .ok ())
    (survey : r.refusesSurvey = []) : r.DrawsFrom freq p := by
  obtain ⟨⟨sample, g⟩, hdrawn⟩ := Profile.exists_sample valid ((r.dwells.get? freq).getD 1) r.generator
  refine ⟨profile, sample, g, hdrawn, ?_⟩
  subst profile
  simp [requestTraffic, survey, hdrawn]

end SimulatedRadio

/-- **A survey at the frequency of a number is drawn from its profile**, whatever was asked of the radio before. -/
theorem Scenario.drawsFrom_radio {s : Scenario} {number : UInt8} {freq : UInt32} {seed : UInt64} {r : SimulatedRadio}
    (valid : (s.profileOf number).check = .ok ()) (once : (s.profiles.map (·.1)).Nodup)
    (defined : s.band.frequency? number = some freq) (reached : (s.radio seed).Becomes r) :
    r.DrawsFrom freq (s.profileOf number) := by
  obtain ⟨hprofiles, hrefuses⟩ := reached.keeps
  refine SimulatedRadio.drawsFrom_of_valid ?_ valid ?_
  · rw [hprofiles]
    exact profileAt_radio defined once seed
  · rw [hrefuses, radio_eq]
    rfl

/-! ## The two sides -/

/-- **Both sides of a rehearsal agree.** Of a loaded scenario, settings and a seed, whatever they are:

* the interface has the channels of the band's plan, in ascending order;
* a channel is disabled if the plan disables it or its number is listed;
* the profile for its number is valid, and every survey of it is drawn from that, in whatever order the profiles are
  listed and whatever the radio was asked before. -/
theorem sides_agree {path : String} {content : Except FileFault String} {s : Scenario}
    (loaded : loadScenario path content = .ok s) (settings : Settings) (seed : UInt64) :
    let channels := (s.interface settings).channels
    channels.map (·.number) = s.band.planNumbers ∧
    (channels.map (·.freq)).Pairwise (· < ·) ∧
    ∀ c ∈ channels,
      s.band.frequency? c.number = some c.freq ∧
      (c.disabled = true ↔ s.band.startsDisabled c.number = true ∨ c.number ∈ s.disabled) ∧
      (s.profileOf c.number).check = .ok () ∧
      ∀ profiles r, profiles.Perm s.profiles → ({ s with profiles }.radio seed).Becomes r →
        r.DrawsFrom c.freq (s.profileOf c.number) := by
  have honce := (listed_of_loadScenario loaded).nodup
  have haccepted := check_of_loadScenario loaded
  refine ⟨s.numbers_channels, ?_, fun c hc => ?_⟩
  · show (s.channels.map (·.freq)).Pairwise (· < ·)
    rw [s.freqs_channels]
    exact s.band.ascending_plan
  · have hdefined := Scenario.frequency?_of_mem_channels hc
    have hvalid := Scenario.check_profileOf haccepted c.number
    refine ⟨hdefined, Scenario.disabled_iff hc, hvalid, fun profiles r arranged reached => ?_⟩
    have honce' := ((arranged.map (·.1)).nodup_iff).mpr honce
    have hsame : Scenario.profileOf { s with profiles } c.number = s.profileOf c.number :=
      congrArg (·.getD s.defaultProfile) (lookup_perm honce arranged)
    have hdraws := Scenario.drawsFrom_radio (s := { s with profiles }) (hsame.symm ▸ hvalid) honce' hdefined reached
    exact hsame ▸ hdraws

/-- Two profiles given out of order, with a disabled channel between them: the last channel of the plan has its own. -/
theorem sides_agree_rearranged :
    let text := "\x7b\"band\": \"5g\", \"disabled\": [40], \"channels\": \x7b" ++
      "\"165\": \x7b\"busy_fraction\": 0.25, \"noise_floor\": -80\x7d, " ++
      "\"36\": \x7b\"busy_fraction\": 0.75, \"noise_floor\": -70\x7d\x7d\x7d"
    let quiet : Profile := { busy := 0.25, noise := -80, own := 0.0, noiseJitter := 0, busyJitter := 0.0 }
    let loud : Profile := { busy := 0.75, noise := -70, own := 0.0, noiseJitter := 0, busyJitter := 0.0 }
    let s : Scenario := { band := .ghz5, disabled := [40], profiles := [(36, loud), (165, quiet)] }
    let channels := (s.interface {}).channels
    loadScenario "s.json" (.ok text) = .ok s ∧ channels.map (·.number) = Band.ghz5.planNumbers ∧
      (channels.filter (·.disabled)).map (·.number) = [40] ∧
      ({ s with profiles := [(165, quiet), (36, loud)] }.radio 7).DrawsFrom 5825 quiet := by
  intro text quiet loud s channels
  have hs : loadScenario "s.json" (.ok text) = .ok s := by decide +kernel
  obtain ⟨hnumbers, -, hchannel⟩ := sides_agree hs {} 7
  have hlast : { number := 165, freq := 5825 } ∈ channels := by decide
  obtain ⟨-, -, -, hdraws⟩ := hchannel _ hlast
  exact ⟨hs, hnumbers, by decide, hdraws _ _ (List.Perm.swap _ _ _) .same⟩

end ChannelSurvey

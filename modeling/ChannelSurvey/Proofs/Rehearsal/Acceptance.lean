import ChannelSurvey.Proofs.Rehearsal.Agreement

/-!
# The numbers an accepted scenario lists

A scenario is accepted if its profiles are valid and the band has every number it lists (`Scenario.check_eq_ok`). In the
lower band these are the numbers of the plan, so nothing that is listed there is without effect.

**What does not hold.** In the upper band the plan has only some of the numbers, and the check does not ask for those: a
number between them is accepted (`unplanned_accepted`). There is no channel it could disable, and no survey draws from
its profile.

**The law** (`numbers_loaded`): a listed number of the plan does what it is listed for, and the others change nothing,
the interface and the profiles of its channels being those of the scenario with the others left out
(`Scenario.planned`). Both follow from `profileOf`, which looks at one number at a time.
-/

namespace ChannelSurvey

namespace Scenario

variable {s : Scenario} {n : UInt8}

/-- The numbers a scenario lists, those of profiles first. -/
def numbers (s : Scenario) : List UInt8 :=
  s.profiles.map (·.1) ++ s.disabled

/-- All profiles are valid. -/
structure Admissible (s : Scenario) : Prop where
  default : s.defaultProfile.check = .ok ()
  listed : ∀ e ∈ s.profiles, e.2.check = .ok ()

/-! ## The check -/

theorem strayNumber?_eq_none : s.strayNumber? = none ↔ ∀ n ∈ s.numbers, s.band.Defines n := by
  rw [strayNumber?, List.find?_eq_none]
  refine forall_congr' fun n => forall_congr' fun _ => ?_
  rw [← Band.isSome_frequency?, Option.isNone_iff_eq_none]
  exact Option.isSome_iff_ne_none.symm

/-- The first number that the band does not have is the stray one. -/
theorem strayNumber?_eq_some {before after : List UInt8} (numbers : s.numbers = before ++ n :: after)
    (defined : ∀ m ∈ before, s.band.Defines m) (stray : ¬ s.band.Defines n) : s.strayNumber? = some n := by
  show s.numbers.find? (fun number => (s.band.frequency? number).isNone) = some n
  refine List.find?_eq_some_iff_append.mpr ⟨?_, before, after, numbers, fun m hm => ?_⟩
  · rw [Option.isNone_iff_eq_none, ← Option.not_isSome_iff_eq_none, Band.isSome_frequency?]
    exact stray
  · rw [Bool.not_eq_true', ← Option.not_isSome, Bool.not_eq_false', Band.isSome_frequency?]
    exact defined m hm

/-- With valid profiles the numbers are what is left to check. -/
theorem check_of_admissible (admissible : s.Admissible) :
    s.check = match s.strayNumber? with
      | some n => .error (.notInBand n s.band)
      | none => .ok () := by
  have hnone : s.wrongProfile? = none := by
    refine List.findSome?_eq_none_iff.mpr fun e he => ?_
    have hvalid := admissible.listed e he
    unfold Profile.check at hvalid
    split at hvalid
    · cases hvalid
    · rename_i hshare
      show e.2.wrongShare?.map _ = none
      rw [hshare, Option.map_none]
  rw [check, admissible.default, hnone]
  rfl

/-- **What is accepted.** -/
theorem check_eq_ok : s.check = .ok () ↔ s.Admissible ∧ ∀ n ∈ s.numbers, s.band.Defines n := by
  constructor
  · intro accepted
    obtain ⟨hdefault, hlisted⟩ := valid_of_check accepted
    have hadmissible : s.Admissible := ⟨hdefault, hlisted⟩
    rw [check_of_admissible hadmissible] at accepted
    refine ⟨hadmissible, strayNumber?_eq_none.mp ?_⟩
    split at accepted
    · cases accepted
    · assumption
  · rintro ⟨hadmissible, hdefined⟩
    rw [check_of_admissible hadmissible, strayNumber?_eq_none.mpr hdefined]

/-! ## Numbers outside the plan -/

/-- The scenario with only the numbers of the plan listed. -/
def planned (s : Scenario) : Scenario :=
  { s with
    disabled := s.disabled.filter (s.band.planNumbers.contains ·)
    profiles := s.profiles.filter (s.band.planNumbers.contains ·.1) }

theorem channels_planned (s : Scenario) : s.planned.channels = s.channels := by
  refine List.map_congr_left fun c hc => ?_
  have hnumber := Band.number_mem_planNumbers hc
  have hsame : s.planned.disabled.contains c.number = s.disabled.contains c.number := by
    rw [Bool.eq_iff_iff, List.contains_iff_mem, List.contains_iff_mem, planned, List.mem_filter, List.contains_iff_mem]
    exact and_iff_left hnumber
  rw [hsame]

theorem listed_planned (listed : Listed s.profiles) : Listed s.planned.profiles :=
  listed.sublist (List.filter_sublist.map _)

theorem profileOf_planned (listed : Listed s.profiles) (planned : n ∈ s.band.planNumbers) :
    s.planned.profileOf n = s.profileOf n := by
  have hlookup : s.planned.profiles.lookup n = s.profiles.lookup n := by
    refine Option.ext fun p => ⟨fun h => ?_, fun h => ?_⟩
    · exact lookup_of_mem listed.nodup (List.mem_filter.mp (mem_of_lookup h)).1
    · have hkept : (n, p) ∈ s.planned.profiles :=
        List.mem_filter.mpr ⟨mem_of_lookup h, List.contains_iff_mem.mpr planned⟩
      exact lookup_of_mem (listed_planned listed).nodup hkept
  exact congrArg (·.getD s.defaultProfile) hlookup

/-! ## What is listed -/

/-- **What the numbers of an accepted scenario do.** -/
structure Listing (s : Scenario) : Prop where
  defined : ∀ n ∈ s.numbers, s.band.Defines n
  /-- In the lower band they are numbers of channels. -/
  lower : s.band = .ghz24 → ∀ n ∈ s.numbers, ∃ c ∈ s.channels, c.number = n
  /-- The profile of a channel is the one its surveys are drawn from. -/
  profile : ∀ e ∈ s.profiles, ∀ c ∈ s.channels, c.number = e.1 →
    ∀ seed r, (s.radio seed).Becomes r → r.DrawsFrom c.freq e.2
  disabled : ∀ c ∈ s.channels, c.number ∈ s.disabled → c.disabled = true
  /-- Numbers outside the plan change no channel. -/
  channels : s.planned.channels = s.channels
  /-- Numbers outside the plan change no channel's profile. -/
  profiles : ∀ seed, ∀ c ∈ s.channels, (s.planned.radio seed).profileAt c.freq = (s.radio seed).profileAt c.freq

theorem listing_of_accepted (accepted : s.check = .ok ()) (listed : Listed s.profiles) : s.Listing where
  defined := (check_eq_ok.mp accepted).2
  lower := by
    intro lower n hn
    have hdefined := (check_eq_ok.mp accepted).2 n hn
    have hnumbers := s.numbers_channels
    rw [lower] at hdefined hnumbers
    have hplanned := Band.mem_planNumbers_ghz24 hdefined
    rw [← hnumbers] at hplanned
    exact List.mem_map.mp hplanned
  profile := by
    rintro ⟨n, p⟩ he c hc rfl seed r reached
    have hprofile : s.profileOf c.number = p := by
      rw [profileOf, lookup_of_mem listed.nodup he]
      rfl
    have hvalid := check_profileOf accepted c.number
    exact hprofile ▸ drawsFrom_radio hvalid listed.nodup (frequency?_of_mem_channels hc) reached
  disabled := by
    intro c hc hlisted
    exact (disabled_iff hc).mpr (.inr hlisted)
  channels := channels_planned s
  profiles := by
    intro seed c hc
    have hdefined := frequency?_of_mem_channels hc
    have hplanned : c.number ∈ s.band.planNumbers := s.numbers_channels ▸ List.mem_map_of_mem hc
    rw [profileAt_radio hdefined listed.nodup, profileAt_radio (s := s.planned) hdefined (listed_planned listed).nodup,
      profileOf_planned listed hplanned]

end Scenario

/-- **The numbers a scenario lists.** Of a document that is read as a scenario:

* it is accepted exactly if its profiles are valid and the band has every number it lists;
* a number the band does not have makes it invalid, and where the profiles are valid the first such number is named;
* of an accepted scenario a number of the plan takes effect, and one outside the plan changes nothing. -/
theorem numbers_loaded {path : String} {content : Except FileFault String} {s : Scenario}
    (read : load Scenario.record.reader path content = .ok s) :
    (loadScenario path content = .ok s ↔ s.Admissible ∧ ∀ n ∈ s.numbers, s.band.Defines n) ∧
    (∀ n ∈ s.numbers, ¬ s.band.Defines n → ∃ v, loadScenario path content = .error (.invalid v)) ∧
    (s.Admissible → ∀ before n after, s.numbers = before ++ n :: after → (∀ m ∈ before, s.band.Defines m) →
      ¬ s.band.Defines n → loadScenario path content = .error (.invalid (.notInBand n s.band))) ∧
    (loadScenario path content = .ok s → s.Listing) := by
  have hloaded : loadScenario path content = checked Scenario.check s := by
    rw [loadScenario, read]
    rfl
  refine ⟨?_, fun n hn stray => ?_, fun admissible before n after numbers defined stray => ?_, fun loaded => ?_⟩
  · rw [hloaded, checked_eq_ok, Scenario.check_eq_ok]
    exact and_iff_right rfl
  · rw [hloaded, checked]
    cases hcheck : s.check with
    | error v => exact ⟨v, rfl⟩
    | ok u => exact absurd ((Scenario.check_eq_ok.mp hcheck).2 n hn) stray
  · rw [hloaded, checked, Scenario.check_of_admissible admissible, Scenario.strayNumber?_eq_some numbers defined stray]
  · exact Scenario.listing_of_accepted (check_of_loadScenario loaded) (listed_of_loadScenario loaded)

/-- A number between two channels of the plan changes nothing, and one that the band does not have is refused. -/
theorem numbers_loaded_mixed :
    let accepted := "\x7b\"band\": \"5g\", \"disabled\": [37, 40], \"channels\": \x7b" ++
      "\"36\": \x7b\"busy_fraction\": 0.75, \"noise_floor\": -70\x7d\x7d\x7d"
    let loud : Profile := { busy := 0.75, noise := -70, own := 0.0, noiseJitter := 0, busyJitter := 0.0 }
    let s : Scenario := { band := .ghz5, disabled := [37, 40], profiles := [(36, loud)] }
    let refused := "\x7b\"band\": \"2g\", \"disabled\": [14, 15, 0]\x7d"
    let stray : Scenario := { band := .ghz24, disabled := [14, 15, 0] }
    load Scenario.record.reader "s.json" (.ok accepted) = .ok s ∧ loadScenario "s.json" (.ok accepted) = .ok s ∧
      (s.radio 7).DrawsFrom 5180 loud ∧ s.channels = { s with disabled := [40] }.channels ∧
      load Scenario.record.reader "s.json" (.ok refused) = .ok stray ∧
      loadScenario "s.json" (.ok refused) = .error (.invalid (.notInBand 15 .ghz24)) := by
  intro accepted loud s refused stray
  have hread : load Scenario.record.reader "s.json" (.ok accepted) = .ok s := by decide +kernel
  have hstray : load Scenario.record.reader "s.json" (.ok refused) = .ok stray := by decide +kernel
  have hadmissible : s.Admissible := ⟨by decide +kernel, by simp only [s, List.forall_mem_cons]; decide +kernel⟩
  obtain ⟨haccepts, -, -, hlisting⟩ := numbers_loaded hread
  have hloaded := haccepts.mpr ⟨hadmissible, by simp [s, Scenario.numbers, Band.Defines]⟩
  have hlisting := hlisting hloaded
  have hchannel : { number := 36, freq := 5180 } ∈ s.channels := by decide
  have hdraws := hlisting.profile (36, loud) List.mem_cons_self _ hchannel rfl 7 _ .same
  obtain ⟨-, -, hnamed, -⟩ := numbers_loaded hstray
  have hrejected := hnamed ⟨by decide +kernel, List.forall_mem_nil _⟩ [14] 15 [0] rfl
    (by simp [stray, Band.Defines]) (by simp [stray, Band.Defines])
  exact ⟨hread, hloaded, hdraws, hlisting.channels.symm, hstray, hrejected⟩

/-- **A number between those of the plan is accepted**, and disables nothing. -/
theorem unplanned_accepted :
    ∃ s, loadScenario "s.json" (.ok "\x7b\"band\":\"5g\",\"disabled\":[37]\x7d") = .ok s ∧ 37 ∈ s.numbers ∧
      ∀ c ∈ s.channels, c.number ≠ 37 ∧ c.disabled = false := by
  refine ⟨{ band := .ghz5, disabled := [37] }, ?_, ?_, ?_⟩
  · decide +kernel
  · decide
  · decide

end ChannelSurvey

import ChannelSurvey.MachineLog
import ChannelSurvey.Proofs.Cli.Table
import ChannelSurvey.Proofs.Document.Listing
import ChannelSurvey.Proofs.Rehearsal.Surveyed

/-!
# What a simulation tells of its sweep

A simulation prints, reports and ends with a code. All three come from one finding, and the finding from what the
host saw when it was asked for its verdict, before the channels were cleared.

**The law** (`simulate_tells`): documents that are no scenario or no settings end it with code `2`. Otherwise the sweep
starts and comes to an end, and the finding tells of that end: of a selection by a table with one line for each channel
of the plan and the selected one marked, of a failure by its message and no table. The report has the same result and
is handed over to be written in both cases. The code is `0` for a selection with the report written, if one was asked
for, and `1` for everything else.

What is printed and reported is said in full, in the terms of `Proofs.Cli.Table`: only how a score reads with four
places is left to `Decimal.fixed`.
-/

namespace ChannelSurvey.Cli

open Json (Value)

/-- What a command leaves behind, given how writing a text to a path goes. -/
def Progress.output (p : Progress) (write : (path text : String) → Except FileFault Unit) : Output :=
  match p with
  | .ended o => o
  | .writing path text after => after (write path text)

/-- What a command hands over to be written: a path and a text. -/
def Progress.handed? : Progress → Option (String × String)
  | .ended _ => none
  | .writing path text _ => some (path, text)

/-! ## Loading -/

namespace SimulateOptions

/-- The settings in force. -/
def effective (o : SimulateOptions) (read : String → Except FileFault String) : Except LoadFault Settings :=
  effectiveSettings (o.settings.map fun path => ChannelSurvey.load Settings.record.reader path (read path)) o.rounds
    o.dwell

variable {o : SimulateOptions} {read : String → Except FileFault String} {s : Scenario} {settings : Settings}

/-- Settings in force ask for rounds. -/
theorem rounds_of_effective (h : o.effective read = .ok settings) : settings.rounds ≠ 0 := by
  obtain ⟨base, -, hchecked⟩ := bind_eq_ok.mp h
  have hcheck := (checked_eq_ok.mp hchecked).2
  intro hzero
  rw [Settings.check, if_pos hzero] at hcheck
  cases hcheck

/-- A scenario and settings that load are what the command runs on. -/
theorem load_ok (scenario : loadScenario o.scenario (read o.scenario) = .ok s)
    (effective : o.effective read = .ok settings) : o.load read = .ok (s, settings) :=
  bind_eq_ok.mpr ⟨s, scenario, bind_eq_ok.mpr ⟨settings, effective, rfl⟩⟩

/-- Loading fails just when one of the two does. -/
theorem load_error_iff :
    (∃ fault, o.load read = .error fault) ↔
      (∃ fault, loadScenario o.scenario (read o.scenario) = .error fault) ∨
        ∃ fault, o.effective read = .error fault := by
  show (∃ fault, (loadScenario o.scenario (read o.scenario) >>= fun s => o.effective read >>= fun e => pure (s, e)) =
    .error fault) ↔ _
  cases loadScenario o.scenario (read o.scenario) with
  | error fault => exact iff_of_true ⟨fault, rfl⟩ (.inl ⟨fault, rfl⟩)
  | ok s =>
    cases o.effective read with
    | error fault => exact iff_of_true ⟨fault, rfl⟩ (.inr ⟨fault, rfl⟩)
    | ok settings =>
      refine iff_of_false ?_ ?_
      · rintro ⟨_, h⟩
        cases h
      · rintro (⟨_, h⟩ | ⟨_, h⟩) <;> cases h

end SimulateOptions

/-! ## The finding -/

namespace Finding

/-- What is found of a sweep with this outcome, whose host saw these channels. -/
def of (channels : List Channel) : Outcome → Finding
  | .selected s => { channels, selection := some s, problem := none }
  | .failed f => { channels, selection := none, problem := some f.message }
  | .inProgress => { channels, selection := none, problem := some "sweep did not finish" }

/-- **What is told of a selection.** -/
structure Shows (f : Finding) (s : Scenario) (settings : Settings) (selection : Selection) : Prop where
  code : f.code = 0
  surveys : s.Surveys settings selection f.channels
  /-- The table has one line for each channel, showing as many samples as there were rounds or none, and one of them
  is marked. -/
  text : ∃ lines,
    f.text =
      heading ++ String.join lines ++
        (s!"\nIdeal channel: {selection.number} ({selection.freq} MHz), average interference factor "
          ++ Decimal.fixed .printed 4 selection.score ++ "\n") ∧
    List.Forall₂ (fun c line =>
      IsLine (c.number = selection.number) c (if c.disabled then 0 else settings.rounds) line) f.channels lines ∧
    ∃ (k : Nat) (c : Channel), f.channels[k]? = some c ∧ c.number = selection.number ∧
      ∀ (j : Nat) (line : String), lines[j]? = some line → (line.toList.head? = some '*' ↔ j = k)
  /-- The report has the selection and one entry for each channel. -/
  report : ∀ id o, let report := f.report id o settings
    member? report "selected_channel" = some (.integer selection.number.toNat) ∧
    member? report "selected_freq" = some (.integer selection.freq.toNat) ∧
    member? report "error" = some .null ∧
    ∃ entries, member? report "channels" = some (.list entries) ∧
      List.Forall₂ (fun c entry => IsEntry c (if c.disabled then 0 else settings.rounds) entry)
        f.channels entries

/-- **What is told of a failure.** -/
structure Lacks (f : Finding) (settings : Settings) (why : Failure) : Prop where
  code : f.code = 1
  /-- There is no table. -/
  text : f.text = s!"\nChannel selection failed: {why.message}\n"
  report : ∀ id o, let report := f.report id o settings
    member? report "selected_channel" = some .null ∧
    member? report "selected_freq" = some .null ∧
    member? report "error" = some (.text why.message) ∧
    member? report "channels" = some (.list [])

/-- **What is told of the end of a sweep**: a selection or a failure. -/
inductive Tells (f : Finding) (s : Scenario) (settings : Settings) : Outcome → Prop
  | selected {selection : Selection} (shows : f.Shows s settings selection) : Tells f s settings (.selected selection)
  | failed {why : Failure} (lacks : f.Lacks settings why) : Tells f s settings (.failed why)

/-- A failed survey lacks a table, a marked line and a report of a channel. -/
theorem lacks_failure (settings : Settings) (why : Failure) : (of [] (.failed why)).Lacks settings why :=
  ⟨rfl, rfl, fun _ _ => ⟨rfl, rfl, rfl, rfl⟩⟩

/-- What is found of a selection shows every channel as the survey left it. -/
theorem shows_selection {s : Scenario} {settings : Settings} {selection : Selection} {channels : List Channel}
    (surveys : s.Surveys settings selection channels) :
    (of channels (.selected selection)).Shows s settings selection := by
  obtain ⟨k, c, hc, -, hnumber, -, -, hplace, -⟩ := surveys.chosen
  have hsome : channels.isEmpty = false :=
    List.isEmpty_eq_false_iff.mpr (List.ne_nil_of_mem (List.mem_of_getElem? hc))
  obtain ⟨lines, htable, hlines⟩ := exists_lines hsome surveys.counts selection.number
  refine ⟨rfl, surveys, ⟨lines, ?_, hlines, k, c, hc, hnumber, fun _ _ => marked_iff hlines hplace⟩, fun _ _ => ?_⟩
  · exact congrArg (· ++ _) htable
  · exact ⟨rfl, rfl, rfl, _, rfl, entries_channelReport surveys.counts⟩

/-- The survey succeeded just when it selected a channel. -/
theorem Tells.code_eq_zero {f : Finding} {s : Scenario} {settings : Settings} {outcome : Outcome}
    (h : f.Tells s settings outcome) : f.code = 0 ↔ ∃ selection, outcome = .selected selection := by
  cases h with
  | @selected selection shows => exact iff_of_true shows.code ⟨selection, rfl⟩
  | failed lacks =>
    rw [lacks.code]
    simp

/-- **A table stands in what is told of a selection**, and in nothing else. -/
theorem Tells.tabled {f : Finding} {s : Scenario} {settings : Settings} {outcome : Outcome}
    (h : f.Tells s settings outcome) (rest : String) :
    heading.toList <+: (f.text ++ rest).toList ↔ ∃ selection, outcome = .selected selection := by
  cases h with
  | @selected selection shows =>
    obtain ⟨lines, htext, -⟩ := shows.text
    refine iff_of_true ?_ ⟨selection, rfl⟩
    rw [htext, String.append_assoc, String.append_assoc, String.toList_append]
    exact List.prefix_append _ _
  | @failed why lacks =>
    refine iff_of_false (fun hprefix => ?_) (by simp)
    -- the second character tells a heading from the message
    have hsecond := List.prefix_iff_getElem?.mp hprefix 1 (by decide)
    rw [lacks.text, String.append_assoc, String.append_assoc, String.toList_append,
      List.getElem?_append_left (by decide)] at hsecond
    exact absurd hsecond (by decide)

theorem code_eq_zero_or_one (f : Finding) : f.code = 0 ∨ f.code = 1 := by
  unfold code
  split
  · exact .inl rfl
  · exact .inr rfl

/-! ### Once the report was written, or could not be -/

/-- A written finding ends with zero or one. -/
theorem code_concluded (f : Finding) (path : String) (written : Except FileFault Unit) :
    (f.concluded path written).code = 0 ∨ (f.concluded path written).code = 1 := by
  cases written with
  | ok => exact f.code_eq_zero_or_one
  | error => exact .inr rfl

/-- It succeeds only if it was written. -/
theorem code_concluded_eq_zero (f : Finding) (path : String) (written : Except FileFault Unit) :
    (f.concluded path written).code = 0 ↔ f.code = 0 ∧ written = .ok () := by
  cases written with
  | ok => exact (and_iff_left rfl).symm
  | error => exact iff_of_false Nat.one_ne_zero nofun

/-- What was found is printed in any case. -/
theorem stdout_concluded (f : Finding) (path : String) (written : Except FileFault Unit) :
    ∃ rest, (f.concluded path written).stdout = f.text ++ rest := by
  cases written with
  | ok => exact ⟨_, rfl⟩
  | error => exact ⟨"", String.append_empty.symm⟩

end Finding

/-! ## The rehearsal -/

section

variable [BinaryLog] {s : Scenario} {settings : Settings} {seed : UInt64}

/-- A rehearsal that ran has a finding. -/
theorem rehearse_of_runSweep {run : Run SimulatedRadio Observer}
    (ran : Rehearsal.runSweep (s.rehearsal settings seed ({} : Observer)) = .ok run) :
    rehearse s settings seed = .ok (.of run.station.host.channels run.station.outcome) := by
  show (Rehearsal.runSweep (s.rehearsal settings seed ({} : Observer)) >>= _) = _
  rw [ran]
  show (match run.station.outcome with | .selected _ => _ | .failed _ => _ | .inProgress => _) = _
  cases run.station.outcome <;> rfl

/-- **What the host has seen at the end**: nothing of a failure, and of a selection the surveyed channels. -/
theorem observed_of_comes {x : Toured (Selection × Tour)} (rounds : settings.rounds ≠ 0)
    (comes : (s.tour settings seed).Comes x) :
    let final := (Toured.ending x ({} : Observer)).station
    (∃ why, final.outcome = .failed why ∧ final.host.channels = []) ∨
      ∃ selection, final.outcome = .selected selection ∧ s.Surveys settings selection final.host.channels := by
  cases comes with
  | incapable bad => exact .inl ⟨_, rfl, rfl⟩
  | bare able none => exact .inl ⟨_, rfl, rfl⟩
  | @surveyed u able some all =>
    have hchooses := u.chooses_choose
    generalize u.choose = x at hchooses ⊢
    cases hchooses with
    | unsurveyed | undecided => exact .inl ⟨_, rfl, rfl⟩
    | @chosen selection chosen => exact .inr ⟨selection, rfl, Scenario.surveys_of_chosen rounds all chosen⟩

/-- **A rehearsal comes to an end, and the finding tells of it.** -/
theorem exists_finding (accepted : s.check = .ok ()) (rounds : settings.rounds ≠ 0) (seed : UInt64) :
    ∃ run f, Rehearsal.runSweep (s.rehearsal settings seed ({} : Observer)) = .ok run ∧
      rehearse s settings seed = .ok f ∧ f.Tells s settings run.station.outcome := by
  obtain ⟨run, hrun, hyields⟩ := Scenario.exists_rehearsed settings seed ({} : Observer) accepted
  have hcomes := Tour.comes_loop (t := s.tour settings seed) (Scenario.radio_willing accepted seed) rfl
  have hobserved := observed_of_comes rounds hcomes
  rw [← Scenario.sequential_rehearsal] at hobserved
  dsimp only at hobserved
  rw [← hyields.station] at hobserved
  refine ⟨run, _, hrun, rehearse_of_runSweep hrun, ?_⟩
  rcases hobserved with ⟨why, houtcome, hchannels⟩ | ⟨selection, houtcome, hsurveys⟩
  · rw [houtcome, hchannels]
    exact .failed (Finding.lacks_failure settings why)
  · rw [houtcome]
    exact .selected (Finding.shows_selection hsurveys)

/-! ## The command -/

/-- **How a simulation ends** whose sweep had this outcome, given the text of its report, where it is asked for and how
writing a text to a path goes. -/
structure Finding.Ends (f : Finding) (outcome : Outcome) (report : String) (asked : Option String)
    (write : (path text : String) → Except FileFault Unit) (p : Progress) : Prop where
  code : (p.output write).code = 0 ∨ (p.output write).code = 1
  success : (p.output write).code = 0 ↔
    (∃ selection, outcome = .selected selection) ∧ ∀ path, asked = some path → write path report = .ok ()
  tabled : heading.toList <+: (p.output write).stdout.toList ↔ ∃ selection, outcome = .selected selection
  /-- The report is handed over to be written where it is asked for, whatever came of the sweep. -/
  handed : p.handed? = asked.map fun path => (path, report)
  unasked : asked = none → p.output write = { stdout := f.text, code := f.code }
  written : ∀ path, asked = some path → write path report = .ok () →
    p.output write = { stdout := f.text ++ s!"Report written to {path}\n", code := f.code }
  unwritten : ∀ path fault, asked = some path → write path report = .error fault →
    p.output write = { stdout := f.text, stderr := [s!"Failed to write {path}: " ++ fault.message], code := 1 }

/-- A simulation that has a finding ends with it, or has a report to write. -/
theorem simulate_of_rehearse {o : SimulateOptions} {read : String → Except FileFault String} {f : Finding}
    (loaded : o.load read = .ok (s, settings)) (found : rehearse s settings o.seed = .ok f) (id : String) :
    simulate o read id =
      o.output.elim (.ended { stdout := f.text, code := f.code })
        fun path => .writing path (f.report id o settings).pretty (f.concluded path) := by
  simp only [simulate, loaded, found]
  cases o.output <;> rfl

/-- A command that loads ends as what it found says. -/
theorem ends_of_rehearse {o : SimulateOptions} {read : String → Except FileFault String} {f : Finding}
    {outcome : Outcome} (loaded : o.load read = .ok (s, settings)) (found : rehearse s settings o.seed = .ok f)
    (tells : f.Tells s settings outcome) (id : String) (write : (path text : String) → Except FileFault Unit) :
    f.Ends outcome (f.report id o settings).pretty o.output write (simulate o read id) := by
  have hcode := tells.code_eq_zero
  rw [simulate_of_rehearse loaded found]
  generalize (f.report id o settings).pretty = report
  cases o.output with
  | none =>
    have htabled := tells.tabled ""
    rw [String.append_empty] at htabled
    exact {
      code := f.code_eq_zero_or_one
      success := hcode.trans (by simp)
      tabled := htabled
      handed := rfl
      unasked := fun _ => rfl
      written := nofun
      unwritten := nofun }
  | some path =>
    obtain ⟨rest, hstdout⟩ := f.stdout_concluded path (write path report)
    have htabled := tells.tabled rest
    rw [← hstdout] at htabled
    exact {
      code := f.code_concluded path _
      success := (f.code_concluded_eq_zero path _).trans (and_congr hcode (by simp))
      tabled := htabled
      handed := rfl
      unasked := nofun
      written := by
        rintro _ ⟨⟩ hok
        exact congrArg (f.concluded path) hok
      unwritten := by
        rintro _ _ ⟨⟩ hfault
        exact congrArg (f.concluded path) hfault }

/-- **A command whose documents are in order runs its sweep and ends by what came of it.** -/
theorem exists_ends {o : SimulateOptions} {read : String → Except FileFault String}
    (scenario : loadScenario o.scenario (read o.scenario) = .ok s) (effective : o.effective read = .ok settings)
    (id : String) (write : (path text : String) → Except FileFault Unit) :
    ∃ run f, Rehearsal.runSweep (s.rehearsal settings o.seed ({} : Observer)) = .ok run ∧
      rehearse s settings o.seed = .ok f ∧ f.Tells s settings run.station.outcome ∧
      f.Ends run.station.outcome (f.report id o settings).pretty o.output write (simulate o read id) := by
  have hrounds := SimulateOptions.rounds_of_effective effective
  obtain ⟨run, f, hrun, hfound, htells⟩ := exists_finding (check_of_loadScenario scenario) hrounds o.seed
  have hends := ends_of_rehearse (SimulateOptions.load_ok scenario effective) hfound htells id write
  exact ⟨run, f, hrun, hfound, htells, hends⟩

/-- What does not load is an error of the command, and nothing is handed to be written. -/
theorem simulate_of_rejected {o : SimulateOptions} {read : String → Except FileFault String} {fault : LoadFault}
    (rejected : o.load read = .error fault) (id : String) :
    simulate o read id = .ended { stderr := ["Error: " ++ fault.message], code := 2 } := by
  simp only [simulate, rejected]

/-- **What a simulation tells of its sweep.** Of options, documents, an identifier and a way of writing, whatever
they are:

* the code is `2` exactly when the scenario or the settings in force are rejected, and then nothing is printed or
  handed over to be written;
* otherwise the sweep starts and comes to an end, a selection or a failure, and the finding tells of that end. The code
  is `0` exactly for a selection whose report could be written, if one was asked for, and else `1`. -/
theorem simulate_tells (o : SimulateOptions) (read : String → Except FileFault String) (id : String)
    (write : (path text : String) → Except FileFault Unit) :
    let out := (simulate o read id).output write
    (out.code = 2 ↔
      (∃ fault, loadScenario o.scenario (read o.scenario) = .error fault) ∨
        ∃ fault, o.effective read = .error fault) ∧
    (out.code = 2 → out.stdout = "" ∧ (simulate o read id).handed? = none) ∧
    ∀ s settings, loadScenario o.scenario (read o.scenario) = .ok s → o.effective read = .ok settings →
      ∃ run f, Rehearsal.runSweep (s.rehearsal settings o.seed ({} : Observer)) = .ok run ∧
        rehearse s settings o.seed = .ok f ∧ f.Tells s settings run.station.outcome ∧
        f.Ends run.station.outcome (f.report id o settings).pretty o.output write (simulate o read id) := by
  intro out
  by_cases hrejected : ∃ fault, o.load read = .error fault
  · obtain ⟨fault, hfault⟩ := hrejected
    have hsimulate := simulate_of_rejected hfault id
    have hout : out = { stderr := ["Error: " ++ fault.message], code := 2 } :=
      congrArg (·.output write) hsimulate
    refine ⟨?_, fun _ => ⟨?_, ?_⟩, fun _ _ hs heffective => exists_ends hs heffective id write⟩
    · exact iff_of_true (by rw [hout]) (SimulateOptions.load_error_iff.mp ⟨fault, hfault⟩)
    · rw [hout]
    · rw [hsimulate]
      rfl
  · have hcode : ((simulate o read id).output write).code ≠ 2 := by
      cases hs : loadScenario o.scenario (read o.scenario) with
      | error fault => exact absurd (SimulateOptions.load_error_iff.mpr (.inl ⟨fault, hs⟩)) hrejected
      | ok s =>
        cases heffective : o.effective read with
        | error fault => exact absurd (SimulateOptions.load_error_iff.mpr (.inr ⟨fault, heffective⟩)) hrejected
        | ok settings =>
          obtain ⟨run, f, -, -, -, hends⟩ := exists_ends hs heffective id write
          rcases hends.code with hzero | hone <;> omega
    exact ⟨iff_of_false hcode (mt SimulateOptions.load_error_iff.mpr hrejected), fun h => absurd h hcode,
      fun _ _ hs heffective => exists_ends hs heffective id write⟩

end

/-- Three channels surveyed twice with the report written: the first one is never free for others, and of the two
silent ones the first is marked. -/
theorem simulate_tells_tie :
    let text := "\x7b\"band\": \"2g\", \"disabled\": [2, 3, 4, 5, 7, 8, 9, 10, 12, 13], " ++
      "\"default_profile\": \x7b\"busy_fraction\": 0.0, \"noise_floor\": -95\x7d, " ++
      "\"channels\": \x7b\"1\": \x7b\"busy_fraction\": 1.0, \"tx_fraction\": 1.0, \"noise_floor\": -80\x7d\x7d\x7d"
    let o : SimulateOptions :=
      { scenario := "s.json", settings := none, rounds := some 2, dwell := none, seed := 1, output := some "r.json" }
    let read (_ : String) : Except FileFault String := .ok text
    let write (_ _ : String) : Except FileFault Unit := .ok ()
    let s : Scenario :=
      { band := .ghz24, disabled := [2, 3, 4, 5, 7, 8, 9, 10, 12, 13]
        defaultProfile := { busy := 0.0, busyJitter := 0.0, noiseJitter := 0 }
        profiles := [(1, { busy := 1.0, own := 1.0, noise := -80, noiseJitter := 0, busyJitter := 0.0 })] }
    let settings : Settings := { rounds := 2, dwell := 5 }
    let selection : Selection := { number := 6, freq := 2437, score := -64.0 }
    loadScenario o.scenario (read o.scenario) = .ok s ∧ o.effective read = .ok settings ∧
    ((simulate o read "").output write).code = 0 ∧
    ((simulate o read "").output write).stdout = String.join
      ["\n",
        "    Chan    Freq  Samples  Min NF Interference\n",
        "------------------------------------------------\n",
        "       1    2412        2     -80            -\n",
        "       2    2417        0       -     disabled\n",
        "       3    2422        0       -     disabled\n",
        "       4    2427        0       -     disabled\n",
        "       5    2432        0       -     disabled\n",
        "*      6    2437        2     -95     -64.0000\n",
        "       7    2442        0       -     disabled\n",
        "       8    2447        0       -     disabled\n",
        "       9    2452        0       -     disabled\n",
        "      10    2457        0       -     disabled\n",
        "      11    2462        2     -95     -64.0000\n",
        "      12    2467        0       -     disabled\n",
        "      13    2472        0       -     disabled\n",
        "      14    2484        0       -     disabled\n",
        "\n",
        "Ideal channel: 6 (2437 MHz), average interference factor -64.0000\n",
        "Report written to r.json\n"] ∧
    ∃ f, rehearse s settings o.seed = .ok f ∧ f.Shows s settings selection ∧
      f.Ends (.selected selection) (f.report "" o settings).pretty o.output write (simulate o read "") := by
  intro text o read write s settings selection
  have hs : loadScenario o.scenario (read o.scenario) = .ok s := by decide +kernel
  have heffective : o.effective read = .ok settings := by decide +kernel
  have houtcome : (Rehearsal.runSweep (s.rehearsal settings o.seed ({} : Observer))).toOption.map
      (·.station.outcome) = some (.selected selection) := by
    decide +kernel
  obtain ⟨-, -, haccepted⟩ := simulate_tells o read "" write
  obtain ⟨run, f, hrun, hfound, htells, hends⟩ := haccepted s settings hs heffective
  rw [hrun] at houtcome
  have hselected : run.station.outcome = .selected selection := Option.some.inj houtcome
  rw [hselected] at htells hends
  have hcode := hends.success.mpr ⟨⟨selection, rfl⟩, fun _ _ => rfl⟩
  cases htells with
  | selected shows =>
    refine ⟨hs, heffective, hcode, ?_, f, hfound, shows, hends⟩
    decide +kernel

end ChannelSurvey.Cli

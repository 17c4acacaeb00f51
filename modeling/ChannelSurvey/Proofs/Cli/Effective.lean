import ChannelSurvey.Proofs.Cli.Simulation
import ChannelSurvey.Proofs.Document.Restoring

/-!
# The settings in force

Each field of the settings of a simulation has three layers: its option, the file, the default. The first that gives a
value is the one that counts, and the check comes after that. So a field of the file that an option replaces is never
checked, and settings that are refused are refused for what would have been used.

**The law** (`effective_vetted`): this holds of every file that is an object with the fields in any order and any other
members among them. It rests on `document_assembly` for the file and on one equation for the layers
(`override_given`); the rest is the check. Without options there is nothing to replace, and a simulation takes the
files that `loadSettings` takes.
-/

namespace ChannelSurvey.Cli

open Json

/-- **What comes of settings that are checked**: they are taken if no field is zero, and else refused for the first that
is. -/
structure Vetted (result : Except LoadFault Settings) (s : Settings) : Prop where
  taken : result = .ok s ↔ s.rounds ≠ 0 ∧ s.dwell ≠ 0
  noRounds : s.rounds = 0 → result = .error (.invalid .noRounds)
  noDwell : s.rounds ≠ 0 → s.dwell = 0 → result = .error (.invalid .noDwell)

/-- A check settles which of the outcomes it is. -/
theorem vetted_checked (s : Settings) : Vetted (checked Settings.check s) s := by
  by_cases hrounds : s.rounds = 0
  · have hresult : checked Settings.check s = .error (.invalid .noRounds) := by
      rw [checked, Settings.check, if_pos hrounds]
    rw [hresult]
    exact ⟨iff_of_false (by simp) fun h => h.1 hrounds, fun _ => rfl, fun h => absurd hrounds h⟩
  · by_cases hdwell : s.dwell = 0
    · have hresult : checked Settings.check s = .error (.invalid .noDwell) := by
        rw [checked, Settings.check, if_neg hrounds, if_pos hdwell]
      rw [hresult]
      exact ⟨iff_of_false (by simp) fun h => h.2 hdwell, fun h => absurd h hrounds, fun _ _ => rfl⟩
    · have hresult : checked Settings.check s = .ok s := by
        rw [checked, Settings.check, if_neg hrounds, if_neg hdwell]
      rw [hresult]
      exact ⟨iff_of_true rfl ⟨hrounds, hdwell⟩, fun h => absurd h hrounds, fun _ h => absurd h hdwell⟩

/-- Settings by layers: the options, then what a file gives, then the defaults. -/
def SimulateOptions.layered (o : SimulateOptions) (rounds dwell : Option UInt32) : Settings :=
  { rounds := (o.rounds.or rounds).getD defaultRounds, dwell := (o.dwell.or dwell).getD defaultDwell }

/-- Replacing fields puts a layer on top. -/
theorem override_given (o : SimulateOptions) (rounds dwell : Option UInt32) :
    override { rounds := rounds.getD defaultRounds, dwell := dwell.getD defaultDwell } o.rounds o.dwell =
      o.layered rounds dwell := by
  rw [override, SimulateOptions.layered, Option.getD_or, Option.getD_or]

namespace SimulateOptions

variable {o : SimulateOptions} {read : String → Except FileFault String} {path text : String}

/-- With a file, the options are laid over what it says. -/
theorem effective_of_load {s : Settings} (file : o.settings = some path)
    (loaded : ChannelSurvey.load Settings.record.reader path (read path) = .ok s) :
    o.effective read = checked Settings.check (override s o.rounds o.dwell) := by
  rw [effective, file, Option.map_some, loaded]
  rfl

/-- Without a file, the options are laid over the defaults. -/
theorem effective_without_file (none : o.settings = none) :
    o.effective read = checked Settings.check (override {} o.rounds o.dwell) := by
  rw [effective, none]
  rfl

end SimulateOptions

/-- **The settings in force.** Of options and files, whatever they are:

* a file that is an object in which each field stands at most once gives the settings by layers, in whatever order its
  members stand and whatever other members it has;
* without a file there are two layers;
* without options the files that are taken are those that load on their own, with the same settings. -/
theorem effective_vetted (o : SimulateOptions) (read : String → Except FileFault String) :
    (∀ path text ms rounds dwell, o.settings = some path → read path = .ok text → ObjectDocument ms text.toList →
      (Settings.record.known ms).Perm (Settings.given rounds dwell) →
        Vetted (o.effective read) (o.layered rounds dwell)) ∧
    (o.settings = none → Vetted (o.effective read) (o.layered none none)) ∧
    ∀ path, o.settings = some path → o.rounds = none → o.dwell = none →
      o.effective read = loadSettings path (read path) := by
  refine ⟨?_, ?_, ?_⟩
  · intro path text ms rounds dwell file content object arranged
    have hdocument := (Settings.assembly rounds dwell).document_assembly object arranged
    have hloaded : load Settings.record.reader path (read path) =
        .ok { rounds := rounds.getD defaultRounds, dwell := dwell.getD defaultDwell } := by
      rw [content, load, hdocument]
    rw [SimulateOptions.effective_of_load file hloaded, override_given]
    exact vetted_checked _
  · intro none
    have hlayers := override_given o .none .none
    rw [Option.getD_none, Option.getD_none] at hlayers
    rw [SimulateOptions.effective_without_file none, ← hlayers]
    exact vetted_checked _
  · intro path file noRounds noDwell
    rw [SimulateOptions.effective, effectiveSettings, file, noRounds, noDwell]
    rfl

/-- A file without rounds is taken with an option for them, and refused without. -/
theorem effective_vetted_replaced :
    let text := "\x7b\"extra\":[\x7b\"deep\":null\x7d],\"roc_duration_ms\":7,\"num_req_surveys\":0\x7d"
    let o : SimulateOptions :=
      { scenario := "s.json", settings := some "c.json", rounds := some 3, dwell := none, seed := 1, output := none }
    let read (_ : String) : Except FileFault String := .ok text
    (∃ ms, ObjectDocument ms text.toList ∧ (Settings.record.known ms).Perm (Settings.given (some 0) (some 7))) ∧
      o.effective read = .ok { rounds := 3, dwell := 7 } ∧
      { o with rounds := none }.effective read = .error (.invalid .noRounds) ∧
      { o with settings := none }.effective read = .ok { rounds := 3, dwell := 5 } := by
  intro text o read
  let fields : List (String × Value) :=
    [("extra", .list [.object [("deep", .null)]]), ("roc_duration_ms", .integer 7),
    ("num_req_surveys", .integer 0)]
  have htext : text.toList = (Value.object fields).write .tight 0 := by decide +kernel
  have hexact : ∀ m ∈ fields, m.2.Exact := by
    simp only [fields, List.forall_mem_cons]
    exact ⟨.list (by simpa using .object (by simpa using .null)), .integer _, .integer _, List.forall_mem_nil _⟩
  have hobject := objectDocument_write blank_tight 0 fields fun m hm => derives_write blank_tight (hexact m hm) 1
  rw [← htext] at hobject
  have harranged : (Settings.record.known (fields.map fun m => (m.1, m.2.write .tight 1))).Perm
      (Settings.given (some 0) (some 7)) :=
    List.Perm.swap _ _ _
  obtain ⟨hfile, -, -⟩ := effective_vetted o read
  obtain ⟨hfile', -, -⟩ := effective_vetted { o with rounds := none } read
  obtain ⟨-, hbare, -⟩ := effective_vetted { o with settings := none } read
  exact ⟨⟨_, hobject, harranged⟩, (hfile _ _ _ _ _ rfl rfl hobject harranged).taken.mpr (by decide),
    (hfile' _ _ _ _ _ rfl rfl hobject harranged).noRounds rfl, (hbare rfl).taken.mpr (by decide)⟩

end ChannelSurvey.Cli

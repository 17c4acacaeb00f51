import ChannelSurvey.Proofs.Interface.Holding
import ChannelSurvey.Proofs.Sweep.Course
import ChannelSurvey.Proofs.Sweep.Route
import Mathlib.Data.List.Flatten

/-!
# The samples of a sweep

A sweep accepts a survey when it waits for the counters of that frequency; every other survey it is
brought is ignored. A `Chronicle` writes down the accepted surveys of the current sweep in the order of
their delivery. Nothing in a sweep reads it.

**The law** (`filed_of_calls`): while a sweep is active, each channel holds the samples of the surveys
accepted for it, one after the other, and nothing else; the counts and noise floors are those of these
samples. When a selection is reported, every enabled channel has had as many surveys as there are rounds.

Two invariants carry the induction. The interface `Holds` what the chronicle lists, and the channels
surveyed, followed by those ahead, make up the route (`Along`).
-/

namespace ChannelSurvey.Sweep

/-! ## Accepted surveys -/

/-- A survey that was accepted: the position of its channel, and its samples. -/
structure Filing where
  index : Nat
  samples : List Sample

/-- The survey that an event brings, if the sweep waits for it. -/
def accepted? : Phase → Event → Option Filing
  | .surveying index wanted, .survey freq samples => if wanted = freq then some ⟨index, samples⟩ else none
  | _, _ => none

/-- A sweep under watch, with the surveys it has accepted since the last start that was accepted. -/
structure Chronicle extends Watched where
  filings : List Filing := []

/-- The samples filed for a channel, in order of delivery. -/
def filedFor (filings : List Filing) (index : Nat) : List Sample :=
  (filings.filter (·.index == index)).flatMap (·.samples)

/-- All samples filed. -/
def filed (filings : List Filing) : List Sample :=
  filings.flatMap (·.samples)

theorem filedFor_concat (filings : List Filing) (f : Filing) :
    filedFor (filings ++ [f]) = Interface.give (filedFor filings) f.index f.samples := by
  funext k
  rw [filedFor, List.filter_append, List.flatMap_append, List.filter_cons, List.filter_nil, Interface.give]
  by_cases same : f.index = k
  · rw [if_pos (beq_iff_eq.mpr same), if_pos same, List.flatMap_singleton]
    rfl
  · rw [if_neg (mt beq_iff_eq.mp same), if_neg same, List.flatMap_nil, List.append_nil]
    rfl

theorem filed_concat (filings : List Filing) (f : Filing) : filed (filings ++ [f]) = filed filings ++ f.samples := by
  rw [filed, List.flatMap_append, List.flatMap_singleton]
  rfl

theorem accepted?_eq_some {p : Phase} {e : Event} {f : Filing} (h : accepted? p e = some f) :
    ∃ freq, p = .surveying f.index freq ∧ e = .survey freq f.samples := by
  unfold accepted? at h
  split at h
  · rename_i index wanted freq samples
    split at h
    · rename_i same
      cases h
      exact ⟨wanted, rfl, by rw [same]⟩
    · cases h
  · cases h

section

variable [BinaryLog]

namespace Chronicle

/-- A sweep that never ran, with nothing filed. -/
def fresh (i : Interface) : Chronicle :=
  { toWatched := .fresh i }

/-- What is filed after a call. -/
def filingsAfter (x : Chronicle) : Call → List Filing
  | .start =>
    match Sweep.start x.phase x.iface with
    | .ok _ => []
    | .error _ => x.filings
  | .event e => x.filings ++ (accepted? x.phase e).toList
  | .capability _ => x.filings

def after (x : Chronicle) (c : Call) : Chronicle :=
  { toWatched := x.toWatched.after c, filings := x.filingsAfter c }

def afterAll (x : Chronicle) (calls : List Call) : Chronicle :=
  calls.foldl after x

/-- Filing does not touch the sweep. -/
theorem toWatched_afterAll (x : Chronicle) (calls : List Call) :
    (x.afterAll calls).toWatched = x.toWatched.afterAll calls := by
  induction calls generalizing x with
  | nil => rfl
  | cons c rest ih => exact ih (x.after c)

end Chronicle

/-! ## What the interface holds -/

/-- Closing a round adds nothing, while the sweep goes on. -/
theorem Closed.holds {i : Interface} {step : Step} {held : Nat → List Sample} {all : List Sample}
    (closing : Closed i step) (h : i.Holds held all) (active : step.phase.isActive = true) :
    step.iface.Holds held all := by
  have hround : (roundAdded i).Holds held all := h.congr rfl rfl rfl
  cases closing with
  | again => exact hround.congr rfl rfl rfl
  | noChannel | noData | noIdeal => cases active
  | selected => exact (Interface.holds_select hround).congr rfl rfl rfl

/-- While the sweep goes on, an accepted survey is all that is added. -/
theorem Proceeds.holds {i : Interface} {index : Nat} {samples : List Sample} {step : Step}
    {held : Nat → List Sample} {all : List Sample} (proceeds : Proceeds i index samples step)
    (h : i.Holds held all) (range : index < i.channels.length) (active : step.phase.isActive = true) :
    step.iface.Holds (Interface.give held index samples) (all ++ samples) := by
  have hstored := Interface.holds_recordAll h range samples
  cases proceeds with
  | next => exact hstored.congr rfl rfl rfl
  | closed =>
    have hbehind : (roundStored i index samples).Holds (Interface.give held index samples) (all ++ samples) :=
      hstored.congr rfl rfl rfl
    exact (closeRound_closed _).holds hbehind active
  | outOfRange => cases active

/-- An event that brings no accepted survey leaves what is held alone, while the sweep goes on. -/
theorem holds_handled {p : Phase} {i : Interface} {e : Event} {step : Step} {held : Nat → List Sample}
    {all : List Sample} (handled : Handled p i e step) (unasked : accepted? p e = none)
    (h : p.isActive = true → i.Holds held all) (empty : p = .kickoff → held = (fun _ => []) ∧ all = [])
    (active : step.phase.isActive = true) : step.iface.Holds held all := by
  cases handled with
  | ignored => exact h active
  | refused | notReady | cutShort | noChannel | outOfRange | accepted | rejected => cases active
  | @opened i s rest log first =>
    obtain ⟨rfl, rfl⟩ := empty rfl
    exact (Interface.holds_clear i).congr rfl rfl rfl
  | dwelt => exact h rfl
  | next | closed => simp only [accepted?, if_true, reduceCtorEq] at unasked

end

/-! ## Along the route -/

/-- The channels surveyed so far, followed by those ahead, make up the route. -/
def Along : Phase → Interface → List Nat → Prop
  | .kickoff, _, visited => visited = []
  | .scanning index _, i, visited | .surveying index _, i, visited =>
    visited ++ index :: (routeFrom i (index + 1)).map (·.index) = (route i).map (·.index)
  | .awaitingVerdict _, i, visited => visited = (route i).map (·.index)
  | .roundComplete, _, _ => False
  | .idle, _, _ | .done _, _, _ | .failed _, _, _ => True

theorem along_toward {i : Interface} {visited : List Nat} {position : Nat} {s : Stop} {rest : List Stop}
    (h : visited ++ (routeFrom i position).map (·.index) = (route i).map (·.index))
    (next : i.stopsFrom position = s :: rest) : Along (toward i s).phase (toward i s).iface visited := by
  rw [routeFrom_cons next, List.map_cons] at h
  exact h

section

variable [BinaryLog]

theorem Closed.along {i : Interface} {position : Nat} {visited : List Nat} {step : Step}
    (closing : Closed i step) (h : visited ++ (routeFrom i position).map (·.index) = (route i).map (·.index))
    (last : i.stopsFrom position = []) (room : i.roundsDone.toNat + 1 < UInt32.size) :
    Along step.phase step.iface visited := by
  cases closing with
  | again more first =>
    rw [routeFrom_again last room more] at h
    exact along_toward (i := roundAdded i) h first
  | noChannel | noData | noIdeal => trivial
  | selected paid =>
    rw [routeFrom_nil last room paid, List.map_nil, List.append_nil] at h
    have hselect : Interface.SameLayout (roundAdded i).select.iface i :=
      (Interface.sameLayout_select _).trans ⟨rfl, rfl⟩
    rw [← route_congr hselect] at h
    exact h

theorem Proceeds.along {i : Interface} {index : Nat} {freq : UInt32} {samples : List Sample} {step : Step}
    {visited : List Nat} (proceeds : Proceeds i index samples step) (stop : OnStop i index freq)
    (h : Along (.surveying index freq) i visited) : Along step.phase step.iface (visited ++ [index]) := by
  have hahead : visited ++ [index] ++ (routeFrom i (index + 1)).map (·.index) = (route i).map (·.index) := by
    rw [List.append_assoc]
    exact h
  have hrounds := Interface.roundsDone_recordAll i index samples
  cases proceeds with
  | next after =>
    have hlayout := (Interface.sameLayout_recordAll i index samples).symm
    -- what lies ahead depends on the layout and the rounds done, and storing samples changes neither
    rw [routeFrom_congr hlayout hrounds.symm, route_congr hlayout] at hahead
    exact along_toward hahead ((Interface.stopsFrom_congr hlayout _).symm.trans after)
  | closed range last =>
    have hlayout := (sameLayout_roundStored i index samples).symm
    have hroom : (roundStored i index samples).roundsDone.toNat + 1 < UInt32.size := by
      rw [roundStored, hrounds]
      exact room_of_owed stop.owed
    rw [routeFrom_congr hlayout hrounds.symm, route_congr hlayout] at hahead
    exact (closeRound_closed _).along hahead ((Interface.stopsFrom_congr hlayout _).symm.trans last) hroom
  | outOfRange => trivial

theorem along_handled {p : Phase} {i : Interface} {e : Event} {step : Step} {visited : List Nat}
    (handled : Handled p i e step) (unasked : accepted? p e = none) (h : Along p i visited) :
    Along step.phase step.iface visited := by
  cases handled with
  | ignored => exact h
  | refused | notReady | cutShort | noChannel | outOfRange | accepted | rejected => trivial
  | @opened i s rest log first =>
    obtain rfl : visited = [] := h
    refine along_toward ?_ ((Interface.stopsFrom_clear i 0).trans first)
    rw [routeFrom_zero rfl]
    rfl
  | dwelt => exact h
  | next | closed => simp only [accepted?, if_true, reduceCtorEq] at unasked

/-! ## Whole runs -/

/-- **The invariant**: what is filed of an active sweep is what its interface holds, along the route. -/
structure OnFile (p : Phase) (i : Interface) (filings : List Filing) : Prop where
  holds : p.isActive = true → i.Holds (filedFor filings) (filed filings)
  along : Along p i (filings.map (·.index))

/-- An accepted survey is filed where it is stored. -/
theorem onFile_accepted {i : Interface} {f : Filing} {freq : UInt32} {filings : List Filing}
    (h : OnFile (.surveying f.index freq) i filings) (stop : OnStop i f.index freq) :
    OnFile (handle (.surveying f.index freq) i (.survey freq f.samples)).phase
      (handle (.surveying f.index freq) i (.survey freq f.samples)).iface (filings ++ [f]) := by
  obtain ⟨step, hproceeds, hstep⟩ := survey_proceeds i f.index freq f.samples
  rw [handle_survey, hstep]
  constructor
  · intro active
    rw [filedFor_concat, filed_concat]
    exact hproceeds.holds (h.holds rfl) (stop.position ▸ stop.range) active
  · rw [List.map_append]
    exact hproceeds.along stop h.along

theorem onFile_handled {p : Phase} {i : Interface} {e : Event} {step : Step} {filings : List Filing}
    (h : OnFile p i filings) (handled : Handled p i e step) (unasked : accepted? p e = none) :
    OnFile step.phase step.iface filings := by
  refine ⟨holds_handled handled unasked h.holds fun waiting => ?_, along_handled handled unasked h.along⟩
  subst waiting
  obtain rfl : filings = [] := List.map_eq_nil_iff.mp h.along
  exact ⟨rfl, rfl⟩

omit [BinaryLog] in
/-- What the radio can do is no part of what is filed. -/
theorem OnFile.capability {p : Phase} {i : Interface} {filings : List Filing} (h : OnFile p i filings)
    (able : Bool) : OnFile p { i with offChannelCapable := able } filings := by
  refine ⟨fun active => (h.holds active).congr rfl rfl rfl, ?_⟩
  have halong := h.along
  cases p <;> exact halong

/-- **One call keeps a chronicle on file.** -/
theorem onFile_after {x : Chronicle} (h : OnFile x.phase x.iface x.filings) (sound : Sound x.phase x.iface)
    (c : Call) : OnFile (x.after c).phase (x.after c).iface (x.after c).filings := by
  obtain ⟨⟨⟨p, i⟩, t⟩, filings⟩ := x
  cases c with
  | start =>
    cases hstart : Sweep.start p i with
    | error f =>
      simp only [Chronicle.after, Watched.after, Chronicle.filingsAfter, hstart]
      exact h
    | ok step =>
      obtain ⟨_, started⟩ := start_started hstart
      simp only [Chronicle.after, Watched.after, Chronicle.filingsAfter, hstart]
      cases started with
      | dirty | incapable => exact ⟨fun active => (by cases active), trivial⟩
      | begun => exact ⟨fun _ => Interface.holds_clear i, rfl⟩
  | event e =>
    cases haccepted : accepted? p e with
    | some f =>
      obtain ⟨freq, rfl, rfl⟩ := accepted?_eq_some haccepted
      simp only [Chronicle.after, Watched.after, Chronicle.filingsAfter, haccepted]
      exact onFile_accepted h sound.fits
    | none =>
      simp only [Chronicle.after, Watched.after, Chronicle.filingsAfter, haccepted, Option.toList_none,
        List.append_nil]
      exact onFile_handled h (handle_handled p i e) haccepted
  | capability able => exact h.capability able

theorem onFile_afterAll {i : Interface} {x : Chronicle} (h : OnFile x.phase x.iface x.filings)
    (course : OnCourse i x.toWatched) (calls : List Call) :
    OnFile (x.afterAll calls).phase (x.afterAll calls).iface (x.afterAll calls).filings := by
  induction calls generalizing x with
  | nil => exact h
  | cons c rest ih => exact ih (onFile_after h course.sound c) (onCourse_after course c)

/-- **A chronicle of a clean interface is on file**, on its course, after any calls. -/
theorem onFile_fresh {i : Interface} (clean : i.isClean = true) (calls : List Call) :
    let x := (Chronicle.fresh i).afterAll calls
    OnFile x.phase x.iface x.filings ∧ OnCourse i x.toWatched := by
  have hcourse : OnCourse i (Chronicle.fresh i).toWatched := onCourse_fresh clean
  have hfile : OnFile .idle i [] := ⟨fun active => (by cases active), trivial⟩
  refine ⟨onFile_afterAll (x := .fresh i) hfile hcourse calls, ?_⟩
  rw [Chronicle.toWatched_afterAll]
  exact onCourse_afterAll hcourse calls

/-! ## What the chronicle accounts for -/

omit [BinaryLog] in
/-- The channels that have samples are those with a survey that brought some. -/
theorem countP_isStocked {i : Interface} {held : Nat → List Sample} {all : List Sample} (h : i.Holds held all) :
    i.channels.countP (·.isStocked) =
      (List.range i.channels.length).countP fun index => !(held index).isEmpty := by
  have hstocked : i.channels.map (·.isStocked) =
      (List.range i.channels.length).map fun index => !(held index).isEmpty := by
    refine List.ext_getElem (by rw [List.length_map, List.length_map, List.length_range]) fun k hk _ => ?_
    rw [List.length_map] at hk
    rw [List.getElem_map, List.getElem_map, List.getElem_range,
      ← (h.channel k _ (List.getElem?_eq_getElem hk)).stored, Array.isEmpty_toList]
    rfl
  have hcount := congrArg (List.countP id) hstocked
  rw [List.countP_map, List.countP_map] at hcount
  exact hcount

omit [BinaryLog] in
/-- The channels surveyed while a sweep is active are those of the route, or the first of them. -/
theorem Along.begins {p : Phase} {i : Interface} {visited : List Nat} (h : Along p i visited)
    (active : p.isActive = true) : visited <+: (route i).map (·.index) := by
  cases p with
  | idle | done _ | failed _ => cases active
  | roundComplete => exact h.elim
  | kickoff =>
    obtain rfl : visited = [] := h
    exact List.nil_prefix
  | scanning index freq | surveying index freq => exact ⟨_, h⟩
  | awaitingVerdict s =>
    obtain rfl : visited = _ := h
    exact List.prefix_rfl

omit [BinaryLog] in
theorem enabled_of_mem_route {i : Interface} {index : Nat} (h : index ∈ (route i).map (·.index)) :
    ∃ c, i.channels[index]? = some c ∧ c.disabled = false := by
  obtain ⟨s, hs, rfl⟩ := List.mem_map.mp h
  exact Interface.enabled_of_mem_stops (mem_route.mp hs)

/-- A report of a selection is what a sweep awaits the verdict on. -/
theorem Handled.awaiting_of_reportSelected {p : Phase} {i : Interface} {e : Event} {step : Step}
    {s : Selection} (handled : Handled p i e step) (reported : step.action = some (.reportSelected s)) :
    step.phase = .awaitingVerdict s := by
  cases handled with
  | closed _ _ closing =>
    cases closing with
    | selected =>
      cases reported
      rfl
    | _ => cases reported
  | _ => cases reported

/-- **No sample is lost, doubled, misfiled or carried over.** On a clean interface, after any calls: while
the sweep is active each channel holds the samples of the surveys accepted for it since the start, in the
order of their delivery, and every accepted survey was for an enabled channel of the list. While no count
has wrapped, the count and the lowest noise floor of a channel are those of its samples, the lowest noise
floor of the interface is that of all of them, and the channels surveyed are those that have any. When a
selection is reported, every enabled channel has had as many surveys as there are rounds, and a disabled
one none. -/
theorem filed_of_calls (i : Interface) (clean : i.isClean = true) (calls : List Call) :
    let x := (Chronicle.fresh i).afterAll calls
    (x.phase.isActive = true →
      (∀ index (c : Channel), x.iface.channels[index]? = some c →
        c.samples.toList = filedFor x.filings index) ∧
      (∀ f ∈ x.filings, ∃ c, i.channels[f.index]? = some c ∧ c.disabled = false) ∧
      ((∀ index, (filedFor x.filings index).length < UInt32.size) →
        (∀ index (c : Channel), x.iface.channels[index]? = some c →
          c.count.toNat = (filedFor x.filings index).length ∧
          c.quietest = lowestNoise (filedFor x.filings index)) ∧
        x.iface.quietest = lowestNoise (filed x.filings) ∧
        x.iface.surveyed =
          (List.range i.channels.length).countP fun index => !(filedFor x.filings index).isEmpty)) ∧
    ∀ e s, (handle x.phase x.iface e).action = some (.reportSelected s) →
      ∀ index c, i.channels[index]? = some c →
        (x.after (.event e)).filings.countP (·.index == index) =
          if c.disabled then 0 else i.settings.target.toNat := by
  intro x
  obtain ⟨hfile, hcourse⟩ : OnFile x.phase x.iface x.filings ∧ OnCourse i x.toWatched :=
    onFile_fresh clean calls
  refine ⟨fun active => ?_, fun e s reported index c hc => ?_⟩
  · have hholds := hfile.holds active
    refine ⟨fun index c hc => (hholds.channel index c hc).stored, fun f hf => ?_, fun few => ?_⟩
    · have hbegins := hfile.along.begins active
      rw [route_congr hcourse.layout] at hbegins
      exact enabled_of_mem_route (hbegins.subset (List.mem_map_of_mem hf))
    · refine ⟨fun index c hc => ?_, hholds.quietest, ?_⟩
      · have hchannel := hholds.channel index c hc
        exact ⟨hchannel.toNat_count (few index), hchannel.quietest⟩
      · rw [hholds.surveyed few, countP_isStocked hholds, hcourse.layout.length]
  · have handled := handle_handled x.phase x.iface e
    have hphase : (x.after (.event e)).phase = .awaitingVerdict s := handled.awaiting_of_reportSelected reported
    have halong := (onFile_after hfile hcourse.sound (.event e)).along
    have hlayout := (onCourse_after hcourse (.event e)).layout
    rw [hphase] at halong
    have hvisited : (x.after (.event e)).filings.map (·.index) = (route i).map (·.index) := by
      rw [← route_congr hlayout]
      exact halong
    have hcount := congrArg (List.countP (· == index)) hvisited
    rw [List.countP_map, List.countP_map] at hcount
    exact hcount.trans (countP_route hc)

end

/-- No channel is filed more samples than there are. -/
theorem length_filedFor_le (filings : List Filing) (index : Nat) :
    (filedFor filings index).length ≤ (filed filings).length :=
  (List.filter_sublist.flatMap Filing.samples).length_le

/-- Two rounds over two enabled channels, the second time without samples on the first of them, with a
survey brought twice and a sweep before that failed. -/
theorem filed_of_calls_twoRounds :
    let i : Interface :=
      { channels := [{ number := 1, freq := 2412 }, { number := 6, freq := 2437, disabled := true },
          { number := 11, freq := 2462 }]
        offChannelCapable := true, settings := { rounds := 2, dwell := 5 } }
    let idle (noise : Int8) : Sample := { total := 5000, busy := 0, own := 0, noise }
    let calls : List Call :=
      [.start, .event .kickoffComplete, .event (.cancelled 2412 5 0), .event (.survey 2412 [idle (-99)]),
        .event (.refused (.survey 2462 "gone")),
        .start, .event .kickoffComplete, .event (.cancelled 2412 5 0), .event (.survey 2412 [idle (-90)]),
        .event (.survey 2412 [idle (-91)]), .event (.cancelled 2462 5 0),
        .event (.survey 2462 [idle (-92), idle (-93)]), .event (.cancelled 2412 5 0),
        .event (.survey 2412 []), .event (.cancelled 2462 5 0)]
    let x := (Chronicle.fresh i).afterAll calls
    let final : Event := .survey 2462 [idle (-94)]
    i.isClean = true ∧ x.phase.isActive = true ∧
      (∀ index, (filedFor x.filings index).length < UInt32.size) ∧
      (List.range 3).map (filedFor x.filings) = [[idle (-90)], [], [idle (-92), idle (-93)]] ∧
      (∀ index (c : Channel), x.iface.channels[index]? = some c →
        c.samples.toList = filedFor x.filings index) ∧
      x.iface.quietest = lowestNoise (filed x.filings) ∧
      (handle x.phase x.iface final).action =
        some (.reportSelected { number := 1, freq := 2412, score := -64.0 }) ∧
      (x.after (.event final)).filings.countP (·.index == 2) = 2 := by
  intro i idle calls x final
  have hclean : i.isClean = true := by decide
  have hactive : x.phase.isActive = true := by decide
  have hfew : ∀ index, (filedFor x.filings index).length < UInt32.size := fun index =>
    Nat.lt_of_le_of_lt (length_filedFor_le x.filings index) (by decide)
  have hreported : (handle x.phase x.iface final).action =
      some (.reportSelected { number := 1, freq := 2412, score := -64.0 }) := by decide
  obtain ⟨hwhile, hreport⟩ := filed_of_calls i hclean calls
  obtain ⟨hstored, _, hcounts⟩ := hwhile hactive
  exact ⟨hclean, hactive, hfew, by decide, hstored, (hcounts hfew).2.1, hreported,
    hreport final _ hreported 2 _ rfl⟩

end ChannelSurvey.Sweep

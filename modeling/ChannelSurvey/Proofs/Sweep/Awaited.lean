import ChannelSurvey.Proofs.Sweep.Handled

/-!
# Which events count

Notifications come late, twice, for another channel, or when no sweep is active. An event `aborts?` a sweep by
what it says alone: a refusal, or a status that is not zero. Beside these a phase `Awaits` one kind of event,
and goes `Onward` when that comes.

**The law** (`handle_classified`): an active sweep is failed by an event that aborts, whatever it waits for; it
goes onward with the event it awaits; and any other event changes nothing, as every event does without an active
sweep. No event aborts and is awaited. The entry points for single events do the same as `handle`, though they
guard themselves.

**What it leaves open.** A step also writes to the log, and an event that changes nothing is logged in one way or
another, so steps are compared by their effect (`Step.Same`).
-/

namespace ChannelSurvey

/-- Two steps do the same: they arrive at the same phase and interface, and ask for the same. -/
structure Step.Same (s t : Step) : Prop where
  phase : s.phase = t.phase
  iface : s.iface = t.iface
  action : s.action = t.action

/-- A step changes nothing and asks for nothing. -/
structure Step.Idle (p : Phase) (i : Interface) (s : Step) : Prop where
  phase : s.phase = p
  iface : s.iface = i
  quiet : s.action = none

theorem Step.Same.refl (s : Step) : s.Same s :=
  ⟨rfl, rfl, rfl⟩

/-- Two steps that do nothing are the same but for their messages. -/
theorem Step.Idle.same {p : Phase} {i : Interface} {s t : Step} (hs : s.Idle p i) (ht : t.Idle p i) : s.Same t :=
  ⟨hs.phase.trans ht.phase.symm, hs.iface.trans ht.iface.symm, hs.quiet.trans ht.quiet.symm⟩

/-- What an event fails every active sweep with, if it does. -/
def Event.aborts? : Event → Option Failure
  | .refused r => some (.refused r)
  | .ready freq _ status => if status ≠ 0 then some (.refused (.offChannelStatus freq status)) else none
  | .cancelled freq _ status => if status ≠ 0 then some (.cancelled freq status) else none
  | .kickoffComplete | .survey .. | .verdict _ => none

namespace Sweep

/-- The events a phase waits for. -/
inductive Awaits : Phase → Event → Prop
  | scan : Awaits .kickoff .kickoffComplete
  | departure {index : Nat} {freq dwell : UInt32} : Awaits (.scanning index freq) (.cancelled freq dwell 0)
  | survey {index : Nat} {freq : UInt32} {samples : List Sample} :
      Awaits (.surveying index freq) (.survey freq samples)
  | verdict {s : Selection} {v : Verdict} : Awaits (.awaitingVerdict s) (.verdict v)

/-- Where a phase leads when what it waits for has come. -/
inductive Onward : Phase → Phase → Prop
  | opened {index : Nat} {freq : UInt32} : Onward .kickoff (.scanning index freq)
  | unopened {f : Failure} : Onward .kickoff (.failed f)
  | dwelt {index : Nat} {freq : UInt32} : Onward (.scanning index freq) (.surveying index freq)
  | next {index index' : Nat} {freq freq' : UInt32} : Onward (.surveying index freq) (.scanning index' freq')
  | handedOver {index : Nat} {freq : UInt32} {s : Selection} :
      Onward (.surveying index freq) (.awaitingVerdict s)
  | unsettled {index : Nat} {freq : UInt32} {f : Failure} : Onward (.surveying index freq) (.failed f)
  | accepted {s : Selection} : Onward (.awaitingVerdict s) (.done s)
  | rejected {s : Selection} {f : Failure} : Onward (.awaitingVerdict s) (.failed f)

/-- Going onward leaves the phase. -/
theorem Onward.ne {p q : Phase} (h : Onward p q) : q ≠ p := by
  cases h <;> intro same <;> cases same

/-- An event that is awaited does not abort. -/
theorem Awaits.aborts?_eq_none {p : Phase} {e : Event} (h : Awaits p e) : e.aborts? = none := by
  cases h <;> rfl

/-- Only an active sweep waits for something. -/
theorem Awaits.active {p : Phase} {e : Event} (h : Awaits p e) : p.isActive = true := by
  cases h <;> rfl

theorem idle_ignore (p : Phase) (i : Interface) (log : List Severity) : (ignore p i log).Idle p i :=
  ⟨rfl, rfl, rfl⟩

/-! ## The entry points for single events -/

/-- A dwell that begins badly is a refusal. -/
theorem onReady_bad (p : Phase) (i : Interface) (freq : UInt32) {status : Int32} (bad : status ≠ 0) :
    onReady p i freq status = onRefused p i (.offChannelStatus freq status) :=
  if_pos bad

/-- An arrival with status zero changes nothing, in any phase. -/
theorem onReady_good (p : Phase) (i : Interface) (freq : UInt32) : (onReady p i freq 0).Idle p i := by
  unfold onReady
  rw [if_neg (fun bad => bad rfl)]
  split <;> exact idle_ignore _ i _

/-- A refusal ends an active sweep. -/
theorem onRefused_active {p : Phase} (active : p.isActive = true) (i : Interface) (r : Refusal) :
    onRefused p i r = fail i (.refused r) :=
  if_pos active

/-- Outside of a sweep it does nothing. -/
theorem onRefused_inactive {p : Phase} (inactive : p.isActive = false) (i : Interface) (r : Refusal) :
    (onRefused p i r).Idle p i := by
  simp only [onRefused, inactive, Bool.false_eq_true, if_false]
  exact idle_ignore p i _

/-- Nor does a dwell that ends. -/
theorem onCancelled_inactive {p : Phase} (inactive : p.isActive = false) (i : Interface) (freq : UInt32)
    (status : Int32) : (onCancelled p i freq status).Idle p i := by
  simp only [onCancelled, inactive, Bool.not_false, if_true]
  exact idle_ignore p i _

theorem onReady_inactive {p : Phase} (inactive : p.isActive = false) (i : Interface) (freq : UInt32)
    (status : Int32) : (onReady p i freq status).Idle p i := by
  by_cases bad : status ≠ 0
  · rw [onReady_bad p i freq bad]
    exact onRefused_inactive inactive i _
  · obtain rfl : status = 0 := Decidable.not_not.mp bad
    exact onReady_good p i freq

/-- A dwell that ends badly ends an active sweep. -/
theorem onCancelled_bad {p : Phase} (active : p.isActive = true) (i : Interface) (freq : UInt32) {status : Int32}
    (bad : status ≠ 0) : onCancelled p i freq status = fail i (.cancelled freq status) := by
  simp only [onCancelled, active, Bool.not_true, Bool.false_eq_true, if_false, bad, ne_eq, not_false_eq_true, if_true]

/-- A completed dwell that is not awaited changes nothing. -/
theorem onCancelled_unawaited {p : Phase} (i : Interface) (freq dwell : UInt32)
    (unawaited : ¬ Awaits p (.cancelled freq dwell 0)) : (onCancelled p i freq 0).Idle p i := by
  unfold onCancelled
  split
  · exact idle_ignore p i _
  · rw [if_neg (fun bad => bad rfl)]
    split
    · rename_i index wanted _
      by_cases same : wanted = freq
      · subst same
        exact absurd .departure unawaited
      · rw [if_neg same]
        exact idle_ignore _ i _
    · exact idle_ignore p i _

section

variable [BinaryLog]

/-- No event does anything outside of a sweep. -/
theorem idle_inactive {p : Phase} (inactive : p.isActive = false) (i : Interface) (e : Event) :
    (handle p i e).Idle p i := by
  rw [handle_inactive inactive]
  exact idle_ignore p i _

/-- In an active sweep these events come to their own answers. -/
theorem handle_active {p : Phase} (active : p.isActive = true) (i : Interface) :
    (∀ freq dwell status, handle p i (.ready freq dwell status) = onReady p i freq status) ∧
      (∀ freq dwell status, handle p i (.cancelled freq dwell status) = onCancelled p i freq status) ∧
      (∀ r, handle p i (.refused r) = onRefused p i r) := by
  simp only [handle, active, Bool.not_true, Bool.false_eq_true, if_false, implies_true, and_self]

end

/-! ## Aborting -/

section

variable [BinaryLog]

/-- **An event that aborts** fails every active sweep, whatever that waits for. -/
theorem handle_aborting {p : Phase} {e : Event} {f : Failure} (active : p.isActive = true) (i : Interface)
    (h : e.aborts? = some f) : handle p i e = fail i f := by
  obtain ⟨hready, hcancelled, hrefused⟩ := handle_active active i
  cases e with
  | refused r =>
    obtain rfl := Option.some.inj h
    rw [hrefused, onRefused_active active]
  | ready freq dwell status =>
    rw [Event.aborts?] at h
    split at h
    · rename_i bad
      obtain rfl := Option.some.inj h
      rw [hready, onReady_bad p i freq bad, onRefused_active active]
    · cases h
  | cancelled freq dwell status =>
    rw [Event.aborts?] at h
    split at h
    · rename_i bad
      obtain rfl := Option.some.inj h
      rw [hcancelled, onCancelled_bad active i freq bad]
    · cases h
  | kickoffComplete | survey | verdict => cases h

/-! ## Going on -/

/-- Behind the last channel of a round, a sweep goes on from the survey it waited for. -/
theorem Closed.onward {i : Interface} {step : Step} (closing : Closed i step) (index : Nat) (freq : UInt32) :
    Onward (.surveying index freq) step.phase := by
  cases closing with
  | again => exact .next
  | noChannel | noData | noIdeal => exact .unsettled
  | selected => exact .handedOver

/-- **An event that is awaited** takes the sweep onward. -/
theorem handle_awaited {p : Phase} {e : Event} (h : Awaits p e) (i : Interface) :
    Onward p (handle p i e).phase := by
  cases h with
  | scan =>
    show Onward _ (onKickoffComplete .kickoff i).phase
    cases hstops : i.stops with
    | nil =>
      rw [onKickoffComplete_fail hstops]
      exact .unopened
    | cons s rest =>
      rw [onKickoffComplete_toward hstops]
      exact .opened
  | @departure index freq dwell =>
    show Onward _ (if freq = freq then _ else _ : Step).phase
    rw [if_pos rfl]
    exact .dwelt
  | @survey index freq samples =>
    obtain ⟨step, hproceeds, hstep⟩ := survey_proceeds i index freq samples
    rw [handle_survey, hstep]
    cases hproceeds with
    | next after => exact .next
    | closed range last => exact (closeRound_closed _).onward index freq
    | outOfRange range => exact .unsettled
  | @verdict s v =>
    cases v with
    | valid => exact .accepted
    | invalid | inProgress => exact .rejected

/-! ## Neither -/

omit [BinaryLog] in
/-- A status that brings no failure is zero. -/
theorem zero_of_harmless {status : Int32} {f : Failure} (h : (if status ≠ 0 then some f else none) = none) :
    status = 0 := by
  by_cases bad : status ≠ 0
  · rw [if_pos bad] at h
    cases h
  · exact Decidable.not_not.mp bad

/-- **An event that neither aborts nor is awaited** changes nothing. -/
theorem handle_unawaited {p : Phase} {e : Event} (i : Interface) (harmless : e.aborts? = none)
    (unawaited : ¬ Awaits p e) : (handle p i e).Idle p i := by
  cases active : p.isActive with
  | false => exact idle_inactive active i e
  | true =>
    obtain ⟨hready, hcancelled, _⟩ := handle_active active i
    cases e with
    | refused r => cases harmless
    | ready freq dwell status =>
      rw [hready, zero_of_harmless harmless]
      exact onReady_good p i freq
    | cancelled freq dwell status =>
      obtain rfl := zero_of_harmless harmless
      rw [hcancelled]
      exact onCancelled_unawaited i freq dwell unawaited
    | kickoffComplete =>
      cases p with
      | kickoff => exact absurd .scan unawaited
      | _ => exact idle_ignore _ i _
    | survey freq samples =>
      cases p with
      | surveying index wanted =>
        show (if wanted = freq then _ else _ : Step).Idle _ i
        by_cases same : wanted = freq
        · subst same
          exact absurd .survey unawaited
        · rw [if_neg same]
          exact idle_ignore _ i _
      | _ => exact idle_ignore _ i _
    | verdict v =>
      cases p with
      | awaitingVerdict s => exact absurd .verdict unawaited
      | _ => exact idle_ignore _ i _

/-- **Which events count.** An active sweep is failed by an event that aborts, and told so; with the event it
awaits, which aborts none, it goes onward; any other event changes nothing, and without an active sweep every
event does. What is brought to an entry point of its own has the effect it has through `handle`, in every
phase. -/
theorem handle_classified (p : Phase) (i : Interface) (e : Event) :
    (p.isActive = true →
      (∀ f, e.aborts? = some f →
        (handle p i e).phase = .failed f ∧ (handle p i e).action = some (.reportFailed f) ∧
          (handle p i e).iface = i.clear) ∧
      (Awaits p e → e.aborts? = none ∧ Onward p (handle p i e).phase ∧ (handle p i e).phase ≠ p) ∧
      (e.aborts? = none → ¬ Awaits p e → (handle p i e).Idle p i)) ∧
    (p.isActive = false → ¬ Awaits p e ∧ (handle p i e).Idle p i) ∧
    (∀ freq dwell status,
      (onReady p i freq status).Same (handle p i (.ready freq dwell status)) ∧
      (onCancelled p i freq status).Same (handle p i (.cancelled freq dwell status))) ∧
    ∀ r, (onRefused p i r).Same (handle p i (.refused r)) := by
  refine ⟨fun active => ⟨?_, ?_, handle_unawaited i⟩, fun inactive => ⟨?_, idle_inactive inactive i e⟩, ?_⟩
  · intro f aborting
    rw [handle_aborting active i aborting]
    exact ⟨rfl, rfl, rfl⟩
  · intro awaited
    have honward := handle_awaited awaited i
    exact ⟨awaited.aborts?_eq_none, honward, honward.ne⟩
  · intro awaited
    rw [awaited.active] at inactive
    cases inactive
  · -- an entry point guards itself where `handle` guards all of them at once
    cases active : p.isActive with
    | true =>
      obtain ⟨hready, hcancelled, hrefused⟩ := handle_active active i
      simp only [hready, hcancelled, hrefused]
      exact ⟨fun _ _ _ => ⟨.refl _, .refl _⟩, fun _ => .refl _⟩
    | false =>
      refine ⟨fun freq dwell status => ⟨?_, ?_⟩, fun r => ?_⟩
      · exact (onReady_inactive active i freq status).same (idle_inactive active i _)
      · exact (onCancelled_inactive active i freq status).same (idle_inactive active i _)
      · exact (onRefused_inactive active i r).same (idle_inactive active i _)

end

end Sweep

end ChannelSurvey

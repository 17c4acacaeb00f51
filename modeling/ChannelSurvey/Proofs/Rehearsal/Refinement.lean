import ChannelSurvey.MachineLog
import ChannelSurvey.Proofs.Radio.Pending
import ChannelSurvey.Proofs.Rehearsal.Sequential

/-!
# A rehearsal is the plain loop

Starting a sweep and delivering notifications until none is left comes to the same as
`Rehearsal.sequential`: the same phase and outcome, the same interface, radio and host, and the same calls
in the same order.

**The law** (`runSweep_sequential`): this holds for every interface, every host, and every simulated radio
with valid profiles and nothing queued. The deliveries end because the queue is empty, never because the
bound is reached.

What carries the induction is `Concludes`: carrying a step out and delivering what follows, for as many
notifications as are counted, comes to a given end. It is shown for the stops left in a round by induction
on them, and then for the rounds that are left.
-/

namespace ChannelSurvey

/-- The interface with the counters of the walk set. -/
def Interface.counted (i : Interface) (position : Nat) (roundsDone : UInt32) : Interface :=
  { i with position, roundsDone }

namespace Rehearsal

section

variable {η : Type} [Host η] [BinaryLog]

/-! ## Delivering -/

/-- With enough deliveries a station ends here, having made these calls, with nothing queued. -/
structure Finishes (w : Rehearsal η) (count : Nat) (w' : Rehearsal η) (calls : Journal) : Prop where
  quiet : w'.radio.pending = []
  delivers : ∀ limit, count ≤ limit →
    (deliver w limit).station = w' ∧ Journal.calls (deliver w limit).journal = calls

theorem Finishes.mono {w w' : Rehearsal η} {n m : Nat} {calls : Journal} (h : Finishes w n w' calls)
    (more : n ≤ m) : Finishes w m w' calls :=
  ⟨h.quiet, fun limit enough => h.delivers limit (Nat.le_trans more enough)⟩

/-- With nothing queued a rehearsal has finished. -/
theorem finishes_quiet {w : Rehearsal η} (quiet : w.radio.pending = []) : Finishes w 0 w [] := by
  refine ⟨quiet, fun limit _ => ?_⟩
  have hnext : w.radio.nextEvent = none := by simp only [SimulatedRadio.nextEvent, quiet]
  cases limit with
  | zero => exact ⟨rfl, rfl⟩
  | succ limit =>
    rw [deliver, hnext]
    exact ⟨rfl, rfl⟩

/-- Otherwise it finishes behind the next delivery. -/
theorem finishes_deliver {w w₁ w' : Rehearsal η} {e : Event} {rest : List Event} {n : Nat}
    {first calls : Journal} (queued : w.radio.pending = e :: rest)
    (yields : (Station.dispatch { w with radio := { w.radio with pending := rest } } e).Yields w₁ first)
    (h : Finishes w₁ n w' calls) : Finishes w (n + 1) w' (first ++ calls) := by
  refine ⟨h.quiet, fun limit enough => ?_⟩
  obtain ⟨limit, rfl⟩ := Nat.exists_eq_add_of_le' enough
  have hnext : w.radio.nextEvent = some (e, { w.radio with pending := rest }) := by
    simp only [SimulatedRadio.nextEvent, queued]
  obtain ⟨hstation, hcalls⟩ := h.delivers (limit + n) (Nat.le_add_left n limit)
  show (deliver w ((limit + n) + 1)).station = w' ∧ _
  simp only [deliver, hnext, yields.station, Journal.calls_append, yields.calls]
  exact ⟨hstation, congrArg (first ++ ·) hcalls⟩

/-- The two deliveries of a dwell that was begun. -/
theorem finishes_dwell {w w₁ w' : Rehearsal η} {index : Nat} {freq time : UInt32} {status : Int32} {n : Nat}
    {first calls : Journal} (scanning : w.phase = .scanning index freq)
    (queued : w.radio.pending = [.ready freq time 0, .cancelled freq time status])
    (yields : (Station.dispatch { w with radio := w.radio.heard } (.cancelled freq time status)).Yields w₁ first)
    (h : Finishes w₁ n w' calls) : Finishes w (n + 2) w' (first ++ calls) := by
  have hready := Station.yields_ready (w := { w with radio := { w.radio with
    pending := [.cancelled freq time status] } }) scanning time
  have hleft := finishes_deliver (w := { w with radio := { w.radio with
    pending := [.cancelled freq time status] } }) rfl yields h
  have hboth := finishes_deliver queued hready hleft
  exact hboth

/-- A start and the deliveries it leads to. -/
theorem runSweep_yields {w w₁ w' : Rehearsal η} {s : Step} {first calls : Journal}
    (inactive : w.phase.isActive = false) (started : Sweep.start w.phase (Station.refreshed w) = .ok s)
    (yields : (Station.follow w s).Yields w₁ first) (h : Finishes w₁ (deliveryBound w₁) w' calls) :
    ∃ run, runSweep w = .ok run ∧ run.Yields w' (first ++ calls) ∧ w'.radio.pending = [] := by
  have hstart : Station.startSweep w = .ok (Station.follow w s) := by
    rw [Station.startSweep_eq inactive, started]
    rfl
  obtain ⟨hstation, hcalls⟩ := h.delivers _ (Nat.le_refl _)
  rw [runSweep, hstart]
  refine ⟨_, rfl, ?_⟩
  obtain ⟨rfl, rfl⟩ := yields
  exact ⟨⟨hstation, by rw [Journal.calls_append, hcalls]⟩, h.quiet⟩

/-- A sweep that ends with nothing queued is not driven any further. -/
theorem runSweep_ends {w w₁ : Rehearsal η} {s : Step} {first : Journal} (inactive : w.phase.isActive = false)
    (started : Sweep.start w.phase (Station.refreshed w) = .ok s)
    (yields : (Station.follow w s).Yields w₁ first) (quiet : w₁.radio.pending = []) :
    ∃ run, runSweep w = .ok run ∧ run.Yields w₁ first ∧ w₁.radio.pending = [] := by
  obtain ⟨run, hrun, hyields, _⟩ :=
    runSweep_yields inactive started yields ((finishes_quiet quiet).mono (Nat.zero_le _))
  rw [List.append_nil] at hyields
  exact ⟨run, hrun, hyields, quiet⟩

/-! ## Steps of a tour -/

/-- Carrying out a step of a tour, and delivering this many notifications, comes to this end. -/
def Concludes (t : Tour) (host : η) (s : Step) (count : Nat) (final : Run SimulatedRadio η) : Prop :=
  ∃ w first calls,
    (Station.follow { phase := s.phase, iface := s.iface, radio := t.radio, host } s).Yields w first ∧
    Finishes w count final.station calls ∧ final.journal = t.calls ++ (first ++ calls)

theorem Concludes.mono {t : Tour} {host : η} {s : Step} {n m : Nat} {final : Run SimulatedRadio η}
    (h : Concludes t host s n final) (more : n ≤ m) : Concludes t host s m final := by
  obtain ⟨w, first, calls, yields, finishes, hjournal⟩ := h
  exact ⟨w, first, calls, yields, finishes.mono more, hjournal⟩

theorem Concludes.after {t : Tour} {host : η} {s : Step} {n : Nat} {final : Run SimulatedRadio η}
    (log : List Severity) (h : Concludes t host s n final) : Concludes t host (s.after log) n final := by
  obtain ⟨w, first, calls, yields, finishes, hjournal⟩ := h
  exact ⟨w, first, calls, Station.yields_after log yields, finishes, hjournal⟩

/-- A failure concludes, with the interface cleared. -/
theorem concludes_fail {t : Tour} (quiet : t.radio.pending = []) (host : η) {i : Interface}
    (same : i.clear = t.iface.clear) (f : Failure) :
    Concludes t host (Sweep.fail i f) 0 (t.abandon host f) := by
  refine ⟨t.abandon host f |>.station, [.notified t.iface.clear f], [], ?_, finishes_quiet quiet, rfl⟩
  rw [Sweep.fail_congr same]
  exact Station.yields_fail _ t.iface f

/-- A part of the loop leads here: if it ends the sweep, that is the end, and if not, this holds after it. -/
def Leads {α : Type} (x : Toured α) (host : η) (final : Run SimulatedRadio η) (after : α → Prop) : Prop :=
  Toured.Ends x (fun f t => final = t.abandon host f) after

/-- How the walk goes on in a round, with these stops left: to the next one, or to the end of the round. -/
def onward (i : Interface) (r : UInt32) : List Stop → Step
  | s :: _ => Sweep.toward (i.counted s.index r) s
  | [] => Sweep.closeRound .roundComplete (i.counted i.channels.length r)

omit [Host η] in
/-- A survey that is waited for is stored, and the walk goes on. -/
theorem onSurvey_onward {i : Interface} {s : Stop} (samples : List Sample) (r : UInt32)
    (range : s.index < i.channels.length) :
    Sweep.onSurvey (.surveying s.index s.freq) (i.counted s.index r) s.freq samples =
      (onward (i.recordAll s.index samples) r (i.stopsFrom (s.index + 1))).after
        (Sweep.surveyLog (i.counted s.index r) s.index samples) := by
  have hcounters : (i.counted s.index r).recordAll s.index samples =
      (i.recordAll s.index samples).counted s.index r := Interface.recordAll_counters ..
  cases hstops : i.stopsFrom (s.index + 1) with
  | cons next rest =>
    rw [Sweep.onSurvey_toward (i := i.counted s.index r) s.freq samples hstops, hcounters]
    rfl
  | nil =>
    rw [Sweep.onSurvey_closing (i := i.counted s.index r) s.freq samples range hstops, Sweep.roundStored,
      hcounters, onward, Interface.length_recordAll]
    rfl

/-- Reading a survey, as the radio has come back from a channel. -/
theorem concludes_survey {t : Tour} (quiet : t.radio.pending = []) {host : η} {s : Stop} {r : UInt32} {n : Nat}
    {final : Run SimulatedRadio η} (range : s.index < t.iface.channels.length) (log : List Severity)
    (h : Leads (t.survey s) host final fun t' =>
      Concludes t' host (onward t'.iface r (t.iface.stopsFrom (s.index + 1))) n final) :
    Concludes t host
      { phase := .surveying s.index s.freq, iface := t.iface.counted s.index r
        action := some (.requestTraffic s.freq), log } n final := by
  have hpending := t.radio.pending_requestTraffic s.freq
  unfold Tour.survey at h
  rcases hanswer : t.radio.requestTraffic s.freq with ⟨reply, radio, own⟩
  rw [hanswer, quiet] at hpending
  rw [hanswer] at h
  let w : Rehearsal η := ⟨.surveying s.index s.freq, t.iface.counted s.index r, t.radio, host⟩
  cases reply with
  | error why =>
    obtain rfl : final = _ := h
    have hrefused := Station.yields_traffic_refused (w := w) rfl hanswer
    exact ⟨_, _, [], Station.yields_follow rfl hrefused, (finishes_quiet hpending).mono (Nat.zero_le n),
      List.append_assoc ..⟩
  | ok samples =>
    obtain ⟨w', first, calls, yields, finishes, hjournal⟩ := h
    have hdispatch : (Station.dispatch { w with radio } (.survey s.freq samples)).Yields w' first := by
      show (Station.follow _ (Sweep.onSurvey (.surveying s.index s.freq) (t.iface.counted s.index r) s.freq
        samples)).Yields w' first
      rw [onSurvey_onward samples r range]
      exact Station.yields_after _ yields
    exact ⟨w', _, calls, Station.yields_follow rfl (Station.yields_traffic hanswer hdispatch), finishes,
      hjournal.trans (List.append_assoc ..)⟩

/-- Visiting a channel, as the walk heads for it: two notifications are delivered. -/
theorem concludes_toward {t : Tour} (quiet : t.radio.pending = []) {host : η} {s : Stop} {r : UInt32} {n : Nat}
    {final : Run SimulatedRadio η} (range : s.index < t.iface.channels.length)
    (h : Leads (t.visit s) host final fun t' =>
      Concludes t' host (onward t'.iface r (t.iface.stopsFrom (s.index + 1))) n final) :
    Concludes t host (Sweep.toward (t.iface.counted s.index r) s) (n + 2) final := by
  have hdwell := Toured.ends_bind.mp h
  have hrefused := @t.radio.radio_requestOffChannel s.freq t.iface.settings.dwell
  have haccepted := t.radio.pending_requestOffChannel s.freq t.iface.settings.dwell
  rcases hanswer : t.radio.requestOffChannel s.freq t.iface.settings.dwell with ⟨reply, radio, own⟩
  rw [hanswer] at hrefused haccepted
  let w : Rehearsal η := ⟨.scanning s.index s.freq, t.iface.counted s.index r, t.radio, host⟩
  cases reply with
  | error why =>
    obtain rfl : radio = t.radio := hrefused rfl
    rw [Tour.dwell_refused hanswer, SimulatedRadio.heard_of_quiet quiet] at hdwell
    obtain rfl : final = _ := hdwell
    have hyields := Station.yields_offChannel_refused (w := w) rfl hanswer
    exact ⟨_, _, [], Station.yields_follow rfl hyields, (finishes_quiet quiet).mono (Nat.zero_le _),
      List.append_assoc ..⟩
  | ok u =>
    have hyields := Station.yields_offChannel (w := w) hanswer
    have hqueued := haccepted rfl
    rw [quiet, List.nil_append] at hqueued
    rw [Tour.dwell_accepted hanswer] at hdwell
    -- the status of the departure is the only thing the radio has left to decide
    cases cut : radio.cutsShort.contains s.freq with
    | true =>
      simp only [cut, if_true] at hqueued hdwell
      obtain rfl : final = _ := hdwell
      have hcut := Station.yields_cutShort (w := { w with radio := radio.heard }) rfl
        (by decide : cutShortStatus ≠ 0) t.iface.settings.dwell
      have hfinishes := finishes_dwell (w := { w with radio }) rfl hqueued hcut (finishes_quiet rfl)
      exact ⟨_, _, _, Station.yields_follow rfl hyields, hfinishes.mono (Nat.le_add_left 2 n),
        List.append_assoc ..⟩
    | false =>
      simp only [cut, Bool.false_eq_true, if_false] at hqueued hdwell
      obtain ⟨w', first, calls, yields, finishes, hjournal⟩ := concludes_survey
        (t := { t with
          radio := radio.heard
          calls := t.calls ++ [.offChannel s.freq t.iface.settings.dwell (.ok ())] })
        rfl range [.trace] hdwell
      have hdwelt := Station.dispatch_dwelt (w := { w with radio := radio.heard }) rfl t.iface.settings.dwell
      have hfinishes := finishes_dwell (w := { w with radio }) rfl hqueued (hdwelt ▸ yields) finishes
      exact ⟨_, _, _, Station.yields_follow rfl hyields, hfinishes, hjournal.trans (List.append_assoc ..)⟩

/-! ## Rounds of a tour -/

omit [Host η] [BinaryLog] in
/-- A visit leaves nothing queued and the layout as it is. -/
theorem visit_ok {t t' : Tour} {s : Stop} (visited : t.visit s = .ok t') :
    t'.radio.pending = [] ∧ Interface.SameLayout t'.iface t.iface := by
  obtain ⟨t₁, hdwell, hsurvey⟩ : ∃ t₁, t.dwell s.freq = .ok t₁ ∧ t₁.survey s = .ok t' := by
    cases hdwell : t.dwell s.freq with
    | error e =>
      simp only [Tour.visit, hdwell] at visited
      cases visited
    | ok t₁ =>
      simp only [Tour.visit, hdwell] at visited
      exact ⟨t₁, rfl, visited⟩
  have hdwelt : t₁.radio.pending = [] ∧ t₁.iface = t.iface := by
    simp only [Tour.dwell] at hdwell
    split at hdwell
    · cases hdwell
    · split at hdwell
      · cases hdwell
      · cases hdwell
        exact ⟨rfl, rfl⟩
  have hpending := t₁.radio.pending_requestTraffic s.freq
  simp only [Tour.survey] at hsurvey
  split at hsurvey
  · cases hsurvey
  · cases hsurvey
    refine ⟨hpending.trans hdwelt.1, ?_⟩
    rw [hdwelt.2]
    exact Interface.sameLayout_recordAll ..

/-- **A round**: the stops that are left are visited, two deliveries each. -/
theorem concludes_stops {stops : List Stop} {t : Tour} {position : Nat} {host : η} {r : UInt32} {n : Nat}
    {final : Run SimulatedRadio η} (quiet : t.radio.pending = [])
    (left : t.iface.stopsFrom position = stops)
    (h : Leads (stops.foldlM Tour.visit t) host final fun t' =>
      t'.radio.pending = [] → Interface.SameLayout t'.iface t.iface →
        Concludes t' host (onward t'.iface r []) n final) :
    Concludes t host (onward t.iface r stops) (n + 2 * stops.length) final := by
  -- a visit stores samples only, so the stops left behind it are still those of the list
  induction stops generalizing t position with
  | nil => exact h quiet (.refl _)
  | cons s rest ih =>
    obtain ⟨_, hrest, _⟩ := Interface.stopsFrom_eq_cons left
    have range := Interface.index_lt_of_stopsFrom left
    rw [List.foldlM_cons] at h
    refine concludes_toward quiet range ((Toured.ends_bind.mp h).imp fun t' visited hnext => ?_)
    obtain ⟨hquiet, hlayout⟩ := visit_ok visited
    have hleft : t'.iface.stopsFrom (s.index + 1) = rest :=
      (Interface.stopsFrom_congr hlayout _).trans hrest.symm
    rw [← hrest]
    refine ih hquiet hleft (hnext.imp fun t'' _ hend => ?_)
    exact fun hquiet' hlayout' => hend hquiet' (hlayout'.trans hlayout)

omit [Host η] in
theorem onward_conclude {i : Interface} {r : UInt32} (last : r + 1 = i.settings.target) :
    onward i r [] = Sweep.conclude i.visited := by
  show (if r + 1 < i.settings.target then Sweep.nextRound (i.counted i.channels.length (r + 1))
    else Sweep.conclude (i.counted i.channels.length (r + 1))) = _
  rw [last, if_neg (UInt32.lt_irrefl _)]
  rfl

omit [Host η] in
/-- Behind a round that is not the last one, the walk starts over. -/
theorem onward_again {i : Interface} {s : Stop} {rest : List Stop} {r : UInt32} (all : i.stops = s :: rest)
    (more : r + 1 < i.settings.target) : onward i r [] = (onward i (r + 1) (s :: rest)).after [.debug] := by
  show (if r + 1 < i.settings.target then Sweep.nextRound (i.counted i.channels.length (r + 1))
    else Sweep.conclude (i.counted i.channels.length (r + 1))) = _
  rw [if_pos more, Sweep.nextRound_toward (i := i.counted i.channels.length (r + 1)) all]
  rfl

/-- **The rounds that are left**, behind the last stop of one, and then the selection. -/
theorem concludes_rounds {n : Nat} {stops : List Stop} {t : Tour} {host : η} {r : UInt32}
    {final : Run SimulatedRadio η} (quiet : t.radio.pending = []) (all : t.iface.stops = stops)
    (some : stops ≠ []) (left : r.toNat + 1 + n = t.iface.settings.target.toNat)
    (h : Leads (t.rounds stops n) host final fun t' =>
      t'.radio.pending = [] → Concludes t' host (Sweep.conclude t'.iface.visited) 0 final) :
    Concludes t host (onward t.iface r []) (2 * (n * stops.length)) final := by
  -- on the rounds left behind this one; the bound on the target keeps the count from wrapping
  induction n generalizing t r with
  | zero =>
    have hlast : r + 1 = t.iface.settings.target := by
      refine UInt32.toNat_inj.mp ((Sweep.toNat_add_one ?_).trans left)
      exact Nat.lt_of_le_of_lt (Nat.le_of_eq left) t.iface.settings.target.toNat_lt
    rw [onward_conclude hlast]
    exact (h quiet).mono (Nat.zero_le _)
  | succ n ih =>
    have hlt : r < t.iface.settings.target := by
      rw [UInt32.lt_iff_toNat_lt]
      omega
    have hnext : (r + 1).toNat = r.toNat + 1 := Sweep.toNat_add_one (Sweep.room_of_owed hlt)
    have hmore : r + 1 < t.iface.settings.target := by
      rw [UInt32.lt_iff_toNat_lt, hnext]
      omega
    obtain ⟨s, rest, rfl⟩ := List.exists_cons_of_ne_nil some
    rw [onward_again all hmore]
    have hround : Concludes t host (onward t.iface (r + 1) (s :: rest))
        (2 * (n * (s :: rest).length) + 2 * (s :: rest).length) final := by
      refine concludes_stops quiet all ((Toured.ends_bind.mp h).imp fun t' _ hafter hquiet hlayout => ?_)
      refine ih hquiet ((Interface.stops_congr hlayout).trans all) ?_ hafter
      rw [hnext, hlayout.settings]
      omega
    have hcount : 2 * (n * (s :: rest).length) + 2 * (s :: rest).length = 2 * ((n + 1) * (s :: rest).length) := by
      rw [Nat.succ_mul n, Nat.mul_add 2]
    exact (hround.mono (Nat.le_of_eq hcount)).after _

/-! ## Both ends of a tour -/

/-- A selection is handed over, and the verdict on it ends the tour. -/
theorem concludes_handOver {t : Tour} (quiet : t.radio.pending = []) (host : η) (s : Selection)
    (log : List Severity) :
    Concludes t host
      { phase := .awaitingVerdict s, iface := t.iface, action := some (.reportSelected s), log } 0
      (t.handOver host s) := by
  let w : Rehearsal η := ⟨.awaitingVerdict s, t.iface, t.radio, host⟩
  rcases hjudged : Host.judge host t.iface with ⟨v, host'⟩
  cases hv : v.rejection? with
  | none =>
    have hverdict := Station.yields_accepted (w := { w with host := host' }) rfl hv
    have hselected := Station.yields_selected (w := w) (s := s) hjudged hverdict
    simp only [Tour.handOver, hjudged, hv]
    exact ⟨_, _, [], Station.yields_follow rfl hselected, finishes_quiet quiet, rfl⟩
  | some why =>
    have hverdict := Station.yields_rejected (w := { w with host := host' }) rfl hv
    have hselected := Station.yields_selected (w := w) (s := s) hjudged hverdict
    simp only [Tour.handOver, hjudged, hv]
    exact ⟨_, _, [], Station.yields_follow rfl hselected, finishes_quiet quiet, List.append_assoc ..⟩

/-- The selection is made and handed over, behind the last round. -/
theorem concludes_choose {t : Tour} {host : η} {final : Run SimulatedRadio η} (quiet : t.radio.pending = [])
    (h : Leads t.choose host final fun c => final = c.2.handOver host c.1) :
    Concludes t host (Sweep.conclude t.iface.visited) 0 final := by
  unfold Tour.choose at h
  by_cases hsurveyed : t.iface.surveyed = 0
  · have hconclude : Sweep.conclude t.iface.visited = Sweep.fail t.iface.visited .noUsableData :=
      if_pos hsurveyed
    rw [if_pos hsurveyed] at h
    obtain rfl : final = _ := h
    rw [hconclude]
    exact concludes_fail quiet host rfl _
  · rw [if_neg hsurveyed] at h
    cases hchosen : t.iface.visited.chosen? with
    | none =>
      simp only [hchosen] at h
      obtain rfl : final = _ := h
      rw [Sweep.conclude_noIdeal (i := t.iface.visited) hsurveyed hchosen]
      exact (concludes_fail quiet host rfl _).after _
    | some s =>
      simp only [hchosen] at h
      obtain rfl : final = _ := h
      rw [Sweep.conclude_selected (i := t.iface.visited) hsurveyed hchosen]
      exact concludes_handOver (t := { t with
        iface := { t.iface.visited.select.iface with operating := some s.number } }) quiet host s _

/-- With the kick-off scan over, the tour is made. -/
theorem concludes_opened {t : Tour} {host : η} {s : Stop} {rest : List Stop} {final : Run SimulatedRadio η}
    (quiet : t.radio.pending = []) (clean : t.iface.clear = t.iface) (all : t.iface.stops = s :: rest)
    (h : Leads (t.rounds t.iface.stops t.iface.settings.target.toNat) host final fun t' =>
      Leads t'.choose host final fun c => final = c.2.handOver host c.1) :
    Concludes t host (Sweep.toward t.iface s)
      (2 * (t.iface.settings.target.toNat * t.iface.channels.length)) final := by
  obtain ⟨n, hn⟩ : ∃ n, t.iface.settings.target.toNat = n + 1 :=
    Nat.exists_eq_succ_of_ne_zero
      (Nat.ne_of_gt (UInt32.lt_iff_toNat_lt.mp (Sweep.target_pos t.iface.settings)))
  have hfirst : Sweep.toward t.iface s = onward t.iface 0 (s :: rest) := by
    rw [← clean]
    rfl
  have hrounds : Concludes t host (onward t.iface 0 (s :: rest))
      (2 * (n * (s :: rest).length) + 2 * (s :: rest).length) final := by
    rw [hn, all] at h
    refine concludes_stops quiet all ((Toured.ends_bind.mp h).imp fun t' _ hafter hquiet hlayout => ?_)
    have hstops : t'.iface.stops = s :: rest := (Interface.stops_congr hlayout).trans all
    refine concludes_rounds hquiet hstops (List.cons_ne_nil s rest) ?_ (hafter.imp fun t'' _ hchoose => ?_)
    · rw [hlayout.settings, hn]
      exact Nat.add_comm 1 n
    · exact fun hquiet' => concludes_choose hquiet' hchoose
  rw [hfirst]
  refine hrounds.mono ?_
  have hlength := Nat.mul_le_mul_left (n + 1) (all ▸ Interface.length_stops_le t.iface)
  rw [hn]
  rw [Nat.succ_mul n] at hlength
  omega

theorem finishes_kickoff {w : Rehearsal η} {t : Tour} {final : Run SimulatedRadio η}
    (waiting : w.phase = .kickoff) (clean : w.iface.clear = w.iface)
    (queued : w.radio.pending = [.kickoffComplete]) (same : t.iface = w.iface) (heard : t.radio = w.radio.heard)
    (h : Leads (if t.iface.stops = [] then .error (.noUsableData, t) else .ok t) w.host final fun t' =>
      Leads (t'.rounds t'.iface.stops t'.iface.settings.target.toNat) w.host final fun t'' =>
        Leads t''.choose w.host final fun c => final = c.2.handOver w.host c.1) :
    ∃ calls, Finishes w (deliveryBound w) final.station calls ∧ final.journal = t.calls ++ calls := by
  have hquiet : t.radio.pending = [] := by rw [heard]; rfl
  have hbound : 2 * (t.iface.settings.target.toNat * t.iface.channels.length) + 1 = deliveryBound w := by
    rw [deliveryBound, queued, same]
    exact Nat.add_comm ..
  have hdispatch : Station.dispatch { w with radio := w.radio.heard } .kickoffComplete =
      Station.follow { w with radio := t.radio } (Sweep.onKickoffComplete .kickoff t.iface) := by
    rw [Station.dispatch, waiting, heard, same]
    rfl
  cases hstops : t.iface.stops with
  | nil =>
    rw [if_pos hstops] at h
    obtain rfl : final = _ := h
    rw [Sweep.onKickoffComplete_fail hstops] at hdispatch
    have hyields := Station.yields_after [.debug]
      (Station.yields_fail { w with radio := t.radio } t.iface .noUsableData)
    have hfinishes := finishes_deliver queued (hdispatch ▸ hyields) (finishes_quiet hquiet)
    exact ⟨_, hfinishes.mono (hbound ▸ Nat.le_add_left 1 _), rfl⟩
  | cons s rest =>
    rw [if_neg (by rw [hstops]; exact List.cons_ne_nil s rest)] at h
    have hsame : t.iface.clear = t.iface := by rw [same, clean]
    rw [Sweep.onKickoffComplete_toward hstops, hsame] at hdispatch
    obtain ⟨w', first, calls, yields, finishes, hjournal⟩ :=
      (concludes_opened hquiet hsame hstops h).after [.debug]
    have hfinishes := finishes_deliver queued (hdispatch ▸ yields) finishes
    exact ⟨_, hfinishes.mono (Nat.le_of_eq hbound), hjournal⟩

/-- A rehearsal comes to the end of its loop. -/
theorem runSweep_loop {w : Rehearsal η} {final : Run SimulatedRadio η} (inactive : w.phase.isActive = false)
    (quiet : w.radio.pending = [])
    (h : Leads (Tour.loop { iface := Station.refreshed w, radio := w.radio }) w.host final fun c =>
      final = c.2.handOver w.host c.1) :
    ∃ run, runSweep w = .ok run ∧ run.Yields final.station final.journal ∧
      final.station.radio.pending = [] := by
  obtain ⟨step, hstart⟩ := Sweep.start_accepted (Station.refreshed w) inactive
  have hprepare := Toured.ends_bind.mp h
  cases (Sweep.start_started hstart).2 with
  | dirty some =>
    rw [Tour.prepare, if_pos some] at hprepare
    obtain rfl : final = _ := hprepare
    exact runSweep_ends inactive hstart (Station.yields_after _ (Station.yields_fail w _ _)) quiet
  | incapable none bad =>
    rw [Tour.prepare, if_neg (not_not_intro none), bad, if_pos Bool.not_false] at hprepare
    obtain rfl : final = _ := hprepare
    exact runSweep_ends inactive hstart (Station.yields_after _ (Station.yields_fail w _ _)) quiet
  | begun none able =>
    rw [Tour.prepare, if_neg (not_not_intro none), able, Bool.not_true, if_neg Bool.false_ne_true] at hprepare
    have hrefused := @w.radio.radio_requestKickoff
    have haccepted := w.radio.pending_requestKickoff
    rcases hanswer : w.radio.requestKickoff with ⟨reply, radio, own⟩
    rw [hanswer] at hrefused haccepted
    let w₁ : Rehearsal η := ⟨.kickoff, (Station.refreshed w).clear, w.radio, w.host⟩
    cases reply with
    | error why =>
      obtain rfl : radio = w.radio := hrefused rfl
      rw [Tour.kickoff_refused hanswer, SimulatedRadio.heard_of_quiet quiet] at hprepare
      obtain rfl : final = _ := hprepare
      have hyields := Station.yields_kickoff_refused (w := w₁) rfl hanswer
      exact runSweep_ends inactive hstart (Station.yields_follow rfl hyields) quiet
    | ok u =>
      have hqueued := haccepted rfl
      rw [quiet, List.nil_append] at hqueued
      rw [Tour.kickoff_accepted hanswer] at hprepare
      have hyields := Station.yields_kickoff (w := w₁) hanswer
      obtain ⟨calls, hfinishes, hjournal⟩ := finishes_kickoff (w := { w₁ with radio }) rfl
        (Interface.clear_clear _) hqueued rfl rfl (hprepare.imp fun t' _ hloop => Toured.ends_bind.mp hloop)
      obtain ⟨run, hrun, hend⟩ := runSweep_yields inactive hstart (Station.yields_follow rfl hyields) hfinishes
      rw [hjournal]
      exact ⟨run, hrun, hend⟩

/-- A rehearsal comes to the end of the plain loop. -/
theorem exists_runSweep {w : Rehearsal η} (inactive : w.phase.isActive = false) (quiet : w.radio.pending = []) :
    ∃ run, runSweep w = .ok run ∧ run.Yields (sequential w).station (sequential w).journal ∧
      (sequential w).station.radio.pending = [] := by
  refine runSweep_loop inactive quiet ?_
  cases hloop : Tour.loop { iface := Station.refreshed w, radio := w.radio } with
  | error e =>
    show sequential w = _
    simp only [sequential, hloop]
  | ok c =>
    show sequential w = _
    simp only [sequential, hloop]

/-- **A rehearsal is the plain loop.** Without an active sweep, on a radio with valid profiles and nothing
queued, it ends at the station the loop ends at, having made the calls of the loop, and every notification
was delivered. -/
theorem runSweep_sequential (w : Rehearsal η) (inactive : w.phase.isActive = false)
    (quiet : w.radio.pending = []) (works : w.radio.broken = false)
    (valid : ∀ freq, (w.radio.profileAt freq).check = .ok ()) :
    ∃ run, runSweep w = .ok run ∧ run.station = (sequential w).station ∧
      run.journal.calls = (sequential w).journal ∧ run.station.radio.pending = [] ∧
      run.station.radio.broken = false := by
  obtain ⟨run, hrun, hyields, hquiet⟩ := exists_runSweep inactive quiet
  have hwhole := sequential_whole (w := w) ⟨works, valid⟩
  refine ⟨run, hrun, hyields.station, hyields.calls, ?_, ?_⟩
  · rw [hyields.station, hquiet]
  · rw [hyields.station, hwhole.works]

end

/-- An idle station with three channels to survey in two rounds. On the first one nobody else can be heard, the second
one is disabled and the third one is silent. -/
def threeChannels : Rehearsal ScriptedHost :=
  { phase := .idle
    iface :=
      { channels :=
          [{ number := 1, freq := 2412 }, { number := 6, freq := 2437, disabled := true },
            { number := 11, freq := 2462 }]
        offChannelCapable := true
        settings := { rounds := 2, dwell := 5 } }
    radio :=
      (SimulatedRadio.new 0 { busy := 0.0, busyJitter := 0.0, noiseJitter := 0 }).setProfile 2412
        { busy := 1.0, own := 1.0, busyJitter := 0.0, noiseJitter := 0 }
    host := {} }

/-- The enabled channels are visited in each of the two rounds, and the silent one is selected. -/
theorem runSweep_sequential_threeChannels :
    threeChannels.phase.isActive = false ∧ threeChannels.radio.pending = [] ∧ threeChannels.radio.broken = false ∧
    (∀ freq, (threeChannels.radio.profileAt freq).check = .ok ()) ∧
    ∃ run, runSweep threeChannels = .ok run ∧ run.station = (sequential threeChannels).station ∧
      run.station.outcome = .selected { number := 11, freq := 2462, score := -64.0 } ∧
      run.station.radio.visits = #[2412, 2462, 2412, 2462] ∧
      run.journal.calls = (sequential threeChannels).journal ∧ run.journal.calls.length = 10 := by
  have hvalid : ∀ freq, (threeChannels.radio.profileAt freq).check = .ok () := by
    intro freq
    show (((FreqTable.insert {} 2412 _).get? freq).getD threeChannels.radio.defaultProfile).check = .ok ()
    rw [FreqTable.get?_insert]
    split
    · decide +kernel
    · show threeChannels.radio.defaultProfile.check = .ok ()
      decide +kernel
  obtain ⟨run, hrun, hstation, hcalls, _⟩ := runSweep_sequential threeChannels rfl rfl rfl hvalid
  refine ⟨rfl, rfl, rfl, hvalid, run, hrun, hstation, ?_, ?_, hcalls, ?_⟩
  · rw [hstation]
    decide +kernel
  · rw [hstation]
    decide +kernel
  · rw [hcalls]
    decide +kernel

end Rehearsal

end ChannelSurvey

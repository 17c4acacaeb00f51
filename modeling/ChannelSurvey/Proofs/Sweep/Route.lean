import ChannelSurvey.Proofs.Sweep.Handled

/-!
# The route of a sweep

A sweep makes the round of its itinerary as often as its settings ask for. `route` lists the stops of all
rounds, and `routeFrom` those that are still ahead at a position of the current round.

**The laws**: with a stop left in the round it comes next (`routeFrom_cons`), behind the last one the next
round begins (`routeFrom_again`), and behind the last round nothing is left (`routeFrom_nil`). The route
passes every enabled channel once a round and no disabled one (`countP_route`).
-/

namespace ChannelSurvey.Sweep

/-- The stops of all rounds. -/
def route (i : Interface) : List Stop :=
  (List.replicate i.settings.target.toNat i.stops).flatten

/-- The stops that are still ahead, from a position of the current round on. -/
def routeFrom (i : Interface) (position : Nat) : List Stop :=
  i.stopsFrom position ++ (List.replicate (i.settings.target.toNat - (i.roundsDone.toNat + 1)) i.stops).flatten

/-- The route depends on the layout alone. -/
theorem route_congr {i j : Interface} (h : Interface.SameLayout i j) : route i = route j := by
  rw [route, Interface.stops_congr h, h.settings, route]

/-- What is left of it depends on the rounds that are done as well. -/
theorem routeFrom_congr {i j : Interface} (h : Interface.SameLayout i j) (rounds : i.roundsDone = j.roundsDone)
    (position : Nat) : routeFrom i position = routeFrom j position := by
  rw [routeFrom, Interface.stopsFrom_congr h, Interface.stops_congr h, h.settings, rounds, routeFrom]

/-- The next stop of the round is the next stop of the route. -/
theorem routeFrom_cons {i : Interface} {position : Nat} {s : Stop} {rest : List Stop}
    (h : i.stopsFrom position = s :: rest) : routeFrom i position = s :: routeFrom i (s.index + 1) := by
  obtain ⟨_, rfl, _⟩ := Interface.stopsFrom_eq_cons h
  rw [routeFrom, h]
  rfl

/-- At the start the whole route is left. -/
theorem routeFrom_zero {i : Interface} (fresh : i.roundsDone = 0) : routeFrom i 0 = route i := by
  obtain ⟨n, hn⟩ : ∃ n, i.settings.target.toNat = n + 1 :=
    Nat.exists_eq_succ_of_ne_zero (Nat.ne_of_gt (UInt32.lt_iff_toNat_lt.mp (target_pos i.settings)))
  have hleft : i.settings.target.toNat - ((0 : UInt32).toNat + 1) = n := by rw [hn]; rfl
  rw [routeFrom, fresh, hleft, route, hn, List.replicate_succ, List.flatten_cons]
  rfl

/-- Behind the last stop of a round, with rounds owed, the next round lies ahead from its start. -/
theorem routeFrom_again {i : Interface} {position : Nat} (last : i.stopsFrom position = [])
    (room : i.roundsDone.toNat + 1 < UInt32.size) (more : i.roundsDone + 1 < i.settings.target) :
    routeFrom i position = routeFrom (roundAdded i) 0 := by
  have hadd : (i.roundsDone + 1).toNat = i.roundsDone.toNat + 1 := toNat_add_one room
  have hmore := UInt32.lt_iff_toNat_lt.mp more
  rw [hadd] at hmore
  obtain ⟨n, hn⟩ : ∃ n, i.settings.target.toNat - (i.roundsDone.toNat + 1) = n + 1 :=
    Nat.exists_eq_succ_of_ne_zero (Nat.sub_ne_zero_of_lt hmore)
  have hleft : i.settings.target.toNat - (i.roundsDone.toNat + 1 + 1) = n := by omega
  rw [routeFrom, last, hn, List.replicate_succ, List.flatten_cons]
  show _ = i.stops ++
    (List.replicate (i.settings.target.toNat - ((i.roundsDone + 1).toNat + 1)) i.stops).flatten
  rw [hadd, hleft]
  rfl

/-- Behind the last stop of the last round nothing is left. -/
theorem routeFrom_nil {i : Interface} {position : Nat} (last : i.stopsFrom position = [])
    (room : i.roundsDone.toNat + 1 < UInt32.size) (paid : ¬ i.roundsDone + 1 < i.settings.target) :
    routeFrom i position = [] := by
  rw [UInt32.lt_iff_toNat_lt, toNat_add_one room] at paid
  rw [routeFrom, last, Nat.sub_eq_zero_of_le (Nat.not_lt.mp paid)]
  rfl

/-- Without an enabled channel there is no route. -/
theorem route_eq_nil {i : Interface} (none : i.stops = []) : route i = [] := by
  rw [route, none]
  exact List.flatten_eq_nil_iff.mpr fun l hl => List.eq_of_mem_replicate hl

/-- A route stops where its rounds do. -/
theorem mem_route {i : Interface} {s : Stop} : s ∈ route i ↔ s ∈ i.stops := by
  have htarget : i.settings.target.toNat ≠ 0 := Nat.ne_of_gt (UInt32.lt_iff_toNat_lt.mp (target_pos i.settings))
  rw [route, List.mem_flatten]
  constructor
  · rintro ⟨round, hround, hs⟩
    exact List.eq_of_mem_replicate hround ▸ hs
  · intro hs
    exact ⟨i.stops, List.mem_replicate.mpr ⟨htarget, rfl⟩, hs⟩

/-- With nothing left of the route, the round was the last one and is over. -/
theorem last_of_routeFrom_nil {i : Interface} {position : Nat} (some : i.stops ≠ [])
    (room : i.roundsDone.toNat + 1 < UInt32.size) (h : routeFrom i position = []) :
    i.stopsFrom position = [] ∧ ¬ i.roundsDone + 1 < i.settings.target := by
  obtain ⟨last, rounds⟩ := List.append_eq_nil_iff.mp h
  refine ⟨last, fun more => some ?_⟩
  have hmore := UInt32.lt_iff_toNat_lt.mp more
  rw [toNat_add_one room] at hmore
  exact List.flatten_eq_nil_iff.mp rounds _ (List.mem_replicate.mpr ⟨Nat.sub_ne_zero_of_lt hmore, rfl⟩)

/-! ## Counting -/

/-- The entry of a position occurs once among the numbered channels. -/
theorem countP_zipIdx (p : Channel → Bool) (cs : List Channel) (n k : Nat) :
    (cs.zipIdx n).countP (fun c => c.2 == n + k && p c.1) = cs[k]?.toList.countP p := by
  induction cs generalizing n k with
  | nil => rfl
  | cons c rest ih =>
    rw [List.zipIdx_cons, List.countP_cons]
    cases k with
    | zero =>
      -- behind the head all numbers are greater
      have hrest : (rest.zipIdx (n + 1)).countP (fun c => c.2 == n + 0 && p c.1) = 0 := by
        rw [List.countP_eq_zero]
        rintro ⟨d, m⟩ hd
        have hlow := List.le_snd_of_mem_zipIdx hd
        simp only [Bool.and_eq_true, beq_iff_eq, not_and]
        omega
      rw [hrest]
      simp only [Nat.add_zero, beq_self_eq_true, Bool.true_and, Nat.zero_add, List.getElem?_cons_zero,
        Option.toList_some, List.countP_singleton]
    | succ k =>
      have hnext : n + (k + 1) = n + 1 + k := by omega
      have hhead : (n == n + 1 + k) = false := by rw [beq_eq_false_iff_ne]; omega
      rw [hnext, ih, hhead, List.getElem?_cons_succ, Bool.false_and, if_neg Bool.false_ne_true, Nat.add_zero]

/-- A round stops once at every enabled channel, and at no disabled one. -/
theorem countP_stops {i : Interface} {k : Nat} {c : Channel} (hc : i.channels[k]? = some c) :
    i.stops.countP (·.index == k) = if c.disabled then 0 else 1 := by
  have hcount := countP_zipIdx (fun c => !c.disabled) i.channels 0 k
  rw [Nat.zero_add, hc] at hcount
  rw [Interface.stops, Interface.stopsFrom, List.drop_zero, List.countP_map, List.countP_filter]
  refine hcount.trans ?_
  rw [Option.toList_some, List.countP_singleton]
  cases c.disabled <;> rfl

/-- A round stops once at every enabled channel. -/
theorem length_stops (i : Interface) : i.stops.length = i.channels.countP (!·.disabled) := by
  have hfreqs := congrArg List.length (Interface.map_freq_stops i)
  rw [List.length_map, List.length_map, ← List.countP_eq_length_filter] at hfreqs
  exact hfreqs

/-- **A whole route** stops at every enabled channel as often as there are rounds, and at no disabled one. -/
theorem countP_route {i : Interface} {k : Nat} {c : Channel} (hc : i.channels[k]? = some c) :
    (route i).countP (·.index == k) = if c.disabled then 0 else i.settings.target.toNat := by
  rw [route, List.countP_flatten, List.map_replicate, List.sum_replicate_nat, countP_stops hc]
  cases c.disabled
  · exact Nat.mul_one _
  · exact Nat.mul_zero _

/-- A route stops as often as there are rounds. -/
theorem length_route (i : Interface) :
    (route i).length = i.settings.target.toNat * i.channels.countP (!·.disabled) := by
  rw [route, List.length_flatten, List.map_replicate, List.sum_replicate_nat, length_stops]

end ChannelSurvey.Sweep

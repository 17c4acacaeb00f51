import ChannelSurvey.Json.Record
import ChannelSurvey.Proofs.Json.Exactness
import ChannelSurvey.Proofs.Json.Recovery

/-!
# Records from objects

A record is read from the members of an object, one after the other. What the reader knows on the way is which
fields it has seen, so the record so far is a function of those (`Assembly.mix`): the seen fields are those of the
result, the others those of the blank record.

**The law** (`document_assembly`): an object gives the same record in whatever order its members stand, whatever other
members stand between them and whatever blanks and escapes it is written with. The only thing asked of the members
that are no field is that they are well formed, and no less would do (`readMember_foreign`).
-/

namespace ChannelSurvey.Json

/-! ## The loop over members -/

section

variable {σ : Type} {member : σ → Reader σ} {state : σ} {budget : Nat} {cs more rest w : List Char}

/-- The loop over the members ends at a closing brace. -/
theorem readMembers_close (isFirst : Bool) (next : next? cs = some ('\x7d', rest)) :
    readMembers member (budget + 1) isFirst state cs = .ok (state, rest) := by
  rw [readMembers, next]
  rfl

/-- A quote opens the first member. -/
theorem readMembers_first (next : next? cs = some ('"', w)) :
    readMembers member (budget + 1) true state cs =
      (member state w >>= fun s => readMembers member budget false s.1 s.2) := by
  rw [readMembers, next]
  rfl

/-- Every later one has a comma in front of its quote. -/
theorem readMembers_comma (comma : next? cs = some (',', more)) (next : next? more = some ('"', w)) :
    readMembers member (budget + 1) false state cs =
      (member state w >>= fun s => readMembers member budget false s.1 s.2) := by
  rw [readMembers]
  grind

end

namespace Record

variable {α : Type}

def hasField (r : Record α) (name : String) : Bool :=
  (r.fields.find? (·.name = name)).isSome

/-- The members of an object that are fields of the record. -/
def known (r : Record α) (ms : List Member) : List Member :=
  ms.filter fun m => r.hasField m.1

/-- How a record comes from the members that give its fields. -/
structure Assembly (r : Record α) (given : List Member) (a : α) where
  /-- The record when these fields have been read. -/
  mix : (seen : List String) → α
  blank : mix [] = r.blank
  once : (given.map (·.1)).Nodup
  reads : ∀ seen, ∀ m ∈ given, ∀ f, r.fields.find? (·.name = m.1) = some f →
    Recovers (f.read (mix seen)) m.2 (mix (m.1 :: seen))
  complete : ∀ f ∈ r.fields, f.required = true → f.name ∈ given.map (·.1)
  settled : ∀ seen, (∀ name, name ∈ seen ↔ name ∈ given.map (·.1)) → mix seen = a

variable {r : Record α} {given ms : List Member} {a : α} {m : Member} {seen : List String} {t rest : List Char}

/-- The names seen behind a member. -/
def note (r : Record α) (seen : List String) (m : Member) : List String :=
  if r.hasField m.1 then m.1 :: seen else seen

/-- The known members are found one by one. -/
theorem known_cons (r : Record α) (m : Member) (ms : List Member) :
    r.known (m :: ms) = if r.hasField m.1 then m :: r.known ms else r.known ms :=
  List.filter_cons

/-- What has been noted is what was noted before and the names of the known members. -/
theorem mem_foldl_note (ms : List Member) (seen : List String) (name : String) :
    name ∈ ms.foldl r.note seen ↔ name ∈ (r.known ms).map (·.1) ∨ name ∈ seen := by
  induction ms generalizing seen with
  | nil => simp [known]
  | cons m ms ih =>
    rw [List.foldl_cons, ih, note, known_cons]
    cases r.hasField m.1 with
    | false => rfl
    | true => simp [or_assoc, or_left_comm]

namespace Assembly

variable (plan : r.Assembly given a)

/-- What the reader knows when these fields have been read. -/
def state (seen : List String) : Partly α :=
  ⟨plan.mix seen, seen⟩

/-! ## One member -/

/-- A member that is a field puts its value into the record. -/
theorem readMember_field (hm : m ∈ given) (fresh : m.1 ∉ seen) {f : Field α}
    (field : r.fields.find? (·.name = m.1) = some f) {w gap space : List Char} (spelled : Spells w m.1.toList)
    (closing : Blanks gap) (leading : Blanks space) (parted : Parted rest) :
    r.readMember (plan.state seen) (w ++ '"' :: (gap ++ ':' :: (space ++ (m.2 ++ rest)))) =
      .ok (plan.state (m.1 :: seen), rest) := by
  have hcolon : expect ':' (gap ++ ':' :: (space ++ (m.2 ++ rest))) = .ok (space ++ (m.2 ++ rest)) := by
    rw [expect, next?_blanks closing, next?_cons (by decide)]
    rfl
  have hread := plan.reads seen m hm f field space rest leading parted
  have hfresh : (plan.state seen).seen.contains m.1 = false := by simpa [state] using fresh
  rw [readMember, readText_spells spelled]
  simp only [String.ofList_toList, field, hfresh, hcolon]
  show (f.read (plan.mix seen) _ >>= _) = _
  rw [hread]
  rfl

omit plan in
/-- **A member that is no field** is passed over just where a well-formed value follows, and adds nothing. -/
theorem readMember_foreign {name : String} (foreign : r.fields.find? (·.name = name) = none) {w gap cs : List Char}
    (spelled : Spells w name.toList) (closing : Blanks gap) (parted : Parted rest) {state state' : Partly α} :
    r.readMember state (w ++ '"' :: (gap ++ ':' :: cs)) = .ok (state', rest) ↔
      state' = state ∧ ∃ b v, Blanks b ∧ Derives .value v ∧ cs = b ++ (v ++ rest) := by
  have hcolon : expect ':' (gap ++ ':' :: cs) = .ok cs := by
    rw [expect, next?_blanks closing, next?_cons (by decide)]
    rfl
  rw [← skipValue_eq_some parted, readMember, readText_spells spelled]
  simp only [String.ofList_toList, foreign, hcolon]
  dsimp only [bind, Except.bind]
  cases skipValue [] cs with
  | none => simp
  | some rest' => simp [eq_comm]

/-- The names that members add to those seen are all new. -/
def Fresh (r : Record α) (seen : List String) (ms : List Member) : Prop :=
  ((r.known ms).map (·.1) ++ seen).Nodup

omit plan in
/-- A known member comes for the first time. -/
theorem Fresh.head (fresh : Fresh r seen (m :: ms)) (field : r.hasField m.1 = true) : m.1 ∉ seen := by
  rw [Fresh, known_cons, if_pos field] at fresh
  have hnotMem := (List.nodup_cons.mp fresh).1
  exact fun hseen => hnotMem (List.mem_append_right _ hseen)

omit plan in
/-- Those behind it still come for the first time once it is noted. -/
theorem Fresh.tail (fresh : Fresh r seen (m :: ms)) : Fresh r (r.note seen m) ms := by
  rw [Fresh, known_cons] at fresh
  rw [Fresh, note]
  split at fresh
  · rename_i field
    rw [if_pos field]
    exact (List.perm_middle.nodup_iff).mpr fresh
  · rename_i foreign
    rw [if_neg foreign]
    exact fresh

/-- A member is read from behind the opening quote of its name. -/
theorem readMember_text (text : MemberText m t) (new : r.hasField m.1 = true → m.1 ∉ seen)
    (hm : r.hasField m.1 = true → m ∈ given) :
    ∃ after, Blanks after ∧ ∀ rest, Parted rest → ∃ w, next? (t ++ rest) = some ('"', w) ∧
      r.readMember (plan.state seen) w = .ok (plan.state (r.note seen m), after ++ rest) := by
  cases text with
  | @of name before w gap space v after opening spelled closing leading value trailing =>
    refine ⟨after, trailing, fun rest parted => ⟨w ++ '"' :: (gap ++ ':' :: (space ++ (v ++ (after ++ rest)))), ?_, ?_⟩⟩
    · simp only [List.append_assoc, List.cons_append]
      rw [next?_blanks opening, next?_cons (by decide)]
    · have hparted := parted_blanks trailing parted
      cases hfield : r.fields.find? (·.name = name) with
      | none =>
        have hforeign : r.hasField name = false := by rw [hasField, hfield]; rfl
        rw [note, if_neg (by rw [hforeign]; exact Bool.false_ne_true)]
        exact (readMember_foreign hfield spelled closing hparted).mpr ⟨rfl, space, v, leading, value, rfl⟩
      | some f =>
        have hknown : r.hasField name = true := by rw [hasField, hfield]; rfl
        rw [note, if_pos hknown]
        exact plan.readMember_field (hm hknown) (new hknown) hfield spelled closing leading hparted

/-! ## All the members -/

/-- Members are read up to and with the closing bracket. -/
theorem readMembers_text (text : MembersText ms t) (fresh : Fresh r seen ms)
    (hms : ∀ m ∈ ms, r.hasField m.1 = true → m ∈ given) (rest : List Char) {budget : Nat}
    (enough : ms.length ≤ budget) :
    ∃ w, next? (t ++ '\x7d' :: rest) = some ('"', w) ∧
      (r.readMember (plan.state seen) w >>= fun s => readMembers r.readMember budget false s.1 s.2) =
        .ok (plan.state (ms.foldl r.note seen), rest) := by
  induction text generalizing seen budget with
  | @last m t member =>
    obtain ⟨after, trailing, hread⟩ := plan.readMember_text member fresh.head (hms m List.mem_cons_self)
    obtain ⟨w, hnext, hmember⟩ := hread _ (parted_closeObject rest)
    have hclose : next? (after ++ '\x7d' :: rest) = some ('\x7d', rest) := by
      rw [next?_blanks trailing, next?_cons (by decide)]
    refine ⟨w, hnext, ?_⟩
    obtain ⟨budget, rfl⟩ : ∃ k, budget = k + 1 := Nat.exists_eq_add_one.mpr enough
    rw [hmember]
    exact readMembers_close false hclose
  | @more m t ms ts member members ih =>
    obtain ⟨budget, rfl⟩ : ∃ k, budget = k + 1 := Nat.exists_eq_add_one.mpr (Nat.lt_of_lt_of_le (Nat.succ_pos _) enough)
    obtain ⟨after, trailing, hread⟩ := plan.readMember_text member fresh.head (hms m List.mem_cons_self)
    obtain ⟨w, hnext, hmember⟩ := hread _ (parted_comma (ts ++ '\x7d' :: rest))
    obtain ⟨w', hnext', hmembers⟩ :=
      ih fresh.tail (fun m' h => hms m' (List.mem_cons_of_mem _ h)) (Nat.le_of_succ_le_succ enough)
    have hcomma : next? (after ++ ',' :: (ts ++ '\x7d' :: rest)) = some (',', ts ++ '\x7d' :: rest) := by
      rw [next?_blanks trailing, next?_cons (by decide)]
    refine ⟨w, by rwa [List.append_assoc, List.cons_append], ?_⟩
    rw [hmember]
    exact (readMembers_comma hcomma hnext').trans hmembers

omit plan in
/-- Every member takes a character at least, so the budget of the reader suffices. -/
theorem length_members (text : MembersText ms t) : ms.length ≤ t.length := by
  induction text with
  | last member =>
    cases member
    simp only [List.length_append, List.length_cons, List.length_nil]
    omega
  | more _ _ ih =>
    simp only [List.length_append, List.length_cons]
    omega

omit plan in
/-- Nothing is missing when every required field has been seen. -/
theorem missing?_eq_none (complete : ∀ f ∈ r.fields, f.required = true → f.name ∈ seen) : r.missing? seen = none := by
  rw [missing?, Option.map_eq_none_iff, List.find?_eq_none]
  intro f hf hmissing
  simp only [Bool.and_eq_true, Bool.not_eq_true', List.contains_eq_mem, decide_eq_false_iff_not] at hmissing
  exact hmissing.2 (complete f hf hmissing.1)

omit plan in
/-- What is left when the members are read: the fields that must be there are. -/
theorem readObject_eq {state : Partly α} {cs : List Char}
    (members : readMembers r.readMember (cs.length + 1) true { value := r.blank, seen := [] } cs = .ok (state, rest))
    (complete : r.missing? state.seen = none) : r.readObject cs = .ok (state.value, rest) := by
  rw [readObject, members]
  dsimp only [bind, Except.bind]
  rw [complete]

/-- The reader of a record takes every object whose known members are among the given ones, each at most once. -/
theorem reader_object {cs : List Char} (object : ObjectDocument ms cs) (fresh : Fresh r [] ms)
    (hms : ∀ m ∈ ms, r.hasField m.1 = true → m ∈ given) (missing : r.missing? (ms.foldl r.note []) = none) :
    ∃ after, Blanks after ∧ r.reader cs = .ok (plan.mix (ms.foldl r.note []), after) := by
  have hstart : plan.state [] = ⟨r.blank, []⟩ := by rw [state, plan.blank]
  cases object with
  | @empty before between after opening inner closing =>
    have hclose : next? (between ++ '\x7d' :: after) = some ('\x7d', after) := by
      rw [next?_blanks inner, next?_cons (by decide)]
    refine ⟨after, closing, ?_⟩
    rw [reader, next?_blanks opening, next?_cons (by decide), List.foldl_nil, plan.blank]
    exact readObject_eq (readMembers_close true hclose) missing
  | @members ms before t after opening members closing =>
    have henough : ms.length ≤ (t ++ '\x7d' :: after).length := by
      have := length_members members
      rw [List.length_append]
      omega
    obtain ⟨w, hnext, hread⟩ := plan.readMembers_text members fresh hms after henough
    rw [hstart] at hread
    refine ⟨after, closing, ?_⟩
    rw [reader, next?_blanks opening, next?_cons (by decide)]
    exact readObject_eq ((readMembers_first hnext).trans hread) missing

include plan in
/-- **A record from an object**, in whatever order the members stand and whatever others stand between them. -/
theorem document_assembly {text : String} (object : ObjectDocument ms text.toList)
    (arranged : (r.known ms).Perm given) : document r.reader text = .ok a := by
  have hnames : ∀ name, name ∈ ms.foldl r.note [] ↔ name ∈ given.map (·.1) := by
    intro name
    rw [mem_foldl_note, (arranged.map (·.1)).mem_iff]
    simp
  have hmissing : r.missing? (ms.foldl r.note []) = none :=
    missing?_eq_none fun f hf required => (hnames f.name).mpr (plan.complete f hf required)
  have hfresh : Fresh r [] ms := by
    rw [Fresh, List.append_nil]
    exact ((arranged.map (·.1)).nodup_iff).mpr plan.once
  have hms : ∀ m ∈ ms, r.hasField m.1 = true → m ∈ given := fun m hm field =>
    arranged.mem_iff.mp (List.mem_filter.mpr ⟨hm, field⟩)
  obtain ⟨after, closing, hread⟩ := plan.reader_object object hfresh hms hmissing
  rw [document, hread, plan.settled _ hnames]
  dsimp only [bind, Except.bind]
  rw [next?_eq_none closing]

end Assembly

end Record

end ChannelSurvey.Json

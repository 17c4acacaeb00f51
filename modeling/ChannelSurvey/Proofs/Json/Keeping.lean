import ChannelSurvey.Json.Record

/-!
# What reading keeps

Elements, members and fields are read into a state. A property that each of them keeps holds of whatever comes out at
the end, however many were read and in whatever order (`gives_readMembers`). For a record the property is one of the
blank record that reading a field keeps (`Record.gives_reader`); what the text looks like does not enter.
-/

namespace ChannelSurvey.Json

variable {α β σ : Type}

/-- What comes out, if anything does, has the property. -/
def Gives (x : Except Fault (α × List Char)) (P : α → Prop) : Prop :=
  ∀ a rest, x = .ok (a, rest) → P a

/-- Reading into a state that has the property gives one that has it. -/
def Keeps (read : σ → Reader σ) (P : σ → Prop) : Prop :=
  ∀ s, P s → ∀ cs, Gives (read s cs) P

variable {P : α → Prop}

/-- A fault gives nothing that could be wrong. -/
theorem gives_error (fault : Fault) : Gives (.error fault) P :=
  fun _ _ h => nomatch h

/-- A result gives what is known of it. -/
theorem gives_ok {a : α} (h : P a) (rest : List Char) : Gives (.ok (a, rest)) P := by
  rintro a' rest' hsame
  cases hsame
  exact h

/-- What the second part gives for every result of the first, the two parts give together. -/
theorem gives_bind {x : Except Fault β} {f : β → Except Fault (α × List Char)} (h : ∀ b, x = .ok b → Gives (f b) P) :
    Gives (x >>= f) P := by
  cases x with
  | error fault => exact gives_error fault
  | ok b => exact h b rfl

/-- Reading on behind a value that has a property of its own. -/
theorem Gives.bind {Q : β → Prop} {x : Except Fault (β × List Char)} {f : β × List Char → Except Fault (α × List Char)}
    (h : Gives x Q) (next : ∀ b rest, Q b → Gives (f (b, rest)) P) : Gives (x >>= f) P :=
  gives_bind fun ⟨b, rest⟩ hx => next b rest (h b rest hx)

/-- What a reader gives is given by the document it reads. -/
theorem gives_of_document {reader : Reader α} (gives : ∀ cs, Gives (reader cs) P) {text : String} {a : α}
    (read : document reader text = .ok a) : P a := by
  unfold document at read
  cases hvalue : reader text.toList with
  | error fault =>
    rw [hvalue] at read
    cases read
  | ok v =>
    rw [hvalue] at read
    dsimp only [bind, Except.bind] at read
    split at read
    · cases read
      exact gives text.toList _ _ hvalue
    · cases read

/-! ## Members -/

/-- **What each member keeps, an object keeps.** -/
theorem gives_readMembers {member : σ → Reader σ} {P : σ → Prop} (keeps : Keeps member P) (budget : Nat)
    (isFirst : Bool) : Keeps (readMembers member budget isFirst) P := by
  induction budget generalizing isFirst with
  | zero => exact fun _ _ _ => gives_error _
  | succ budget ih =>
    intro s hs cs
    have hmember (w : List Char) : Gives (member s w >>= fun v => readMembers member budget false v.1 v.2) P :=
      (keeps s hs w).bind fun s' rest hs' => ih false s' hs' rest
    rw [readMembers]
    split
    · exact gives_ok hs _
    · split
      · split
        · exact hmember _
        · exact gives_error _
      · split
        · split
          · exact hmember _
          · exact gives_error _
        · exact gives_error _
    · exact gives_error _

/-- A map keeps what every member keeps. -/
theorem gives_mapReader {member : σ → Reader σ} {P : σ → Prop} (keeps : Keeps member P) {start : σ} (hstart : P start)
    (cs : List Char) : Gives (mapReader start member cs) P := by
  rw [mapReader]
  split
  · exact gives_readMembers keeps _ _ start hstart _
  · exact gives_error _

/-! ## Records -/

/-- A field keeps what putting its value in keeps. -/
theorem keeps_field {reader : Reader β} {Q : β → Prop} {put : α → β → α} (gives : ∀ cs, Gives (reader cs) Q)
    (hput : ∀ a b, P a → Q b → P (put a b)) (name : String) (required : Bool) :
    Keeps (Field.of name required reader put).read P :=
  fun a ha cs => (gives cs).bind fun b rest hb => gives_ok (hput a b ha hb) rest

/-- A value of which nothing is asked. -/
theorem gives_any (x : Except Fault (β × List Char)) : Gives x fun _ => True :=
  fun _ _ _ => trivial

namespace Record

variable {r : Record α}

/-- A record keeps what all its fields keep, unknown members included. -/
theorem keeps_readMember (fields : ∀ f ∈ r.fields, Keeps f.read P) : Keeps r.readMember fun state => P state.value := by
  intro state hstate cs
  rw [readMember]
  split
  · exact gives_error _
  · dsimp only
    split
    · rename_i f hf
      split
      · exact gives_error _
      · refine gives_bind fun rest _ => ?_
        exact (fields f (List.mem_of_find?_eq_some hf) _ hstate rest).bind fun a rest ha =>
          gives_ok (P := fun state : Partly α => P state.value) ha rest
    · refine gives_bind fun rest _ => ?_
      split
      · exact gives_ok (P := fun state : Partly α => P state.value) hstate _
      · exact gives_error _

/-- The same for the fields in a list, by induction on the fields. -/
theorem gives_readFields {fs : List (Field α)} (fields : ∀ f ∈ fs, Keeps f.read P) (index : Nat) (isFirst : Bool)
    {a : α} (ha : P a) (cs : List Char) : Gives (r.readFields fs index isFirst a cs) P := by
  induction fs generalizing index isFirst a cs with
  | nil => exact gives_bind fun rest _ => gives_ok ha rest
  | cons f fs ih =>
    have hrest : ∀ f' ∈ fs, Keeps f'.read P := fun f' h => fields f' (List.mem_cons_of_mem _ h)
    have hfield (w : List Char) :
        Gives (f.read a w >>= fun v => r.readFields fs (index + 1) false v.1 v.2) P :=
      (fields f List.mem_cons_self a ha w).bind fun a' rest ha' => ih hrest (index + 1) false ha' rest
    rw [readFields]
    split
    · split
      · exact gives_error _
      · exact ih hrest (index + 1) isFirst ha cs
    · split
      · exact hfield cs
      · split
        · split
          · exact gives_error _
          · exact gives_error _
          · exact hfield _
        · exact gives_error _
    · exact gives_error _

/-- **What each field keeps, a record has.** -/
theorem gives_reader (blank : P r.blank) (fields : ∀ f ∈ r.fields, Keeps f.read P) (cs : List Char) :
    Gives (r.reader cs) P := by
  rw [reader]
  split
  · exact gives_readFields fields _ _ blank _
  · refine (gives_readMembers (keeps_readMember fields) _ _ _ blank _).bind fun state rest hstate => ?_
    dsimp only
    split
    · exact gives_error _
    · exact gives_ok hstate rest
  · exact gives_error _

end Record

end ChannelSurvey.Json

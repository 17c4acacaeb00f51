import ChannelSurvey.Proofs.Json.Recovery

/-!
# Written values

A written object is a document of the grammar (`objectDocument_write`) if the values of its members are well formed: its
names spell themselves (`spells_flatMap_charText`), and the parts are set apart by blanks.

**The law** (`derives_write`): every value without real numbers is well formed as it is written, at every level and
with either spacing. Real numbers are left out because their text comes from `Decimal`.
-/

namespace ChannelSurvey.Json

/-! ## Strings -/

/-- A control character is spelled by its number. -/
theorem hexNumber?_control {c : Char} (control : c < ' ') :
    hexNumber? '0' '0' (hexChar (c.toNat / 16)) (hexChar c.toNat) = some c.toNat := by
  have hall : ∀ n < 32, hexNumber? '0' '0' (hexChar (n / 16)) (hexChar n) = some n := by decide
  exact hall c.toNat control

theorem spells_charText (c : Char) {w t : List Char} (more : Spells w t) : Spells (charText c ++ w) (c :: t) := by
  unfold charText
  split
  case h_8 =>
    rename_i quote backslash _ _ _ _ _
    split
    · rename_i control
      have hlt : c.toNat < 32 := control
      have h := Spells.unit (hexNumber?_control control)
        (by simp only [isLowSurrogate, Bool.and_eq_false_iff, decide_eq_false_iff_not]; omega)
        (by simp only [isHighSurrogate, Bool.and_eq_false_iff, decide_eq_false_iff_not]; omega) more
      rwa [Char.ofNat_toNat] at h
    · exact .plain ‹_› quote backslash more
  all_goals exact .short rfl more

/-- **A written text spells its characters.** -/
theorem spells_flatMap_charText (t : List Char) : Spells (t.flatMap charText) t := by
  induction t with
  | nil => exact .nil
  | cons c t ih => exact spells_charText c ih

/-! ## Objects -/

/-- The parts of a document are set apart by blanks only. -/
structure Spacing.Blank (sp : Spacing) : Prop where
  line : ∀ level, Blanks (sp.line level)
  colon : ∃ b, Blanks b ∧ sp.colon = ':' :: b

theorem blank_tight : Spacing.tight.Blank :=
  ⟨fun _ => blanks_nil, [], blanks_nil, rfl⟩

theorem blank_lines : Spacing.lines.Blank := by
  refine ⟨fun level c hc => ?_, [' '], by intro c hc; rw [List.mem_singleton.mp hc]; rfl, rfl⟩
  rcases List.mem_cons.mp hc with rfl | hspace
  · rfl
  · rw [List.eq_of_mem_replicate hspace]
    rfl

variable {sp : Spacing}

theorem memberText_write (blank : sp.Blank) (level : Nat) (name : String) {v after : List Char}
    (value : Derives .value v) (trailing : Blanks after) :
    MemberText (name, v) (sp.line level ++ stringText name ++ sp.colon ++ v ++ after) := by
  obtain ⟨space, hspace, hcolon⟩ := blank.colon
  have h : MemberText (name, v) _ :=
    .of (blank.line level) (spells_flatMap_charText name.toList) blanks_nil hspace value trailing
  simpa [hcolon, stringText] using h

/-- The members that are written, from one on up to the closing bracket. -/
theorem membersText_write (blank : sp.Blank) (level : Nat) (m : String × Value) (ms : List (String × Value))
    (well : ∀ m' ∈ m :: ms, Derives .value (m'.2.write sp (level + 1))) :
    ∃ t, MembersText ((m :: ms).map fun m => (m.1, m.2.write sp (level + 1))) t ∧
      sp.line (level + 1) ++ stringText m.1 ++ sp.colon ++ m.2.write sp (level + 1) ++ Value.writeMembers sp level ms =
        t ++ ['\x7d'] := by
  induction ms generalizing m with
  | nil =>
    have hm := memberText_write blank (level + 1) m.1 (well m List.mem_cons_self) (blank.line level)
    exact ⟨_, .last hm, by simp [Value.writeMembers]⟩
  | cons m' ms ih =>
    have hm := memberText_write blank (level + 1) m.1 (well m List.mem_cons_self) blanks_nil
    obtain ⟨t, ht, heq⟩ := ih m' fun m'' h => well m'' (List.mem_cons_of_mem _ h)
    refine ⟨_, .more hm ht, ?_⟩
    rw [Value.writeMembers, heq]
    simp

/-- **A written object is a document of the grammar.** -/
theorem objectDocument_write (blank : sp.Blank) (level : Nat) (ms : List (String × Value))
    (well : ∀ m ∈ ms, Derives .value (m.2.write sp (level + 1))) :
    ObjectDocument (ms.map fun m => (m.1, m.2.write sp (level + 1))) ((Value.object ms).write sp level) := by
  cases ms with
  | nil => exact .empty blanks_nil blanks_nil blanks_nil
  | cons m ms =>
    obtain ⟨t, ht, heq⟩ := membersText_write blank level m ms well
    rw [Value.write, heq]
    exact .members blanks_nil ht blanks_nil

/-! ## Values -/

/-- Values without real numbers in them. -/
inductive Value.Exact : Value → Prop
  | null : Exact .null
  | bool (b : Bool) : Exact (.bool b)
  | integer (n : Int) : Exact (.integer n)
  | text (s : String) : Exact (.text s)
  | list {vs : List Value} (all : ∀ v ∈ vs, v.Exact) : Exact (.list vs)
  | object {ms : List (String × Value)} (all : ∀ m ∈ ms, m.2.Exact) : Exact (.object ms)

theorem derives_stringText (s : String) : Derives .value (stringText s) :=
  .text (spells_flatMap_charText s.toList).body

/-- The elements that are written, from one on up to the closing bracket. -/
theorem elements_write (blank : sp.Blank) (level : Nat) (v : Value) (vs : List Value)
    (well : ∀ v' ∈ v :: vs, Derives .value (v'.write sp (level + 1))) :
    ∃ t, Derives .elements t ∧
      sp.line (level + 1) ++ v.write sp (level + 1) ++ Value.writeElements sp level vs = t ++ [']'] := by
  induction vs generalizing v with
  | nil =>
    have hv := Derives.element (blank.line (level + 1)) (well v List.mem_cons_self) (blank.line level)
    exact ⟨_, .lastElement hv, by simp [Value.writeElements]⟩
  | cons v' vs ih =>
    have hv := Derives.element (blank.line (level + 1)) (well v List.mem_cons_self) blanks_nil
    obtain ⟨t, ht, heq⟩ := ih v' fun v'' h => well v'' (List.mem_cons_of_mem _ h)
    refine ⟨_, .elements hv ht, ?_⟩
    rw [Value.writeElements, heq]
    simp

/-- **A written value is a value of the grammar.** -/
theorem derives_write (blank : sp.Blank) {v : Value} (exact : v.Exact) (level : Nat) :
    Derives .value (v.write sp level) := by
  induction exact generalizing level with
  | null => exact .null
  | bool b => exact derives_bool b sp level
  | integer n =>
    rw [Value.write]
    exact derives_integerText n
  | text s =>
    rw [Value.write]
    exact derives_stringText s
  | @list vs _ ih =>
    cases vs with
    | nil => exact .emptyList blanks_nil
    | cons v vs =>
      obtain ⟨t, ht, heq⟩ := elements_write blank level v vs fun v' h => ih v' h _
      rw [Value.write, heq]
      exact .list ht
  | @object ms _ ih =>
    cases ms with
    | nil => exact .emptyObject blanks_nil
    | cons m ms =>
      obtain ⟨t, ht, heq⟩ := membersText_write blank level m ms fun m' h => ih m' h _
      rw [Value.write, heq]
      exact .object ht.derives

end ChannelSurvey.Json

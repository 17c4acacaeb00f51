import ChannelSurvey.Document
import ChannelSurvey.Proofs.Json.Assembly
import ChannelSurvey.Proofs.Json.Written

/-!
# Documents restore what was written to them

Settings, samples, capabilities and bands come back from their documents: settings and counters over the whole range of
their words, noise floors with their sign.

**The law** (`documents_restore`): reading a written document gives the value, and so does every other object with the
same members, in any order and with any well-formed members of other names among them. The proof is one assembly for
each record (`Settings.assembly`, `Sample.assembly`, `Capabilities.assembly`): the record behind some of its members is
the blank one with just those fields put in (`pick`), so the order of the members does not enter.

**What does not hold.** A field that stands twice is refused, even with the same value, so the fields must be a
permutation of those written. Floats are not among the values here: how a real number is written is a matter of digits
(`Decimal.Shortest`).
-/

namespace ChannelSurvey

open Json

/-- The value of a field that was seen, or the one it has without. -/
def pick {β : Type} (seen : List String) (name : String) (given blank : β) : β :=
  if name ∈ seen then given else blank

/-- A field seen last has its given value. -/
theorem pick_cons_self {β : Type} (seen : List String) (name : String) (given blank : β) :
    pick (name :: seen) name given blank = given :=
  if_pos List.mem_cons_self

/-- Another field seen last changes nothing. -/
theorem pick_cons_of_ne {β : Type} {name other : String} (h : name ≠ other) (seen : List String) (given blank : β) :
    pick (other :: seen) name given blank = pick seen name given blank := by
  simp [pick, h]

/-- A field is recovered where its value is. -/
theorem recovers_field {α β : Type} {reader : Reader β} {text : List Char} {b : β} (h : Recovers reader text b)
    (name : String) (required : Bool) (put : α → β → α) (a : α) :
    Recovers ((Field.of name required reader put).read a) text (put a b) :=
  h.map (put a)

/-! ## Settings, samples, capabilities -/

/-- The fields of settings as members of a document, of those that are there. -/
def Settings.given (rounds dwell : Option UInt32) : List Member :=
  (rounds.map fun n => ("num_req_surveys", integerText n.toNat)).toList ++
    (dwell.map fun n => ("roc_duration_ms", integerText n.toNat)).toList

/-- How settings come from those of their fields that are there. -/
def Settings.assembly (rounds dwell : Option UInt32) :
    Settings.record.Assembly (Settings.given rounds dwell)
      { rounds := rounds.getD defaultRounds, dwell := dwell.getD defaultDwell } where
  mix seen :=
    { rounds := pick seen "num_req_surveys" (rounds.getD defaultRounds) defaultRounds
      dwell := pick seen "roc_duration_ms" (dwell.getD defaultDwell) defaultDwell }
  blank := rfl
  once := by cases rounds <;> cases dwell <;> simp [given]
  reads := by
    intro seen m hm f hf
    have hne : "roc_duration_ms" ≠ "num_req_surveys" := by decide
    simp only [given, List.mem_append, Option.mem_toList, Option.map_eq_some_iff] at hm
    rcases hm with ⟨n, rfl, rfl⟩ | ⟨n, rfl, rfl⟩
    · obtain rfl := Option.some.inj hf
      simp only [Option.getD_some, pick_cons_self, pick_cons_of_ne hne]
      exact recovers_field (recovers_word n) _ _ _ _
    · obtain rfl := Option.some.inj hf
      simp only [Option.getD_some, pick_cons_self, pick_cons_of_ne hne.symm]
      exact recovers_field (recovers_word n) _ _ _ _
  complete := by simp [record, Field.of]
  settled := by
    intro seen hseen
    cases rounds <;> cases dwell <;> simp [pick, hseen, given]

/-- The members of a written object, without the blanks around their values. -/
def Json.Value.texts (v : Value) : List Member :=
  match v with
  | .object ms => ms.map fun m => (m.1, m.2.write .tight 0)
  | _ => []

/-- How a sample comes from the members it is written as. -/
def Sample.assembly (s : Sample) : Sample.record.Assembly s.toValue.texts s where
  mix seen :=
    { total := pick seen "channel_time" s.total Sample.record.blank.total
      busy := pick seen "channel_time_busy" s.busy Sample.record.blank.busy
      own := pick seen "channel_time_tx" s.own Sample.record.blank.own
      noise := pick seen "nf" s.noise Sample.record.blank.noise }
  blank := rfl
  once := by simp [toValue, Value.texts]
  reads := by
    intro seen m hm f hf
    simp only [toValue, Value.texts, List.map_cons, List.map_nil, List.mem_cons, List.not_mem_nil, or_false] at hm
    rcases hm with rfl | rfl | rfl | rfl <;> obtain rfl := Option.some.inj hf <;>
      simp only [Value.write, pick_cons_self, ne_eq, String.reduceEq, not_false_eq_true, pick_cons_of_ne]
    · exact recovers_field (recovers_counter s.total) _ _ _ _
    · exact recovers_field (recovers_counter s.busy) _ _ _ _
    · exact recovers_field (recovers_counter s.own) _ _ _ _
    · exact recovers_field (recovers_level s.noise) _ _ _ _
  complete := by simp [toValue, Value.texts, record, Field.of]
  settled := by
    intro seen hseen
    simp [pick, hseen, toValue, Value.texts]

def Capabilities.assembly (c : Capabilities) : Capabilities.record.Assembly c.toValue.texts c where
  mix seen := { offChannel := pick seen "offchannel_tx" c.offChannel Capabilities.record.blank.offChannel }
  blank := rfl
  once := by simp [toValue, Value.texts]
  reads := by
    intro seen m hm f hf
    obtain rfl := List.mem_singleton.mp hm
    obtain rfl := Option.some.inj hf
    rw [pick_cons_self]
    exact recovers_field (recovers_bool c.offChannel .tight 0) _ _ _ _
  complete := by simp [toValue, Value.texts, record, Field.of]
  settled := by
    intro seen hseen
    simp [pick, hseen, toValue, Value.texts]

/-! ## Written documents -/

/-- **A document restores a value**: the one that is written does, with blanks or without, and so does every other
object with the same members in any order and members of other names among them. -/
structure Restores {α : Type} (r : Record α) (v : Value) (a : α) : Prop where
  compact : document r.reader v.compact = .ok a
  pretty : document r.reader v.pretty = .ok a
  rearranged : ∀ ms text, ObjectDocument ms text.toList → (r.known ms).Perm v.texts → document r.reader text = .ok a

/-- Whole numbers and truth values, which are written alike at every level. -/
def Json.Value.IsFlat : Value → Prop
  | .integer _ | .bool _ => True
  | _ => False

/-- A flat value holds no float, so it is written exactly. -/
theorem exact_of_flat {v : Value} (flat : v.IsFlat) : v.Exact := by
  cases v with
  | integer n => exact .integer n
  | bool b => exact .bool b
  | _ => cases flat

/-- A flat value is one line, however parts are set apart. -/
theorem write_flat {v : Value} (flat : v.IsFlat) (sp : Spacing) (level : Nat) :
    v.write sp level = v.write .tight 0 := by
  cases v with
  | integer z => rw [Value.write, Value.write]
  | bool b => cases b <;> rfl
  | _ => cases flat

/-- An object of flat values restores its record, written in either way and in any order. -/
theorem restores_of_assembly {α : Type} {r : Record α} {fields : List (String × Value)} {a : α}
    (plan : r.Assembly (Value.object fields).texts a) (known : fields.all (fun m => r.hasField m.1) = true)
    (flat : ∀ m ∈ fields, m.2.IsFlat) : Restores r (.object fields) a := by
  have hwritten (sp : Spacing) (blank : sp.Blank) :
      document r.reader (String.ofList ((Value.object fields).write sp 0)) = .ok a := by
    have hobject := objectDocument_write blank 0 fields fun m hm => derives_write blank (exact_of_flat (flat m hm)) 1
    have htexts : (fields.map fun m => (m.1, m.2.write sp 1)) = (Value.object fields).texts :=
      List.map_congr_left fun m hm => by rw [write_flat (flat m hm)]
    rw [htexts] at hobject
    have hknown : r.known (Value.object fields).texts = (Value.object fields).texts := by
      refine List.filter_eq_self.mpr fun m hm => ?_
      obtain ⟨m', hm', rfl⟩ := List.mem_map.mp hm
      exact List.all_eq_true.mp known m' hm'
    rw [← String.toList_ofList (l := (Value.object fields).write sp 0)] at hobject
    exact plan.document_assembly hobject (List.Perm.of_eq hknown)
  exact ⟨hwritten .tight blank_tight, hwritten .lines blank_lines, fun ms text => plan.document_assembly⟩

/-- **Documents restore what was written to them**, those of the three records however their members are arranged. A
band is no record, and its document is one name. -/
theorem documents_restore (s : Settings) (x : Sample) (c : Capabilities) (band : Band) :
    Restores Settings.record s.toValue s ∧ Restores Sample.record x.toValue x ∧
      Restores Capabilities.record c.toValue c ∧
      document Band.reader band.toValue.compact = .ok band ∧ document Band.reader band.toValue.pretty = .ok band := by
  refine ⟨?_, ?_, ?_, ?_, ?_⟩
  · exact restores_of_assembly (Settings.assembly (some s.rounds) (some s.dwell)) rfl (by simp [Value.IsFlat])
  · exact restores_of_assembly x.assembly rfl (by simp [Value.IsFlat])
  · exact restores_of_assembly c.assembly rfl (by simp [Value.IsFlat])
  · cases band <;> rfl
  · cases band <;> rfl

/-- A sample with the largest counter and a negative noise floor, its members reversed, with one between them that is
passed over. -/
theorem documents_restore_reversed :
    let x : Sample := { total := 18446744073709551615, busy := 7, own := 0, noise := -128 }
    let text := "\x7b\"nf\":-128,\"channel_time_tx\":0,\"extra\":[\x7b\"deep\":null\x7d],\"channel_time_busy\":7," ++
      "\"channel_time\":18446744073709551615\x7d"
    (∃ ms, ObjectDocument ms text.toList ∧ (Sample.record.known ms).Perm x.toValue.texts) ∧
      document Sample.record.reader text = .ok x := by
  intro x text
  let fields : List (String × Value) :=
    [("nf", .integer (-128)), ("channel_time_tx", .integer 0), ("extra", .list [.object [("deep", .null)]]),
    ("channel_time_busy", .integer 7), ("channel_time", .integer 18446744073709551615)]
  have htext : text.toList = (Value.object fields).write .tight 0 := by decide +kernel
  have hexact : ∀ m ∈ fields, m.2.Exact := by
    simp only [fields, List.forall_mem_cons]
    exact ⟨.integer _, .integer _, .list (by simpa using .object (by simpa using .null)), .integer _, .integer _,
      List.forall_mem_nil _⟩
  have hobject := objectDocument_write blank_tight 0 fields fun m hm => derives_write blank_tight (hexact m hm) 1
  rw [← htext] at hobject
  have harranged : (Sample.record.known (fields.map fun m => (m.1, m.2.write .tight 1))).Perm x.toValue.texts :=
    List.reverse_perm x.toValue.texts
  exact ⟨⟨_, hobject, harranged⟩, (documents_restore default x default default).2.1.rearranged _ _ hobject harranged⟩

end ChannelSurvey

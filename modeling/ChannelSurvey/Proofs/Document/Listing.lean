import ChannelSurvey.Loading
import ChannelSurvey.Proofs.Json.Keeping

/-!
# The profiles a loaded scenario lists

A document may give its profiles in any order, and one number more than once. What is loaded lists every number once,
in ascending order (`listed_of_loadScenario`): each profile is put in its place when it is read
(`listed_insertProfile`), and no other field touches the list. Loading checks what it has read
(`loadScenario_eq_ok`), and the check changes nothing.
-/

namespace ChannelSurvey

open Json

/-- Profiles by strictly ascending numbers. -/
def Listed (profiles : List (UInt8 × Profile)) : Prop :=
  (profiles.map (·.1)).Pairwise (· < ·)

variable {l : List (UInt8 × Profile)} {number : UInt8} {p : Profile}

theorem listed_nil : Listed [] :=
  List.Pairwise.nil

/-- A listing names no channel twice. -/
theorem Listed.nodup (h : Listed l) : (l.map (·.1)).Nodup :=
  h.imp fun hlt => UInt8.ne_of_lt hlt

/-- An insertion brings in no other number than its own. -/
theorem mem_numbers_insertProfile {other : UInt8} (h : other ∈ (insertProfile number p l).map (·.1)) :
    other = number ∨ other ∈ l.map (·.1) := by
  induction l with
  | nil => exact .inl (List.mem_singleton.mp h)
  | cons e rest ih =>
    rw [insertProfile] at h
    split at h
    · exact List.mem_cons.mp h
    · split at h
      · rcases List.mem_cons.mp h with hsame | hrest
        · exact .inl hsame
        · exact .inr (List.mem_cons_of_mem _ hrest)
      · rcases List.mem_cons.mp h with hhead | htail
        · exact .inr (hhead ▸ List.mem_cons_self)
        · exact (ih htail).imp_right (List.mem_cons_of_mem _)

/-- **A profile is put in its place.** -/
theorem listed_insertProfile (h : Listed l) (number : UInt8) (p : Profile) : Listed (insertProfile number p l) := by
  induction l with
  | nil => exact List.pairwise_singleton _ _
  | cons e rest ih =>
    obtain ⟨hhead, htail⟩ := List.pairwise_cons.mp h
    rw [insertProfile]
    split
    · rename_i hbefore
      refine List.pairwise_cons.mpr ⟨fun other hother => ?_, h⟩
      rcases List.mem_cons.mp hother with rfl | hrest
      · exact hbefore
      · exact UInt8.lt_trans hbefore (hhead other hrest)
    · split
      · rename_i hsame
        exact List.pairwise_cons.mpr ⟨hsame ▸ hhead, htail⟩
      · rename_i hbefore hsame
        refine List.pairwise_cons.mpr ⟨fun other hother => ?_, ih htail⟩
        rcases mem_numbers_insertProfile hother with rfl | hrest
        · exact UInt8.lt_of_le_of_ne (UInt8.not_lt.mp hbefore) (Ne.symm hsame)
        · exact hhead other hrest

namespace Scenario

/-- Reading one profile keeps the listing a listing. -/
theorem keeps_readProfile : Keeps readProfile Listed := fun _ hl cs =>
  (gives_any (readNumberName cs)).bind fun number _ _ => gives_bind fun rest _ =>
    (gives_any (Profile.record.reader rest)).bind fun p rest' _ => gives_ok (listed_insertProfile hl number p) rest'

/-- Other fields leave the profiles alone. -/
theorem keeps_other {β : Type} (name : String) (required : Bool) (reader : Reader β) {put : Scenario → β → Scenario}
    (other : ∀ s b, (put s b).profiles = s.profiles) :
    Keeps (Field.of name required reader put).read fun s => Listed s.profiles :=
  keeps_field (fun cs => gives_any (reader cs)) (fun s b hs _ => (other s b).symm ▸ hs) name required

/-- A scenario that is read has its profiles listed. -/
theorem gives_record (cs : List Char) : Gives (record.reader cs) fun s => Listed s.profiles := by
  refine Record.gives_reader listed_nil ?_ cs
  simp only [record, List.forall_mem_cons]
  refine ⟨keeps_other _ _ _ fun _ _ => rfl, keeps_other _ _ _ fun _ _ => rfl, keeps_other _ _ _ fun _ _ => rfl, ?_,
    keeps_other _ _ _ fun _ _ => rfl, List.forall_mem_nil _⟩
  have hprofiles := gives_mapReader keeps_readProfile listed_nil
  exact keeps_field (P := fun s : Scenario => Listed s.profiles) hprofiles (fun _ _ _ h => h) _ _

end Scenario

/-! ## Loading -/

/-- A checked value is the value, and it passes its check. -/
theorem checked_eq_ok {α : Type} {check : α → Except Violation Unit} {value a : α} :
    checked check value = .ok a ↔ value = a ∧ check a = .ok () := by
  unfold checked
  cases hcheck : check value with
  | error v =>
    refine iff_of_false (by simp) ?_
    rintro ⟨rfl, hvalid⟩
    rw [hcheck] at hvalid
    cases hvalid
  | ok u =>
    rw [Except.ok.injEq]
    exact ⟨fun h => ⟨h, h ▸ hcheck⟩, fun h => h.1⟩

variable {path : String} {content : Except FileFault String} {s : Scenario}

/-- A scenario is loaded if it is read and passes the check. -/
theorem loadScenario_eq_ok :
    loadScenario path content = .ok s ↔ load Scenario.record.reader path content = .ok s ∧ s.check = .ok () := by
  unfold loadScenario
  cases hload : load Scenario.record.reader path content with
  | error fault => exact iff_of_false (fun h => nomatch h) fun h => nomatch h.1
  | ok value =>
    show checked Scenario.check value = .ok s ↔ _
    rw [checked_eq_ok, Except.ok.injEq]

/-- A scenario that is loaded is a valid one. -/
theorem check_of_loadScenario (loaded : loadScenario path content = .ok s) : s.check = .ok () :=
  (loadScenario_eq_ok.mp loaded).2

/-- **A loaded scenario lists every number once**, in ascending order. -/
theorem listed_of_loadScenario (loaded : loadScenario path content = .ok s) : Listed s.profiles := by
  have hread := (loadScenario_eq_ok.mp loaded).1
  unfold load at hread
  split at hread
  · cases hread
  · split at hread
    · cases hread
    · rename_i value hdocument
      cases hread
      exact gives_of_document Scenario.gives_record hdocument

end ChannelSurvey

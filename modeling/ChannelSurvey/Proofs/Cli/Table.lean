import ChannelSurvey.Cli.Simulate
import Mathlib.Data.List.Forall2

/-!
# What a table and a report show of a channel

Both are said here apart from the functions that make them: a line of the table by its mark and its columns (`IsLine`),
an entry of the report by what a reader finds under each name (`IsEntry`). How many samples a channel should show is
given apart from the channel.

**The law** (`exists_lines`, `entries_channelReport`): a table is its heading and one line for each channel, in their
order, and a report has one entry for each. Where a number stands once among the channels, one line is marked, the one
at its place (`marked_iff`).
-/

namespace ChannelSurvey.Cli

open Json (Value)

/-! ## Columns -/

/-- **A text at the right end of a column**: with blanks in front as far as it leaves room, and never cut. -/
def AtRight (width : Nat) (text cell : String) : Prop :=
  (∃ blanks, cell = String.ofList (List.replicate blanks ' ') ++ text) ∧ cell.length = max width text.length

/-- A text moved to the right stands at the right end. -/
theorem atRight_padLeft (width : Nat) (text : String) : AtRight width text (padLeft width text) := by
  refine ⟨⟨width - text.length, rfl⟩, ?_⟩
  rw [padLeft, String.length_append, String.length_ofList, List.length_replicate]
  omega

/-- **Texts in columns** of given widths, each with a blank in front of its column. -/
inductive InColumns : List (Nat × String) → String → Prop
  | nil : InColumns [] ""
  | cons {width : Nat} {text cell line : String} {rest : List (Nat × String)} (first : AtRight width text cell)
      (others : InColumns rest line) : InColumns ((width, text) :: rest) (" " ++ cell ++ line)

/-! ## Lines -/

/-- What stands above the lines of a table. -/
def heading : String :=
  "\n    Chan    Freq  Samples  Min NF Interference\n" ++ "------------------------------------------------\n"

/-- **The line of a channel**: a mark, then its number, its frequency, the samples, its least noise floor and its
score. -/
def IsLine (marked : Bool) (c : Channel) (samples : UInt32) (line : String) : Prop :=
  ∃ cells,
    InColumns
      [(5, toString c.number.toNat), (7, toString c.freq.toNat), (8, toString samples.toNat),
        (7, match c.quietest with
          | some least => toString least.toInt
          | none => "-"),
        (12, if c.disabled then "disabled" else
          match c.score with
          | some score => Decimal.fixed .printed 4 score
          | none => "-")]
      cells ∧
    line = (if marked then "* " else "  ") ++ cells ++ "\n"

/-- A line is marked by its first character. -/
theorem head_line {marked : Bool} {c : Channel} {samples : UInt32} {line : String}
    (h : IsLine marked c samples line) : line.toList.head? = some '*' ↔ marked = true := by
  obtain ⟨cells, -, rfl⟩ := h
  simp only [String.toList_append, List.append_assoc]
  cases marked <;> simp

/-- A row of texts is its mark and the others in columns. -/
theorem tableRow_columns (mark number freq samples noise score : String) :
    ∃ cells, InColumns [(5, number), (7, freq), (8, samples), (7, noise), (12, score)] cells ∧
      tableRow mark number freq samples noise score = padRight 2 mark ++ cells ++ "\n" := by
  refine ⟨_, .cons (atRight_padLeft ..) (.cons (atRight_padLeft ..) (.cons (atRight_padLeft ..)
    (.cons (atRight_padLeft ..) (.cons (atRight_padLeft ..) .nil)))), ?_⟩
  simp only [tableRow, String.intercalate_cons_cons, String.intercalate_singleton, String.append_assoc,
    String.append_empty]

/-- **A row of the table is the line of its channel**, with as many samples as the channel counts. -/
theorem isLine_channelRow (number : UInt8) (c : Channel) :
    IsLine (c.number = number) c c.count (channelRow (some number) c) := by
  obtain ⟨cells, hcells, hrow⟩ := tableRow_columns (if some number = some c.number then "*" else " ")
    (toString c.number) (toString c.freq) (toString c.count) (noiseCell c) (scoreCell c)
  refine ⟨cells, hcells, ?_⟩
  rw [channelRow, hrow]
  by_cases same : c.number = number
  · rw [if_pos (congrArg some same.symm), if_pos (decide_eq_true same)]
    rfl
  · rw [if_neg fun h => same (Option.some.inj h).symm, if_neg (by simpa using same)]
    rfl

/-! ## The table -/

/-- A table of channels there are is its heading and their rows. -/
theorem table_eq {channels : List Channel} (some : channels.isEmpty = false) (selected : Option UInt8) :
    table channels selected = heading ++ String.join (channels.map (channelRow selected)) := by
  rw [table, some, if_neg Bool.false_ne_true]
  rfl

variable {channels : List Channel} {samples : Channel → UInt32}

/-- **A table has one line for each channel**, in their order. -/
theorem exists_lines (some : channels.isEmpty = false) (counts : ∀ c ∈ channels, c.count = samples c)
    (number : UInt8) :
    ∃ lines, table channels (.some number) = heading ++ String.join lines ∧
      List.Forall₂ (fun c line => IsLine (c.number = number) c (samples c) line) channels lines := by
  refine ⟨_, table_eq some _, List.forall₂_map_right_iff.mpr (List.forall₂_same.mpr fun c hc => ?_)⟩
  rw [← counts c hc]
  exact isLine_channelRow number c

/-- **One line is marked**: the one at the place of the number, where that is its only place. -/
theorem marked_iff {number : UInt8} {lines : List String} {k : Nat}
    (listed : List.Forall₂ (fun c line => IsLine (c.number = number) c (samples c) line) channels lines)
    (place : ∀ j d, channels[j]? = some d → (d.number = number ↔ j = k)) {j : Nat} {line : String}
    (hline : lines[j]? = some line) : line.toList.head? = some '*' ↔ j = k := by
  obtain ⟨hlt, rfl⟩ := List.getElem?_eq_some_iff.mp hline
  have hchannel : j < channels.length := listed.length_eq ▸ hlt
  have hshown := listed.get hchannel hlt
  rw [← place j _ (List.getElem?_eq_getElem hchannel)]
  exact (head_line hshown).trans decide_eq_true_iff

/-! ## Entries -/

/-- The value of a member of an object. -/
def member? (v : Value) (name : String) : Option Value :=
  match v with
  | .object members => members.lookup name
  | _ => none

/-- **The entry of a channel**: what a reader finds under each name. -/
structure IsEntry (c : Channel) (samples : UInt32) (v : Value) : Prop where
  chan : member? v "chan" = some (.integer c.number.toNat)
  freq : member? v "freq" = some (.integer c.freq.toNat)
  disabled : member? v "disabled" = some (.bool c.disabled)
  samples : member? v "samples" = some (.integer samples.toNat)
  min_nf : member? v "min_nf" = some (match c.quietest with
    | some least => .integer least.toInt
    | none => .null)
  interference_factor : member? v "interference_factor" = some (match c.score with
    | some score => .real score
    | none => .null)

/-- What a report says of a channel is its entry. -/
theorem isEntry_channelReport (c : Channel) : IsEntry c c.count (channelReport c) := by
  refine ⟨rfl, rfl, rfl, rfl, ?_, ?_⟩
  · show some (Value.ofOption _ c.quietest) = _
    cases c.quietest <;> rfl
  · show some (Value.ofOption _ c.score) = _
    cases c.score <;> rfl

/-- **A report has one entry for each channel**, in their order. -/
theorem entries_channelReport (counts : ∀ c ∈ channels, c.count = samples c) :
    List.Forall₂ (fun c v => IsEntry c (samples c) v) channels (channels.map channelReport) := by
  refine List.forall₂_map_right_iff.mpr (List.forall₂_same.mpr fun c hc => ?_)
  rw [← counts c hc]
  exact isEntry_channelReport c

end ChannelSurvey.Cli

import ChannelSurvey.Json.Reader

/-!
# Records

A record type is described by its `Fields`: the name of each field, whether it must be there, and how its
value is read into a record. From that follows its reader. A record may be written as an object, its
members in any order and mixed with members that are no field, or as a list of its fields in order. Fields
that need not be there keep the value of the blank record.
-/

namespace ChannelSurvey.Json

structure Field (α : Type) where
  name : String
  required : Bool
  /-- Reads the value into a record. -/
  read : α → Reader α

/-- A record type as a document knows it. -/
structure Record (α : Type) where
  /-- Its name in messages. -/
  title : String
  /-- A record with the value of every field that is not given; what it has for a required field never
  counts. -/
  blank : α
  fields : List (Field α)

/-- A record while its members are read: the values so far, and the names of the fields read. -/
structure Partly (α : Type) where
  value : α
  seen : List String

/-- A field that is the value of a reader. -/
def Field.of {α β : Type} (name : String) (required : Bool) (reader : Reader β) (put : α → β → α) :
    Field α where
  name
  required
  read a cs := do
    let (b, rest) ← reader cs
    return (put a b, rest)

namespace Record

variable {α : Type}

/-- Reads one member from behind the opening quote of its name. A member that is no field is passed over. -/
def readMember (r : Record α) (state : Partly α) : Reader (Partly α) := fun cs =>
  match readText cs with
  | none => .error .malformed
  | some (name, rest) =>
    let name := String.ofList name
    match r.fields.find? (·.name = name) with
    | some field =>
      if state.seen.contains name then .error (.unsuitable (.duplicate name))
      else do
        let rest ← expect ':' rest
        let (value, rest) ← field.read state.value rest
        return ({ value, seen := name :: state.seen }, rest)
    | none => do
      let rest ← expect ':' rest
      match skipValue [] rest with
      | some rest => .ok (state, rest)
      | none => .error .malformed

/-- The first required field that was not read. -/
def missing? (r : Record α) (seen : List String) : Option String :=
  (r.fields.find? fun field => field.required && !seen.contains field.name).map (·.name)

/-- Reads a record written as an object, behind its opening bracket. -/
def readObject (r : Record α) : Reader α := fun cs => do
  let (state, rest) ← readMembers r.readMember (cs.length + 1) true { value := r.blank, seen := [] } cs
  match r.missing? state.seen with
  | some name => .error (.unsuitable (.missing name))
  | none => .ok (state.value, rest)

/-- Reads the fields from the one at `index` on, of a record written as a list. -/
def readFields (r : Record α) : List (Field α) → (index : Nat) → (isFirst : Bool) → α → Reader α
  | [], _, _, value, cs => do
    let rest ← expect ']' cs
    return (value, rest)
  | field :: fields, index, isFirst, value, cs =>
    match next? cs with
    | some (']', _) =>
      if field.required then .error (.unsuitable (.tooShort index r.title r.fields.length))
      else readFields r fields (index + 1) isFirst value cs
    | some (c, rest) =>
      if isFirst then do
        let (value, rest) ← field.read value cs
        readFields r fields (index + 1) false value rest
      else if c = ',' then
        match next? rest with
        | none | some (']', _) => .error .malformed
        | some _ => do
          let (value, rest) ← field.read value rest
          readFields r fields (index + 1) false value rest
      else .error .malformed
    | none => .error .malformed

def reader (r : Record α) : Reader α := fun cs =>
  match next? cs with
  | some ('[', rest) => r.readFields r.fields 0 true r.blank rest
  | some ('\x7b', rest) => r.readObject rest
  | _ => .error (mismatch (recordName r.title) cs)

end Record

end ChannelSurvey.Json

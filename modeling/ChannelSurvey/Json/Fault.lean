import ChannelSurvey.Decimal.Layout
import ChannelSurvey.Text.Quoted

/-!
# What can be wrong with a document

A document is read from left to right and the first problem counts. Either the text is not a JSON
document at all (`malformed`), or it is one so far and holds a value that does not fit (`unsuitable`).
The wording is in `Unsuitable.message`.
-/

namespace ChannelSurvey.Json

/-- A value met where another kind of value was wanted. -/
inductive Found where
  | null
  | bool (b : Bool)
  | integer (n : Int)
  | real (x : Float)
  | text (s : String)
  | sequence
  | map
  deriving DecidableEq, Inhabited

/-- A well-formed value that does not fit. -/
inductive Unsuitable where
  /-- A value of another kind than the wanted one. -/
  | wrongType (found : Found) (wanted : String)
  /-- A whole number that the wanted type does not hold. -/
  | outOfRange (n : Int) (wanted : String)
  /-- A record without a field that it must have. -/
  | missing (field : String)
  | duplicate (field : String)
  /-- A name that is none of the known ones. -/
  | unknownName (name : String) (known : List String)
  /-- A record written as a sequence that ends at a field it must have. -/
  | tooShort (length : Nat) (title : String) (fields : Nat)
  deriving DecidableEq, Inhabited

/-- The first problem of a document. -/
inductive Fault where
  | malformed
  | unsuitable (u : Unsuitable)
  deriving DecidableEq, Inhabited

def Found.describe : Found → String
  | null => "null"
  | bool b => s!"boolean `{b}`"
  | integer n => s!"integer `{n}`"
  | real x => "floating point `" ++ Decimal.Layout.document.render x ++ "`"
  | text s => "string " ++ Text.quoted s
  | sequence => "sequence"
  | map => "map"

/-- How a record is named in a message. -/
def recordName (title : String) : String :=
  "struct " ++ title

def Unsuitable.message : Unsuitable → String
  | wrongType found wanted => "invalid type: " ++ found.describe ++ ", expected " ++ wanted
  | outOfRange n wanted => s!"invalid value: integer `{n}`, expected " ++ wanted
  | missing field => s!"missing field `{field}`"
  | duplicate field => s!"duplicate field `{field}`"
  | unknownName name known =>
    s!"unknown variant `{name}`, expected one of " ++ ", ".intercalate (known.map fun k => s!"`{k}`")
  | tooShort length title fields =>
    s!"invalid length {length}, expected " ++ recordName title ++ s!" with {fields} element"
      ++ (if fields = 1 then "" else "s")

end ChannelSurvey.Json

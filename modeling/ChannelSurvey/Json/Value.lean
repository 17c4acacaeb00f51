import ChannelSurvey.Decimal.Layout

/-!
# Writing documents

A `Value` is a document to be written. `compact` writes it without blanks; `pretty` writes one element or
member a line, indented by two blanks per level.
-/

namespace ChannelSurvey.Json

/-- A document to be written. -/
inductive Value where
  | null
  | bool (b : Bool)
  | integer (n : Int)
  | real (x : Float)
  | text (s : String)
  | list (elements : List Value)
  | object (members : List (String × Value))
  deriving Inhabited

def integerText : Int → List Char
  | .ofNat n => Nat.toDigits 10 n
  | .negSucc n => '-' :: Nat.toDigits 10 (n + 1)

/-- A hexadecimal digit in lower case. -/
def hexChar (n : Nat) : Char :=
  Nat.digitChar (n % 16)

/-- One character of a string. Quotes, backslashes and control characters are escaped. -/
def charText (c : Char) : List Char :=
  match c with
  | '"' => ['\\', '"']
  | '\\' => ['\\', '\\']
  | '\x08' => ['\\', 'b']
  | '\x0c' => ['\\', 'f']
  | '\n' => ['\\', 'n']
  | '\r' => ['\\', 'r']
  | '\t' => ['\\', 't']
  | c => if c < ' ' then ['\\', 'u', '0', '0', hexChar (c.toNat / 16), hexChar c.toNat] else [c]

def stringText (s : String) : List Char :=
  '"' :: (s.toList.flatMap charText ++ ['"'])

/-- A float; infinities and numbers that are none have no text of their own. -/
def realText (x : Float) : List Char :=
  if x.isFinite then (Decimal.Layout.document.render x).toList else "null".toList

/-- How the parts of a document are set apart. -/
structure Spacing where
  /-- What stands before an element or member at a level, and before the closing bracket. -/
  line : (level : Nat) → List Char
  /-- What stands between the name and the value of a member. -/
  colon : List Char

def Spacing.tight : Spacing := ⟨fun _ => [], [':']⟩

/-- A line for each element and member. -/
def Spacing.lines : Spacing := ⟨fun level => '\n' :: List.replicate (2 * level) ' ', [':', ' ']⟩

namespace Value

mutual

/-- The text of a value at a level. -/
def write (sp : Spacing) (level : Nat) : Value → List Char
  | null => "null".toList
  | bool true => "true".toList
  | bool false => "false".toList
  | integer n => integerText n
  | real x => realText x
  | text s => stringText s
  | list [] => ['[', ']']
  | list (v :: vs) =>
    '[' :: (sp.line (level + 1) ++ write sp (level + 1) v ++ writeElements sp level vs)
  | object [] => ['\x7b', '\x7d']
  | object ((name, v) :: ms) =>
    '\x7b' :: (sp.line (level + 1) ++ stringText name ++ sp.colon ++ write sp (level + 1) v
      ++ writeMembers sp level ms)

/-- The elements after the first one, and the closing bracket. -/
def writeElements (sp : Spacing) (level : Nat) : List Value → List Char
  | [] => sp.line level ++ [']']
  | v :: vs => ',' :: (sp.line (level + 1) ++ write sp (level + 1) v ++ writeElements sp level vs)

/-- The members after the first one, and the closing bracket. -/
def writeMembers (sp : Spacing) (level : Nat) : List (String × Value) → List Char
  | [] => sp.line level ++ ['\x7d']
  | (name, v) :: ms =>
    ',' :: (sp.line (level + 1) ++ stringText name ++ sp.colon ++ write sp (level + 1) v
      ++ writeMembers sp level ms)

end

/-- A document without blanks. -/
def compact (v : Value) : String :=
  String.ofList (v.write .tight 0)

/-- A document with a line for each part. -/
def pretty (v : Value) : String :=
  String.ofList (v.write .lines 0)

/-- A value that may be absent. -/
def ofOption {α : Type} (put : α → Value) : Option α → Value
  | some a => put a
  | none => null

end Value

end ChannelSurvey.Json

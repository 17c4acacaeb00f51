import ChannelSurvey.Text.Hidden

/-!
# Text shown in quotes

`quoted s` shows a text so that it can be told apart from its surroundings: between double quotes, with
a backslash before a quote or a backslash, and with a name or a number in place of a character that
would not be seen.
-/

namespace ChannelSurvey.Text

/-- A character's number between braces. -/
def numbered (c : Char) : String :=
  "\\u\x7b" ++ String.ofList (Nat.toDigits 16 c.toNat) ++ "\x7d"

def quotedChar (c : Char) : String :=
  match c with
  | '"' => "\\\""
  | '\\' => "\\\\"
  | '\n' => "\\n"
  | '\r' => "\\r"
  | '\t' => "\\t"
  | '\x00' => "\\0"
  | c => if isHidden c then numbered c else c.toString

/-- A text between quotes. -/
def quoted (s : String) : String :=
  "\"" ++ String.join (s.toList.map quotedChar) ++ "\""

end ChannelSurvey.Text

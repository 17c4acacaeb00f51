import ChannelSurvey.Document

/-!
# Loading documents from files

Loading takes what came of reading a file and gives the value of the document in it, or a `LoadFault`: the
file could not be read, its text is no such document, or the value is invalid. `load` stops at the second;
`loadSettings` and `loadScenario` check the value too.
-/

namespace ChannelSurvey

/-- Why a file could not be read or written. -/
inductive FileFault where
  /-- The bytes are no text in UTF-8. -/
  | notText
  /-- The system said no, with a number. -/
  | system (reason : String) (number : Nat)
  deriving DecidableEq, Inhabited

namespace FileFault

def noEntry : FileFault := .system "No such file or directory" 2

/-- Part of the path is a file and no directory. -/
def notDirectory : FileFault := .system "Not a directory" 20

def isDirectory : FileFault := .system "Is a directory" 21

def message : FileFault → String
  | notText => "stream did not contain valid UTF-8"
  | system reason number => s!"{reason} (os error {number})"

end FileFault

def textOfBytes (bytes : ByteArray) : Except FileFault String :=
  match String.fromUTF8? bytes with
  | some text => .ok text
  | none => .error .notText

/-- Why a document could not be loaded. -/
inductive LoadFault where
  | unreadable (path : String) (fault : FileFault)
  | unparsed (path : String) (fault : Json.Fault)
  | invalid (v : Violation)
  deriving DecidableEq, Inhabited

def Json.Fault.message : Json.Fault → String
  | malformed => "not a JSON document"
  | unsuitable u => u.message

def LoadFault.message : LoadFault → String
  | unreadable path fault => s!"failed to read {path}: " ++ fault.message
  | unparsed path fault => s!"failed to parse {path}: " ++ fault.message
  | invalid v => "invalid configuration: " ++ v.message

def load {α : Type} (reader : Json.Reader α) (path : String) (content : Except FileFault String) :
    Except LoadFault α :=
  match content with
  | .error fault => .error (.unreadable path fault)
  | .ok text =>
    match Json.document reader text with
    | .error fault => .error (.unparsed path fault)
    | .ok value => .ok value

def checked {α : Type} (check : α → Except Violation Unit) (value : α) : Except LoadFault α :=
  match check value with
  | .error v => .error (.invalid v)
  | .ok () => .ok value

def loadSettings (path : String) (content : Except FileFault String) : Except LoadFault Settings := do
  let settings ← load Settings.record.reader path content
  checked Settings.check settings

def loadScenario (path : String) (content : Except FileFault String) : Except LoadFault Scenario := do
  let scenario ← load Scenario.record.reader path content
  checked Scenario.check scenario

end ChannelSurvey

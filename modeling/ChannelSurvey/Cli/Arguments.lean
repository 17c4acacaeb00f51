/-!
# Command line arguments

`Request.parse` turns the arguments into what is asked for, or says why they make no sense. Options are
scanned from left to right; the first thing that is wrong counts, and a request for help or for the
version is answered as soon as it is met.

**Options.** An option takes its value from behind `=` or from the next argument. A next argument that
looks like an option is no value, unless the option says that its values may start with a hyphen. No option
may be given twice. The verbosity flag takes no value and may be given anywhere, any number of times.
-/

namespace ChannelSurvey.Cli

/-- Why arguments are rejected. -/
inductive UsageError where
  | noCommand
  | unexpected (argument : String)
  | repeated (option : String)
  | missingValue (option : String)
  | badValue (option value : String)
  | missingOption (option : String)
  deriving DecidableEq, Repr, Inhabited

def UsageError.message : UsageError → String
  | noCommand => "a command is required: simulate, plan or score"
  | unexpected argument => s!"unexpected argument '{argument}'"
  | repeated option => s!"the option --{option} cannot be used multiple times"
  | missingValue option => s!"a value is required for --{option}"
  | badValue option value => s!"invalid value '{value}' for --{option}"
  | missingOption option => s!"the option --{option} is required"

/-! ## Numbers -/

/-- A whole number in digits, with an optional plus sign. -/
def naturalOf? (s : String) : Option Nat :=
  let digits := match s.toList with | '+' :: cs => cs | cs => cs
  if digits.isEmpty || !digits.all Char.isDigit then none else some (Nat.ofDigitChars 10 digits 0)

/-- A whole number with an optional sign. -/
def integerOf? (s : String) : Option Int :=
  match s.toList with
  | '-' :: cs =>
    if cs.isEmpty || !cs.all Char.isDigit then none else some (-(Nat.ofDigitChars 10 cs 0 : Int))
  | _ => (naturalOf? s).map Int.ofNat

def counterOf? (s : String) : Option UInt64 :=
  (naturalOf? s).bind fun n => if n < UInt64.size then some (UInt64.ofNat n) else none

/-- A whole number of 32 bits; minus zero is zero. -/
def wordOf? (s : String) : Option UInt32 :=
  (integerOf? s).bind fun n => if 0 ≤ n ∧ n < UInt32.size then some (UInt32.ofNat n.toNat) else none

/-- A signed whole number of eight bits. -/
def levelOf? (s : String) : Option Int8 :=
  (integerOf? s).bind fun n => if -128 ≤ n ∧ n ≤ 127 then some (Int8.ofInt n) else none

/-! ## Scanning options -/

/-- An option that takes a value. -/
structure OptionSpec where
  name : String
  /-- Whether a value in an argument of its own may start with a hyphen. -/
  hyphens : Bool := false
  /-- Whether a text is a value of the option. -/
  accepts : String → Bool := fun _ => true

abbrev Given := List (String × String)

inductive Shape where
  /-- Two hyphens alone: no options after it. -/
  | endOfOptions
  /-- A long option, with the value behind `=` if there is one. -/
  | long (name : String) (value : Option String)
  /-- Short flags behind one hyphen. -/
  | short (flags : List Char)
  | plain
  deriving DecidableEq, Inhabited

def Shape.of (argument : String) : Shape :=
  match argument.toList with
  | ['-', '-'] => .endOfOptions
  | '-' :: '-' :: cs =>
    let name := String.ofList (cs.takeWhile (· != '='))
    match cs.dropWhile (· != '=') with
    | _ :: value => .long name (some (String.ofList value))
    | [] => .long name none
  | '-' :: c :: cs => .short (c :: cs)
  | _ => .plain

/-- Whether an argument can only be a value. -/
def isValueLike (argument : String) : Bool :=
  Shape.of argument == .plain

inductive Scanned where
  | options (given : Given)
  | help
  deriving Inhabited

/-- What a group of short flags asks for: nothing but verbosity, or help. -/
def scanFlags (argument : String) : List Char → Except UsageError Bool
  | [] => .ok false
  | 'v' :: flags => scanFlags argument flags
  | 'h' :: _ => .ok true
  | _ => .error (.unexpected argument)

def put (given : Given) (spec : OptionSpec) (value : String) : Except UsageError Given :=
  if spec.accepts value then .ok (given ++ [(spec.name, value)]) else .error (.badValue spec.name value)

/-- Scans the arguments of a command that takes the options of `specs`. -/
def scan (specs : List OptionSpec) : Given → List String → Except UsageError Scanned
  | given, [] => .ok (.options given)
  | given, argument :: rest =>
    match Shape.of argument with
    | .endOfOptions =>
      match rest with
      | [] => .ok (.options given)
      | stray :: _ => .error (.unexpected stray)
    | .long "verbose" none => scan specs given rest
    | .long "help" none => .ok .help
    | .long name value =>
      match specs.find? (·.name = name) with
      | none => .error (.unexpected argument)
      | some spec =>
        if (given.lookup name).isSome then .error (.repeated name)
        else
          match value, rest with
          | some value, rest => do scan specs (← put given spec value) rest
          | none, value :: rest =>
            if spec.hyphens || isValueLike value then do scan specs (← put given spec value) rest
            else .error (.missingValue name)
          | none, [] => .error (.missingValue name)
    | .short flags => do
      if ← scanFlags argument flags then return .help
      scan specs given rest
    | .plain => .error (.unexpected argument)

/-! ## Commands -/

structure SimulateOptions where
  scenario : String
  settings : Option String
  rounds : Option UInt32
  dwell : Option UInt32
  seed : UInt64
  output : Option String
  deriving DecidableEq, Repr, Inhabited

/-- The sample to be scored. -/
structure ScoreOptions where
  busy : UInt64
  own : UInt64
  total : UInt64
  noise : Int8
  baseline : Option Int8
  deriving DecidableEq, Repr, Inhabited

inductive Command where
  | simulate (o : SimulateOptions)
  | plan (band : String)
  | score (o : ScoreOptions)
  deriving DecidableEq, Repr, Inhabited

inductive Request where
  | help
  | version
  | command (c : Command)
  deriving DecidableEq, Repr, Inhabited

def simulateSpecs : List OptionSpec :=
  [{ name := "scenario" }, { name := "config" },
    { name := "rounds", accepts := fun s => (wordOf? s).isSome },
    { name := "dwell-ms", accepts := fun s => (wordOf? s).isSome },
    { name := "seed", accepts := fun s => (counterOf? s).isSome },
    { name := "output" }]

def planSpecs : List OptionSpec := [{ name := "band" }]

def scoreSpecs : List OptionSpec :=
  [{ name := "busy", accepts := fun s => (counterOf? s).isSome },
    { name := "tx", accepts := fun s => (counterOf? s).isSome },
    { name := "total", accepts := fun s => (counterOf? s).isSome },
    { name := "nf", hyphens := true, accepts := fun s => (levelOf? s).isSome },
    { name := "min-nf", hyphens := true, accepts := fun s => (levelOf? s).isSome }]

/-- The value of an option that must be given. -/
def Given.need {α : Type} (given : Given) (name : String) (of? : String → Option α) :
    Except UsageError α :=
  match (given.lookup name).bind of? with
  | some a => .ok a
  | none => .error (.missingOption name)

def Given.get? {α : Type} (given : Given) (name : String) (of? : String → Option α) : Option α :=
  (given.lookup name).bind of?

def SimulateOptions.of (given : Given) : Except UsageError SimulateOptions := do
  return {
    scenario := ← given.need "scenario" some
    settings := given.get? "config" some
    rounds := given.get? "rounds" wordOf?
    dwell := given.get? "dwell-ms" wordOf?
    seed := (given.get? "seed" counterOf?).getD 1
    output := given.get? "output" some }

def ScoreOptions.of (given : Given) : Except UsageError ScoreOptions := do
  return {
    busy := ← given.need "busy" counterOf?
    own := (given.get? "tx" counterOf?).getD 0
    total := ← given.need "total" counterOf?
    noise := ← given.need "nf" levelOf?
    baseline := given.get? "min-nf" levelOf? }

/-- Scans the arguments of a command and makes the command of its options. -/
def Command.parse (specs : List OptionSpec) (make : Given → Except UsageError Command)
    (arguments : List String) : Except UsageError Request := do
  match ← scan specs [] arguments with
  | .help => return .help
  | .options given => return .command (← make given)

/-- What a group of short flags in front of the command asks for, if anything. -/
def leadingFlags (argument : String) : List Char → Except UsageError (Option Request)
  | [] => .ok none
  | 'v' :: flags => leadingFlags argument flags
  | 'h' :: _ => .ok (some .help)
  | 'V' :: _ => .ok (some .version)
  | _ => .error (.unexpected argument)

/-- The commands by name, and the command that explains the others. -/
def commandNames : List String := ["simulate", "plan", "score", "help"]

/-- What follows a request for help: nothing, or the name of the command in question. -/
def helpOn : List String → Except UsageError Request
  | [] => .ok .help
  | [name] => if commandNames.contains name then .ok .help else .error (.unexpected name)
  | _ :: stray :: _ => .error (.unexpected stray)

def Request.parse : List String → Except UsageError Request
  | [] => .error .noCommand
  | argument :: rest =>
    match Shape.of argument with
    | .endOfOptions =>
      match rest with
      | [] => .error .noCommand
      | stray :: _ => .error (.unexpected stray)
    | .long "verbose" none => Request.parse rest
    | .long "help" none => .ok .help
    | .long "version" none => .ok .version
    | .long .. => .error (.unexpected argument)
    | .short flags => do
      match ← leadingFlags argument flags with
      | some request => return request
      | none => Request.parse rest
    | .plain =>
      match argument with
      | "simulate" => Command.parse simulateSpecs (fun g => (SimulateOptions.of g).map .simulate) rest
      | "plan" => Command.parse planSpecs (fun g => .ok (.plan ((g.get? "band" some).getD "2g"))) rest
      | "score" => Command.parse scoreSpecs (fun g => (ScoreOptions.of g).map .score) rest
      | "help" => helpOn rest
      | _ => .error (.unexpected argument)

end ChannelSurvey.Cli

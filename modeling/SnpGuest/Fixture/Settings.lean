import SnpGuest.Report.Signing

namespace SnpGuest

/-!
# Settings of the fixture tool

The options that the tool takes, and how its arguments set them.  Each option is written
`--name value` or `--name=value`, in full and at most once.  A value that stands on its own must not
look like an option; one that is attached may.  There are no other arguments, and nothing may follow
a lone `--`.
-/

inductive OptionName where
  | reportData
  | seed
  | vmpl
  | ark
  | ask
  | vcek
  | outputDir
deriving DecidableEq

namespace OptionName

def all : List OptionName :=
  [reportData, seed, vmpl, ark, ask, vcek, outputDir]

/-- The name of an option on the command line, without its dashes. -/
def text : OptionName → String
  | reportData => "report-data"
  | seed => "seed"
  | vmpl => "vmpl"
  | ark => "ark"
  | ask => "ask"
  | vcek => "vcek"
  | outputDir => "output-dir"

def ofText? (name : String) : Option OptionName :=
  all.find? fun option => option.text = name

/-- Whether an option names a file or directory, which an empty text does not. -/
def isPath : OptionName → Bool
  | ark | ask | vcek | outputDir => true
  | reportData | seed | vmpl => false

end OptionName

/-- Why arguments are refused. -/
inductive ArgumentError where
  | unexpected (argument : String)
  | missingValue (option : OptionName)
  | repeated (option : OptionName)
  | emptyPath (option : OptionName)
  | notANumber (value : String)
deriving DecidableEq

def ArgumentError.message : ArgumentError → String
  | .unexpected argument => "error: unexpected argument '" ++ argument ++ "' found"
  | .missingValue option => "error: a value is required for '--" ++ option.text ++ "'"
  | .repeated option =>
    "error: the argument '--" ++ option.text ++ "' cannot be used multiple times"
  | .emptyPath option => "error: '--" ++ option.text ++ "' must not be empty"
  | .notANumber value => "error: invalid value '" ++ value ++ "' for '--vmpl'"

structure Settings where
  /-- Hexadecimal data for the report. -/
  reportData : String
  /-- The text from which the signing key is derived. -/
  seed : String
  vmpl : UInt32
  ark : Option String
  ask : Option String
  vcek : Option String
  outputDir : String
deriving DecidableEq

namespace Settings

/-- The settings without any argument. -/
def default : Settings where
  reportData := ""
  seed := "oak-sev-guest-fixture"
  vmpl := 0
  ark := none
  ask := none
  vcek := none
  outputDir := "."

/-! ## Reading single arguments -/

/-- What one argument is. -/
inductive ArgumentForm where
  /-- The lone pair of dashes. -/
  | terminator
  /-- An option's name, with the value attached to it if there is one. -/
  | option (name : String) (attached : Option String)
  | other

def classify (argument : String) : ArgumentForm :=
  match argument.toList with
  | ['-', '-'] => .terminator
  | '-' :: '-' :: body =>
    let name := String.ofList (body.takeWhile (· ≠ '='))
    match body.dropWhile (· ≠ '=') with
    | [] => .option name none
    | _ :: value => .option name (some (String.ofList value))
  | _ => .other

/-- Whether an argument can be the value of the option before it.  A single dash can. -/
def isValue (argument : String) : Bool :=
  match argument.toList with
  | '-' :: _ :: _ => false
  | _ => true

/-- The options and values of the arguments, in order. -/
def collect : List String → Except ArgumentError (List (OptionName × String))
  | [] => .ok []
  | argument :: rest =>
    match classify argument with
    | .other => .error (.unexpected argument)
    | .terminator =>
      match rest with
      | [] => .ok []
      | next :: _ => .error (.unexpected next)
    | .option name attached =>
      match OptionName.ofText? name with
      | none => .error (.unexpected argument)
      | some option =>
        match attached with
        | some value => (collect rest).map ((option, value) :: ·)
        | none =>
          match rest with
          | [] => .error (.missingValue option)
          | value :: rest =>
            if isValue value then (collect rest).map ((option, value) :: ·)
            else .error (.missingValue option)

/-! ## Reading values -/

/-- Takes the sign off a number: whether it is a minus, and the rest. -/
def splitSign : List Char → Bool × List Char
  | '+' :: rest => (false, rest)
  | '-' :: rest => (true, rest)
  | all => (false, all)

/-- The number that decimal digits behind an optional sign write, if 32 bits hold it. -/
def word? (text : String) : Option UInt32 :=
  let (negative, digits) := splitSign text.toList
  if digits = [] ∨ ¬ digits.all Char.isDigit then none
  else
    let value := digits.foldl (fun value digit => 10 * value + (digit.toNat - 48)) 0
    -- The text is read as a signed number first, so zero may have a minus.
    if (negative ∧ value ≠ 0) ∨ 4294967296 ≤ value then none else some (UInt32.ofNat value)

def assign (settings : Settings) (option : OptionName) (value : String) :
    Except ArgumentError Settings :=
  if option.isPath ∧ value = "" then .error (.emptyPath option)
  else
    match option with
    | .reportData => .ok { settings with reportData := value }
    | .seed => .ok { settings with seed := value }
    | .vmpl =>
      match word? value with
      | some vmpl => .ok { settings with vmpl := vmpl }
      | none => .error (.notANumber value)
    | .ark => .ok { settings with ark := some value }
    | .ask => .ok { settings with ask := some value }
    | .vcek => .ok { settings with vcek := some value }
    | .outputDir => .ok { settings with outputDir := value }

/-- Sets options one after the other, none of them twice. -/
def assignAll (settings : Settings) :
    List (OptionName × String) → Except ArgumentError Settings
  | [] => .ok settings
  | (option, value) :: rest =>
    if option ∈ rest.map Prod.fst then .error (.repeated option)
    else
      match settings.assign option value with
      | .error cause => .error cause
      | .ok settings => settings.assignAll rest

/-- The settings that the arguments ask for. -/
def parse (arguments : List String) : Except ArgumentError Settings :=
  match collect arguments with
  | .error cause => .error cause
  | .ok pairs => default.assignAll pairs

end Settings

end SnpGuest

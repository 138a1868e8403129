import KayLexer.Encoding.Basic
import KayLexer.Environment
import KayLexer.Log

/-!
The settings of the program, which it takes from two variables of its environment. Which names of
encodings it takes is up to a registry.
-/

namespace KayLexer

/-- The name of the source encoding and the threshold of the log. -/
structure Settings where
  sourceEncoding : String
  logThreshold : Nat
  deriving DecidableEq

/-- Why a variable gives no setting. -/
inductive SettingsError where
  | nulInEncoding
  | unknownEncoding (name : String)
  | unknownThreshold (name : String)
  deriving DecidableEq

namespace Settings

def encodingKey : String := "KAY_SOURCE_ENCODING"

def thresholdKey : String := "KAY_LOG_LEVEL"

end Settings

def SettingsError.message : SettingsError → String
  | nulInEncoding => Encoding.NameError.hasNul.message
  | unknownEncoding name =>
    "Unknown source encoding '" ++ name ++ "' in environment variable '" ++
      Settings.encodingKey ++ "'."
  | unknownThreshold name =>
    "Unknown log level '" ++ name ++ "' in environment variable '" ++ Settings.thresholdKey ++ "'."

namespace Settings

/-- The name of an encoding, as it is given. -/
def parseEncoding (name : String) (registry : Encoding.Registry := .empty) :
    Except SettingsError String :=
  match Encoding.ofName name registry with
  | .ok _ => .ok name
  | .error .hasNul => .error .nulInEncoding
  | .error (.unknown name) => .error (.unknownEncoding name)

/-- The threshold of a name. -/
def parseThreshold (name : String) : Except SettingsError Nat :=
  match LogThreshold.ofName? name with
  | some n => .ok n
  | none => .error (.unknownThreshold name)

/-- The encoding that an environment sets. -/
def encodingOf (env : Environment) (registry : Encoding.Registry := .empty) :
    Except SettingsError String :=
  parseEncoding (Environment.orDefault (env encodingKey) "utf-8") registry

/-- The threshold that an environment sets. -/
def thresholdOf (env : Environment) : Except SettingsError Nat :=
  parseThreshold (Environment.orDefault (env thresholdKey) "WARNING")

/-- The settings of an environment. The encoding is looked at first. -/
def ofEnvironment (env : Environment) (registry : Encoding.Registry := .empty) :
    Except SettingsError Settings := do
  let sourceEncoding ← encodingOf env registry
  let logThreshold ← thresholdOf env
  return { sourceEncoding, logThreshold }

/-- Takes the settings from an environment, one after the other. One that was taken before an error
stays. -/
def reload (s : Settings) (env : Environment) (registry : Encoding.Registry := .empty) :
    Except SettingsError Unit × Settings :=
  match encodingOf env registry with
  | .error e => (.error e, s)
  | .ok sourceEncoding =>
    let s := { s with sourceEncoding }
    match thresholdOf env with
    | .error e => (.error e, s)
    | .ok logThreshold => (.ok (), { s with logThreshold })

end Settings

/-- A process that holds settings: its environment, what the settings file says now, the settings
taken last, if any, and the encodings that it knows by further names. -/
structure SettingsProcess where
  env : Environment
  file : List (String × String)
  settings : Option Settings
  registry : Encoding.Registry

namespace SettingsProcess

/-- A process with an empty environment. -/
def initial : SettingsProcess := ⟨.empty, [], none, .empty⟩

/-- Sets a variable of the environment, or with `none` unsets it. -/
def set (p : SettingsProcess) (key : String) (value : Option String) : SettingsProcess :=
  { p with env := p.env.set key value }

/-- The settings file is loaded into the environment, where it stays. -/
def loaded (p : SettingsProcess) : SettingsProcess := { p with env := p.env.load p.file }

/-- New settings. The former ones stay if there is an error. -/
def create (p : SettingsProcess) : Except SettingsError Unit × SettingsProcess :=
  let p := p.loaded
  match Settings.ofEnvironment p.env p.registry with
  | .ok s => (.ok (), { p with settings := some s })
  | .error e => (.error e, p)

/-- The present settings, taken again; `none` if there are none yet, for which nothing is loaded. -/
def reload (p : SettingsProcess) : Option (Except SettingsError Unit × SettingsProcess) :=
  p.settings.map fun s =>
    let p := p.loaded
    let (r, s) := s.reload p.env p.registry
    (r, { p with settings := some s })

end SettingsProcess

end KayLexer

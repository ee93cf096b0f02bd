import Gleaner.Extraction.Mode
import Gleaner.Text.Natural
import Gleaner.Text.Utf8

/-! Settings of the service, read from environment variables. -/
namespace Gleaner

inductive LogFormat
  | pretty | json
  deriving DecidableEq, Repr, Inhabited

def LogFormat.ofText (s : String) : Except String LogFormat :=
  let word := Text.asciiLower (String.ofList (Text.trim s.toList))
  if word = "pretty" ∨ word = "text" then .ok .pretty
  else if word = "json" then .ok .json
  else .error ("unknown log format '" ++ word ++ "', expected 'pretty' or 'json'")

structure Config where
  bindAddress : String := "127.0.0.1:3000"
  mode : ModeKind := .lenient
  requireRecords : Bool := true
  maxUploadBytes : Nat := 10 * 1024 * 1024
  logFormat : LogFormat := .pretty
  deriving DecidableEq, Repr

/-- The settings of an empty environment. -/
def Config.standard : Config := {}

/-- The value of the variable is not acceptable. -/
structure ConfigError where
  name : String
  reason : String
  deriving DecidableEq, Repr

/-- The values of the variables that are set to a text. -/
abbrev Environment := String → Option String

/-- A value of bytes that are not UTF-8 counts as none. -/
def Environment.ofBytes (values : String → Option (List UInt8)) : Environment := fun name =>
  (values name).bind fun bytes => (Text.Utf8.decode? bytes).map String.ofList

namespace Config

def extractionMode (c : Config) : ExtractionMode := .of c.mode c.requireRecords

/-- Reads the value of a variable without the blanks around it. -/
def parse {α : Type} (name value : String) (read : List Char → Except String α) :
    Except ConfigError α :=
  match read (Text.trim value.toList) with
  | .ok a => .ok a
  | .error reason => .error ⟨name, reason⟩

/-- Reads a variable, or takes the default if it is not set. -/
def setting {α : Type} (env : Environment) (name : String) (default : α)
    (read : List Char → Except String α) : Except ConfigError α :=
  match env name with
  | some value => parse name value read
  | none => .ok default

def natural (max : Nat) (s : List Char) : Except String Nat :=
  (Text.natural max s).mapError (·.reason)

def boolean (s : List Char) : Except String Bool :=
  match Text.boolean? s with
  | some b => .ok b
  | none => .error Text.booleanReason

/-- An address is taken as it is; a port alone stands for all interfaces. -/
def bindAddressOf (env : Environment) : Except ConfigError String :=
  match env "BIND_ADDR", env "PORT" with
  | some address, _ => .ok address
  | none, some port =>
      (parse "PORT" port (natural 0xFFFF)).map fun n => "0.0.0.0:" ++ toString n
  | none, none => .ok standard.bindAddress

def maxUploadBytesOf (env : Environment) : Except ConfigError Nat := do
  let name := "MAX_UPLOAD_BYTES"
  let n ← setting env name standard.maxUploadBytes (natural 0xFFFFFFFFFFFFFFFF)
  if n = 0 then .error ⟨name, "must be greater than zero"⟩ else .ok n

/-- The settings of an environment; the first unacceptable variable is reported. -/
def ofEnvironment (env : Environment) : Except ConfigError Config := do
  let bindAddress ← bindAddressOf env
  let mode ← setting env "EXTRACT_MODE" standard.mode fun s =>
    ModeKind.ofText (String.ofList s)
  let requireRecords ← setting env "EXTRACT_REQUIRE_RECORDS" standard.requireRecords boolean
  let maxUploadBytes ← maxUploadBytesOf env
  let logFormat ← setting env "LOG_FORMAT" standard.logFormat fun s =>
    LogFormat.ofText (String.ofList s)
  pure { bindAddress, mode, requireRecords, maxUploadBytes, logFormat }

end Config

def ConfigError.message (e : ConfigError) : String :=
  "invalid value for '" ++ e.name ++ "': " ++ e.reason

/-- What the handlers of requests know of the settings. -/
structure ServiceState where
  mode : ModeKind
  requireRecords : Bool
  deriving DecidableEq, Repr

namespace ServiceState

def ofConfig (c : Config) : ServiceState := ⟨c.mode, c.requireRecords⟩

instance : Inhabited ServiceState := ⟨ofConfig .standard⟩

/-- The mode of one request: what it says wins over the settings, for each part separately. -/
def resolve (s : ServiceState) (mode : Option ModeKind) (requireRecords : Option Bool) :
    ExtractionMode :=
  .of (mode.getD s.mode) (requireRecords.getD s.requireRecords)

end ServiceState

end Gleaner

import EnvAudit.Document.Value
import EnvAudit.World.Path
/-!
# Settings

Six fields, each with a default.  A field holds whatever its source stored, so a field is a value; only an override
is brought to the type that its field declares.
-/
namespace EnvAudit

inductive Field where
  | defaultEnvFile
  | schemaFile
  | exampleOutput
  | historyDepth
  | maxHistoryBytes
  | logLevel
  deriving DecidableEq, Repr

namespace Field

/-- In the order in which settings are shown and saved. -/
def all : List Field := [.defaultEnvFile, .schemaFile, .exampleOutput, .historyDepth, .maxHistoryBytes, .logLevel]

def name : Field → Text
  | .defaultEnvFile => "default_env_file".toList
  | .schemaFile => "schema_file".toList
  | .exampleOutput => "example_output".toList
  | .historyDepth => "history_depth".toList
  | .maxHistoryBytes => "max_history_bytes".toList
  | .logLevel => "log_level".toList

def named? (t : Text) : Option Field := all.find? fun f => f.name = t

def isInteger : Field → Bool
  | .historyDepth | .maxHistoryBytes => true
  | _ => false

def usual : Field → Value
  | .defaultEnvFile => .text ".env".toList
  | .schemaFile => .text "env.schema.yaml".toList
  | .exampleOutput => .text ".env.example".toList
  | .historyDepth => .int 100
  | .maxHistoryBytes => .int (20 * 1024 * 1024)
  | .logLevel => .text "WARNING".toList

end Field

structure Settings where
  defaultEnvFile : Value
  schemaFile : Value
  exampleOutput : Value
  historyDepth : Value
  maxHistoryBytes : Value
  logLevel : Value
  deriving Repr

namespace Settings

def get (s : Settings) : Field → Value
  | .defaultEnvFile => s.defaultEnvFile
  | .schemaFile => s.schemaFile
  | .exampleOutput => s.exampleOutput
  | .historyDepth => s.historyDepth
  | .maxHistoryBytes => s.maxHistoryBytes
  | .logLevel => s.logLevel

def set (s : Settings) (f : Field) (v : Value) : Settings :=
  match f with
  | .defaultEnvFile => { s with defaultEnvFile := v }
  | .schemaFile => { s with schemaFile := v }
  | .exampleOutput => { s with exampleOutput := v }
  | .historyDepth => { s with historyDepth := v }
  | .maxHistoryBytes => { s with maxHistoryBytes := v }
  | .logLevel => { s with logLevel := v }

def ofFields (value : Field → Value) : Settings :=
  ⟨value .defaultEnvFile, value .schemaFile, value .exampleOutput, value .historyDepth, value .maxHistoryBytes,
    value .logLevel⟩

def usual : Settings := ofFields Field.usual

theorem get_ofFields (value : Field → Value) (f : Field) : (ofFields value).get f = value f := by
  cases f <;> rfl

theorem get_set (s : Settings) (f g : Field) (v : Value) : (s.set f v).get g = if g = f then v else s.get g := by
  cases f <;> cases g <;> rfl

/-! ## Documents -/

def entries (s : Settings) : Entries := Field.all.map fun f => (.text f.name, s.get f)

/-- Unknown entries are passed over and missing ones keep their defaults. -/
def ofEntries (es : Entries) : Settings := ofFields fun f => (es.getText? f.name).getD f.usual

/-- Settings are a map; anything else is no settings. -/
def ofValue? : Value → Option Settings
  | .map es => some (ofEntries es)
  | _ => none

end Settings

/-! ## Where settings live -/

/-- The user's own file, the project's file, and the settings once they are loaded. -/
structure SettingsStore where
  userFile : Path
  projectFile : Path
  loaded : Option Settings
  deriving Repr

namespace SettingsStore

def projectFileName : Text := ".envguardrc".toList

def fresh (userFile directory : Path) : SettingsStore := ⟨userFile, directory.child projectFileName, none⟩

/-- The user's own file is below the home directory, in a directory that holds nothing else. -/
def usual (home directory : Path) : SettingsStore :=
  fresh ((home.child ".envguard".toList).child "config.json".toList) directory

end SettingsStore

/-! ## Types of fields -/

/-- A value that is no text as an integer: a number whose places are cut off. -/
def integerOf (v : Value) : Except Failure (Option Int) :=
  match v with
  | .scalar (.int n) => .ok (some n)
  | .scalar (.bool b) => .ok (some (if b then 1 else 0))
  | .scalar (.num x) => match partsOf x with
    | .infinite _ => .error .tooLarge
    | _ => .ok (truncate? x)
  | _ => .ok none

/-- A text brought to the type of a field. -/
def Field.coerceText (f : Field) (t : Text) : Except Halt Value :=
  if f.isInteger then
    match parseInteger? 10 t with
    | none => .error (.problem (.notAnInteger f.name (quoted t)))
    | some n => .ok (.int n)
  else .ok (.text t)

/-- A value that is no text brought to the type of a field.  Whatever is not taken as an integer is shown. -/
def Field.coerceValue (levels : Nat) (f : Field) (v : Value) : Except Halt Value :=
  if f.isInteger then
    match integerOf v, v.shownFault? levels with
    | .error e, _ => .error (.failure e)
    | .ok (some n), _ => .ok (.int n)
    | .ok none, some e => .error (.failure e)
    | .ok none, none => .error (.problem (.notAnInteger f.name v.shown))
  else
    match v.plainWithin levels with
    | .error e => .error (.failure e)
    | .ok t => .ok (.text t)

/-- A raw setting brought to the type of its field. -/
def coerce (levels : Nat) (key : Text) (v : Value) : Except Halt Value :=
  match Field.named? key, v with
  | none, _ => .error (.problem (.unknownSetting key))
  | some f, .scalar (.text t) => f.coerceText t
  | some f, v => f.coerceValue levels v

end EnvAudit

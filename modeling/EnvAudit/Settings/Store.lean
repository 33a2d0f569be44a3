import EnvAudit.Json.Reader
import EnvAudit.Json.Writer
import EnvAudit.Settings.RcFile
import EnvAudit.Text.LetterCase
import EnvAudit.World.Session
/-!
# Loading and saving settings

Settings come from three sources, each over the one before: the user's file, the project's file, and variables of the
environment.  Values of the last two are overrides and are brought to the types of their fields; values of the user's
file are taken as they are.  What is saved is the user's file alone, so no override ever gets into it.
-/
namespace EnvAudit

open Session

/-! ## The user's file -/

/-- A file that is no JSON, or holds no map, says nothing. -/
def settingsOfText (levels : Nat) (t : Text) : Except Failure Settings :=
  match readJson levels t with
  | .error .malformed => .ok .usual
  | .error .integerTooLong => .error .badValue
  | .error .tooDeep => .error .tooDeep
  | .ok v => .ok ((Settings.ofValue? v).getD .usual)

def settingsOfBytes (levels : Nat) (content : Bytes) : Except Failure Settings :=
  match decodeStrict content with
  | none => .error .undecodable
  | some t => settingsOfText levels (unifyNewlines t)

def loadUserSettings : Session Settings := do
  let w ← get
  if ← exists? w.settings.userFile then
    orFail (settingsOfBytes w.host.jsonLevels (← readFile w.settings.userFile))
  else return .usual

/-! ## Overrides -/

def overrideLead : Text := "envguard_".toList

/-- The field a name stands for, in any letter case and with or without the lead. -/
def fieldOfName (name : Text) : Option Field :=
  let low := lowercase name
  Field.named? ((after? overrideLead low).getD low)

abbrev Overrides := List (Field × Text)

/-- A field that is overridden already keeps its place. -/
def putOverride (f : Field) (t : Text) : Overrides → Overrides
  | [] => [(f, t)]
  | o :: os => if o.1 = f then (f, t) :: os else o :: putOverride f t os

def projectOverrides (es : RcEntries) : Overrides :=
  es.foldl (fun os e => match fieldOfName e.1, e.2 with
    | some f, some t => putOverride f t os
    | _, _ => os) []

def variableName (f : Field) : Text := "ENVGUARD_".toList ++ capitals f.name

/-- The variables are asked for in an order of the fields that nothing fixes. -/
def withVariables (order : List Field) (environment : List (Text × Text)) (os : Overrides) : Overrides :=
  order.foldl (fun os f => match environment.find? fun v => v.1 = variableName f with
    | some v => putOverride f v.2 os
    | none => os) os

/-- The first override that is not of its field's type halts the loading. -/
def applyOverrides : Overrides → Settings → Except Halt Settings
  | [], s => .ok s
  | (f, t) :: os, s =>
    match f.coerceText t with
    | .ok v => applyOverrides os (s.set f v)
    | .error h => .error h

def rcWarning (line : Nat) : Text :=
  "python-dotenv could not parse statement starting at line ".toList ++ decimal line ++ ['\n']

/-- The entries of the project's file; statements that cannot be read are warned about. -/
def projectEntries : Session RcEntries := do
  let w ← get
  let p := w.settings.projectFile
  if ← isFile p then
    match decodeStrict (← readFile p) with
    | none => fail .undecodable
    | some t =>
      let statements := rcStatements (unifyNewlines t)
      for line in unreadableLines statements do
        emit (.err (rcWarning line))
      return rcEntriesOf w.environment (statements.map (·.2))
  else return []

/-! ## The store -/

/-- The settings in force.  Once loaded they stay, until something is saved; a failed loading keeps nothing. -/
def loadSettingsIn (order : List Field) : Session Settings := do
  let w ← get
  match w.settings.loaded with
  | some s => return s
  | none =>
    let user ← loadUserSettings
    let rc ← projectEntries
    let s ← orHalt (applyOverrides (withVariables order w.environment (projectOverrides rc)) user)
    modify fun w => { w with settings := { w.settings with loaded := some s } }
    return s

def loadSettings : Session Settings := loadSettingsIn Field.all

def settingsJson (s : Settings) : Text := (Value.map s.entries).json

/-- Whether every value can be copied. -/
def Settings.copies (s : Settings) (calls : Nat) : Bool := Field.all.all fun f => (s.get f).calls ≤ calls

/-- What the file of some settings holds when writing it ends, and what has ended it too early.  The file is opened
before the settings are copied, and what cannot be written is met only when it comes up. -/
def settingsWritten (calls : Nat) (s : Settings) : Text × Option Failure :=
  if s.copies calls then
    match (Value.map s.entries).jsonBeforeFault? with
    | some t => (t, some .badValue)
    | none => (settingsJson s, none)
  else ([], some .tooDeep)

/-- Saving settings puts them in force, even if the file cannot be written. -/
def saveSettings (given : Option Settings) : Session Unit := do
  match given with
  | some s => modify fun w => { w with settings := { w.settings with loaded := some s } }
  | none => pure ()
  let w ← get
  match w.settings.loaded with
  | none => fail .badValue
  | some s =>
    let (content, fault) := settingsWritten w.host.copyCalls s
    makeDirectories w.settings.userFile.parent
    writeFile w.settings.userFile (encode content)
    failIf fault

/-- Names that settings answer to beside their fields. -/
def ownNames : List Text := ["to_dict", "from_dict", "__annotations__", "__class__", "__dataclass_fields__",
  "__dataclass_params__", "__delattr__", "__dict__", "__dir__", "__doc__", "__eq__", "__format__", "__ge__",
  "__getattribute__", "__getstate__", "__gt__", "__hash__", "__init__", "__init_subclass__", "__le__", "__lt__",
  "__match_args__", "__module__", "__ne__", "__new__", "__reduce__", "__reduce_ex__", "__repr__", "__setattr__",
  "__sizeof__", "__str__", "__subclasshook__", "__weakref__"].map (·.toList)

/-- What is answered for a name: the value of a field, or something that settings have of their own. -/
inductive Asked where
  | value (v : Value)
  | own (name : Text)

/-- An unknown name has the value given for it. -/
def Settings.asked (s : Settings) (key : Text) (usual : Value) : Asked :=
  match Field.named? key with
  | some f => .value (s.get f)
  | none => if ownNames.contains key then .own key else .value usual

/-- What is in force under a name. -/
def getSetting (key : Text) (usual : Value) : Session Asked := do return (← loadSettings).asked key usual

/-- Changes one field of the user's file.  The settings in force are loaded anew when they are next asked for. -/
def setSetting (key : Text) (v : Value) : Session Unit := do
  let user ← loadUserSettings
  let v ← orHalt (coerce (← get).host.shownLevels key v)
  let s := ((Field.named? key).map fun f => user.set f v).getD user
  saveSettings (some s)
  modify fun w => { w with settings := { w.settings with loaded := none } }

end EnvAudit

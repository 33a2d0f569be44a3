import EnvAudit.Command.Output
import EnvAudit.Settings.Store
/-!
# Settings behind a command

What a command line leaves open is settled by the settings.  A setting holds whatever its source stored, and one that
is no text names no file.
-/
namespace EnvAudit

open Session

def settingPath (v : Value) : Session Text :=
  match v with
  | .scalar (.text t) => pure t
  | _ => fail .wrongType

/-- A setting may be null, and then stands for no file. -/
def settingPath? (v : Value) : Session (Option Text) := do
  if v.isNull then return none else return some (← settingPath v)

/-- A text of the command line, or else a setting. -/
def orSetting (given : Option Text) (v : Value) : Session Text :=
  match given with
  | some t => pure t
  | none => settingPath v

/-! ## Commands on settings -/

def showFields (s : Settings) : List Field → Session Unit
  | [] => pure ()
  | f :: fs => do
    echo (f.name ++ " = ".toList ++ (← plainText (s.get f)))
    showFields s fs

/-- Settings are copied before the first is shown. -/
def showSettings : Session Status :=
  orComplain loadSettings fun s => do
    if !s.copies (← get).host.copyCalls then fail .tooDeep
    showFields s Field.all
    return done

/-- The value that is shown is the one in force afterwards, which an override may hide. -/
def changeSetting (key value : Text) : Session Status :=
  orComplain (do
    setSetting key (.text value)
    let s ← loadSettings
    return ((Field.named? key).map s.get).getD .null) fun v => do
    echo ("✅ ".toList ++ key ++ " = ".toList ++ (← plainText v))
    return done

end EnvAudit

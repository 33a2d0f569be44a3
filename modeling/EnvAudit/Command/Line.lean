import EnvAudit.Command.Basic
import EnvAudit.Command.CheckSecrets
import EnvAudit.Command.Fix
import EnvAudit.Command.GenerateExample
import EnvAudit.Command.ScanHistory
import EnvAudit.Command.Validate
import EnvAudit.Hook.Lifecycle
import EnvAudit.Hook.Protect
/-!
# Running a command line

The name of the command is known before anything else happens.  Then the logger gets the level of the command line, or
the one of the settings, and only then are the command's own words read: settings that cannot be loaded at all end the
run before a misused command is noticed.
-/
namespace EnvAudit

open Session

def runHooks : HookCommand → Session Status
  | .install path force => installHook path force
  | .uninstall path => uninstallHook path
  | .status path => hookStatus path
  | .protect path verbose => protect path verbose

def run : Command → Session Status
  | .validate env schema => runValidate env schema
  | .checkSecrets envs showValues failOnFindings => runCheckSecrets envs showValues failOnFindings
  | .generateExample env output => runGenerateExample env output
  | .fix env dryRun => runFix env dryRun
  | .scanHistory path depth => runScanHistory path depth
  | .hooks c => runHooks c
  | .showSettings => showSettings
  | .setSetting key value => changeSetting key value

/-! ## The level of the logger -/

def usualLevel : Text := "WARNING".toList

/-- A setting that is no text names no level, unless it is empty. -/
def levelSetting (v : Value) : Session (Option Text) :=
  match v with
  | .scalar (.text t) => pure (some t)
  | v => if v.isTruthy then fail .noAttribute else pure none

/-- Overrides that make no sense do not keep a command from running. -/
def levelInForce : Session (Option Text) := do
  match ← attempt loadSettings with
  | .ok s => levelSetting s.logLevel
  | .error _ => return some usualLevel

/-! ## The line -/

def programName : Text := "cli".toList

def programVersion : Text := "0.1.0".toList

def usage : Text := "Usage: ".toList ++ programName ++ " [OPTIONS] COMMAND [ARGS]...".toList

/-- Shows why a command line asks for no command. -/
def stop : Stop → Session Status
  | .misuse m => do
    match m.message? with
    | some t => complain t
    | none => echoError usage
    return misused
  | .failure f => fail f
  | .help => do
    echo usage
    return done
  | .version => do
    echo (programName ++ ", version ".toList ++ programVersion)
    return done

def finderOf (w : World) : Finder := w.tree.isThere w.cwd

def runLine (words : List Text) : Session Status := do
  match readLineHead words with
  | .error s => stop s
  | .ok head =>
    match head.logLevel with
    | some t => configureLogger (some t)
    | none => configureLogger (← levelInForce)
    match readCommand (finderOf (← get)) head.topic head.words with
    | .error s => stop s
    | .ok c => run c

end EnvAudit

import EnvAudit.Command.SettingsInForce
import EnvAudit.EnvFile.Files
import EnvAudit.Signature.Bundled
/-!
# Checking for secrets

Scans env files for exposed secrets: the files that are named, or else the well-known ones of the current directory,
or else the configured one.  All files are scanned before anything is shown, so a file that is missing leaves no
findings on the screen.
-/
namespace EnvAudit

open Session

/-! ## Scanning -/

/-- A finding and the variable of its line. -/
structure Exposure where
  finding : Finding
  holder : Option Variable
  deriving Repr

def exposures (vs : List Variable) (fs : List Finding) : List Exposure :=
  fs.map fun f => ⟨f, vs.reverse.find? fun v => v.line = f.line⟩

structure FileExposures where
  path : Text
  exposures : List Exposure
  deriving Repr

/-- A path that is named twice keeps its first place. -/
def putExposures (r : FileExposures) : List FileExposures → List FileExposures
  | [] => [r]
  | q :: qs => if q.path = r.path then r :: qs else q :: putExposures r qs

def scannedPaths (envs : List Text) : Session (List Text) := do
  if !envs.isEmpty then return envs
  let found ← findEnvFiles (.ofText ['.'])
  if !found.isEmpty then return found.map Path.text
  return [← settingPath (← loadSettings).defaultEnvFile]

def scanPath (path : Text) : Session FileExposures := do
  let vs ← readVariables path (.ofText path)
  return ⟨path, exposures vs (← detectLogged bundledTable vs)⟩

def scanPaths (results : List FileExposures) : List Text → Session (List FileExposures)
  | [] => pure results
  | path :: paths => do scanPaths (putExposures (← scanPath path) results) paths

/-! ## Report -/

def exposureLine (showValues : Bool) (e : Exposure) : Text :=
  "  • ".toList ++ e.finding.key ++ ": ".toList ++ e.finding.reason ++
    (if e.finding.line = 0 then [] else " (line ".toList ++ decimalInt e.finding.line ++ [')']) ++
    (match showValues, e.holder with
      | true, some v => " [".toList ++ v.masked ++ [']']
      | _, _ => [])

/-- Several files are told apart by their paths; a file without findings is not shown. -/
def fileLines (showValues severalFiles : Bool) (r : FileExposures) : List Text :=
  if r.exposures.isEmpty then []
  else (if severalFiles then ["  ".toList ++ r.path] else []) ++ r.exposures.map (exposureLine showValues)

def exposureCount (results : List FileExposures) : Nat := results.foldr (fun r n => r.exposures.length + n) 0

def exposureLines (showValues : Bool) (results : List FileExposures) : List Text :=
  results.flatMap (fileLines showValues (1 < results.length))

def runCheckSecrets (envs : List Text) (showValues failOnFindings : Bool) : Session Status := do
  heading "🔍 EnvGuard - Secret Scanner"
  orComplain (do scanPaths [] (← scannedPaths envs)) fun results => do
    let total := exposureCount results
    if total = 0 then
      success "No exposed secrets detected".toList
      return done
    else
      warning ("Found ".toList ++ decimal total ++ " potential secret(s):\n".toList)
      echoAll (exposureLines showValues results)
      say "\n  Tip: Add these to .gitignore and use a secrets manager"
      return if failOnFindings then failed else done

end EnvAudit

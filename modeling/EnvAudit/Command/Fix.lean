import EnvAudit.Command.SettingsInForce
import EnvAudit.EnvFile.Files
/-!
# Fixing an env file

Applies the formatting rules to an env file, or shows what they would do.  The backup is named by the path as it was
given.
-/
namespace EnvAudit

open Session

def glyphs (t : Text) : List Glyph := t.map .char

def echoFix (f : EnvAudit.Fix Glyph) : Session Unit := do
  echo ("  Line ".toList ++ decimalInt f.line ++ [':'])
  echoGlyphs (glyphs "  - ".toList ++ f.before)
  echoGlyphs (glyphs "  + ".toList ++ f.fixed)
  echo ("    → ".toList ++ f.rule.reason ++ ['\n'])

def echoFixes : List (EnvAudit.Fix Glyph) → Session Unit
  | [] => pure ()
  | f :: fs => do
    echoFix f
    echoFixes fs

def fixedPath (env : Option Text) : Session Text :=
  match env with
  | some t => pure t
  | none => do settingPath (← loadSettings).defaultEnvFile

def runFix (env : Option Text) (dryRun : Bool) : Session Status := do
  heading "🔧 EnvGuard - Auto Fix"
  orComplain (do
    let path ← fixedPath env
    return (path, ← fixFile path dryRun)) fun (path, fixes) => do
    if fixes.isEmpty then
      success "No issues found to auto-fix".toList
    else
      let verb := if dryRun then "Would apply " else "Applied "
      warning (verb.toList ++ decimal fixes.length ++ " automatic fix(es):\n".toList)
      echoFixes fixes
      if !dryRun then echo ("  Backup saved to ".toList ++ path ++ backupSuffix)
    return done

end EnvAudit

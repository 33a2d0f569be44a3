import EnvAudit.Command.SettingsInForce
import EnvAudit.History.GitLog
import EnvAudit.Signature.Bundled
/-!
# Scanning the history

Shows the secrets that the last commits of a repository added.  What git cannot tell counts as no secrets.
-/
namespace EnvAudit

open Session

def historyLines (f : HistoryFinding) : List Text := [
  "  Commit: ".toList ++ f.commit, "  File: ".toList ++ f.file, "  Type: ".toList ++ f.signature.plain,
  "  ".toList ++ f.excerpt ++ ['\n']]

def runScanHistory (repo : Text) (depth : Option Int) : Session Status :=
  orComplain loadSettings fun s => do
    let depth := (depth.map Value.int).getD s.historyDepth
    heading "🔎 EnvGuard - Git History Scanner"
    echo ("Scanning last ".toList ++ (← plainText depth) ++ " commits...\n".toList)
    let found ← scanRepository bundledTable s.maxHistoryBytes repo depth
    if found.isEmpty then
      success "No secrets found in git history".toList
    else
      warning ("Found ".toList ++ decimal found.length ++ " potential secret(s) in history:\n".toList)
      echoAll (found.flatMap historyLines)
      say "  ⚠️  These secrets may be compromised. Rotate them immediately!"
    return done

end EnvAudit

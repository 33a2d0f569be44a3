import EnvAudit.Text.Basic
/-!
# The hook script

The script that git runs before a commit.  A script belongs to this tool when the marker occurs in it.
-/
namespace EnvAudit

def hookMarker : Text := "EnvGuard".toList

def hookScript : Text := "#!/bin/sh
#
# EnvGuard Pre-Commit Hook
# Prevents committing secrets in .env files
#
# To skip this hook (use with caution):
#   git commit --no-verify
#
# To uninstall:
#   envguard hooks uninstall
#

if ! command -v envguard > /dev/null 2>&1; then
    echo \"⚠️  EnvGuard not found. Skipping secret scan.\"
    exit 0
fi

envguard hooks protect
EXIT_CODE=$?

if [ $EXIT_CODE -ne 0 ]; then
    echo \"\"
    echo \"❌ Commit blocked: secrets detected in staged env files!\"
    echo \"   Unstage the file, or skip with: git commit --no-verify (not recommended)\"
    echo \"\"
    exit 1
fi

exit 0
".toList

def isOwnHook (script : Text) : Bool := occursIn hookMarker script

end EnvAudit

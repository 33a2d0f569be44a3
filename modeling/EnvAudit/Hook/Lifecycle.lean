import EnvAudit.Hook.Prompt
import EnvAudit.Hook.Script
/-!
# The life of a hook

Installing, inspecting and removing the hook of a repository.  A hook of another origin is replaced only by force
and removed only with consent.
-/
namespace EnvAudit

open Session

def gitDirectoryName : Text := ".git".toList

def hooksName : Text := "hooks".toList

def hookName : Text := "pre-commit".toList

/-- Goes on with the git directory of a repository, which has to be there. -/
def withGitDirectory (path : Text) (next : Path → Session Status) : Session Status := do
  let repo ← resolve (.ofText path)
  let directory := repo.child gitDirectoryName
  if ← exists? directory then next directory
  else
    echo ("❌ Error: ".toList ++ repo.text ++ " is not a git repository".toList)
    return failed

def hookOf (directory : Path) : Path := (directory.child hooksName).child hookName

def hookText (hook : Path) : Session Text := do
  match decodeStrict (← readFile hook) with
  | none => fail .undecodable
  | some t => return unifyNewlines t

def installHook (path : Text) (force : Bool) : Session Status :=
  withGitDirectory path fun directory => do
    makeDirectory (directory.child hooksName)
    let hook := hookOf directory
    if (← exists? hook) && !force then
      echo ("⚠️  Pre-commit hook already exists at ".toList ++ hook.text)
      say "   Use --force to overwrite"
      return failed
    else
      writeFile hook (encode hookScript)
      makeExecutable hook
      say "✅ Pre-commit hook installed successfully!"
      echo ("   Location: ".toList ++ hook.text)
      return done

def removeHook (hook : Path) : Session Status := do
  removeFile hook
  say "✅ Pre-commit hook uninstalled successfully!"
  return done

def uninstallHook (path : Text) : Session Status :=
  withGitDirectory path fun directory => do
    let hook := hookOf directory
    if !(← exists? hook) then
      say "ℹ️  No pre-commit hook found. Nothing to uninstall."
      return done
    else if isOwnHook (← hookText hook) then removeHook hook
    else
      say "⚠️  The existing pre-commit hook is not an EnvGuard hook."
      match ← ask "   Do you still want to remove it?" with
      | some true => removeHook hook
      | some false =>
        say "   Aborted."
        return done
      | none =>
        echoError "Aborted!".toList
        return failed

/-- A hook of this tool that is not executable is made so. -/
def hookStatus (path : Text) : Session Status :=
  withGitDirectory path fun directory => do
    let hook := hookOf directory
    if !(← exists? hook) then
      say "❌ Pre-commit hook: NOT INSTALLED"
      say "   Run 'envguard hooks install' to enable secret scanning"
    else if !isOwnHook (← hookText hook) then
      say "⚠️  Pre-commit hook: INSTALLED (Custom/Other)"
    else
      say "✅ Pre-commit hook: INSTALLED (EnvGuard)"
      if !(← isExecutable hook) then
        say "⚠️  Hook is NOT executable - fixing..."
        makeExecutable hook
    return done

end EnvAudit

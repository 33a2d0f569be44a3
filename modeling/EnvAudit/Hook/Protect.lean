import EnvAudit.Command.Output
import EnvAudit.Document.Value
import EnvAudit.EnvFile.Files
import EnvAudit.Signature.Bundled
/-!
# The commit gate

Blocks a commit that would take a secret in: every staged env file is scanned as it is in the working tree.  When git
cannot tell what is staged, nothing is blocked; a staged file that is not there any more is passed over.
-/
namespace EnvAudit

open Session

/-! ## Staged files -/

def stagedArguments : List Text := [
  "git".toList, "diff".toList, "--cached".toList, "--name-only".toList, "--diff-filter=ACMR".toList]

def signalNames : List (Nat × String) := [
  (1, "SIGHUP"), (2, "SIGINT"), (3, "SIGQUIT"), (4, "SIGILL"), (5, "SIGTRAP"), (6, "SIGABRT"), (7, "SIGBUS"),
  (8, "SIGFPE"), (9, "SIGKILL"), (10, "SIGUSR1"), (11, "SIGSEGV"), (12, "SIGUSR2"), (13, "SIGPIPE"), (14, "SIGALRM"),
  (15, "SIGTERM"), (16, "SIGSTKFLT"), (17, "SIGCHLD"), (18, "SIGCONT"), (19, "SIGSTOP"), (20, "SIGTSTP"),
  (21, "SIGTTIN"), (22, "SIGTTOU"), (23, "SIGURG"), (24, "SIGXCPU"), (25, "SIGXFSZ"), (26, "SIGVTALRM"),
  (27, "SIGPROF"), (28, "SIGWINCH"), (29, "SIGIO"), (30, "SIGPWR"), (31, "SIGSYS"), (34, "SIGRTMIN"),
  (64, "SIGRTMAX")]

/-- How a program ended that did not succeed; a negative status is the signal that killed it. -/
def endText (status : Int) : Text :=
  if 0 ≤ status then "returned non-zero exit status ".toList ++ decimalInt status ++ ['.']
  else
    let number := status.natAbs
    match signalNames.find? fun s => s.1 = number with
    | some s => "died with <Signals.".toList ++ s.2.toList ++ ": ".toList ++ decimal number ++ ">.".toList
    | none => "died with unknown signal ".toList ++ decimal number ++ ['.']

def endedText (arguments : List Text) (status : Int) : Text :=
  "Command '".toList ++ (Value.list (arguments.map .text)).shown ++ "' ".toList ++ endText status

/-- The lines that are not blank, without the white space around them. -/
def stagedLines (output : Text) : List Text := ((lines output).map trim).filter fun t => !t.isEmpty

/-- What git has printed, as a text with its lines ended in one way.  What it has said aside has to be a text too. -/
def printedText? (output errors : Bytes) : Option Text :=
  match decodeStrict output, decodeStrict errors with
  | some t, some _ => some (unifyNewlines t)
  | _, _ => none

/-- The staged paths, or why they are not known.  What git has printed is read before it is known how git has ended. -/
def stagedPaths (repo : Path) : Session (Except Text (List Text)) := do
  match ← startGit ⟨stagedArguments, repo.text⟩ with
  | .notStarted f => return .error (startFault repo.text f)
  | .ran output errors status =>
    match printedText? output errors with
    | none => fail .undecodable
    | some t =>
      if status = 0 then return .ok (stagedLines t) else return .error (endedText stagedArguments status)

/-! ## The gate -/

/-- The findings of a staged file; one that is not there has none. -/
def stagedFindings (repo : Path) (path : Text) : Session (List Finding) := do
  let p := repo.join (.ofText path)
  match ← attempt (detectInFile bundledTable p.text p) with
  | .ok found => return found
  | .error _ => return []

def stagedLine (path : Text) (f : Finding) : Text :=
  "🚨 ".toList ++ path ++ ':' :: decimalInt f.line ++ ' ' :: f.key ++ " - ".toList ++ f.reason

/-- Shows all findings of the paths, and tells whether there were any. -/
def showStaged (repo : Path) : List Text → Session Bool
  | [] => pure false
  | path :: paths => do
    let found ← stagedFindings repo path
    echoAll (found.map (stagedLine path))
    let more ← showStaged repo paths
    return !found.isEmpty || more

def protect (path : Text) (verbose : Bool) : Session Status := do
  let repo ← resolve (.ofText path)
  match ← stagedPaths repo with
  | .error reason =>
    warning ("Error getting staged files: ".toList ++ reason)
    return done
  | .ok paths =>
    let candidates := paths.filter isEnvPath
    if candidates.isEmpty then
      if verbose then say "ℹ️  No staged env files to scan."
      return done
    else if ← showStaged repo candidates then return failed
    else
      if verbose then say "✅ No secrets found in staged env files."
      return done

end EnvAudit

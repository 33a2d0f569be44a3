import EnvAudit.History.Scan
import EnvAudit.Document.Value
import EnvAudit.World.Session
/-!
# The log of a repository

The history is what `git log -p` prints, up to a limit of bytes: of a longer log the first bytes are scanned and git
is stopped.  A git that cannot be started, or that fails before the limit, has no history; a scan then finds nothing
and says so.
-/
namespace EnvAudit

open Session

def historyLog : String := "envguard.core.history"

def defaultDepth : Value := .int 100

def defaultLimit : Value := .int (20 * 1024 * 1024)

/-- Every option that a user's own settings could change is fixed. -/
def logArguments (depth : Text) : List Text := [
  "git".toList, "log".toList, "-p".toList, "--no-color".toList, "--no-ext-diff".toList, "--src-prefix=a/".toList,
  "--dst-prefix=b/".toList, "--pretty=medium".toList, "-n".toList, depth]

/-! ## Limits -/

/-- A limit of bytes: a count, or none. -/
inductive Limit where
  | atMost (n : Nat)
  | unlimited
  deriving DecidableEq, Repr

/-- Minus one and null set no limit; any other negative count, and what is no count, cannot be read up to.  Nor can a
count of bytes that the memory does not have, since there is a block for all of them before the first is read. -/
def limitOf (memory : Nat) (v : Value) : Except Failure Limit :=
  let count (n : Int) : Except Failure Limit :=
    if n = -1 then .ok .unlimited
    else if n < -(Nat.pow 2 63 : Nat) then .error .tooLarge
    else if n < 0 then .error .badValue
    else if (blockBound : Int) ≤ n then .error .tooLarge
    else if (memory : Int) ≤ n then .error .outOfMemory
    else .ok (.atMost n.toNat)
  match v with
  | .scalar (.int n) => count n
  | .scalar (.bool b) => .ok (.atMost (if b then 1 else 0))
  | .scalar .null => .ok .unlimited
  | _ => .error .wrongType

/-- The first bytes, and whether there are more. -/
def Limit.cut (l : Limit) (output : Bytes) : Bytes × Bool :=
  match l with
  | .atMost n => (output.take n, n < output.length)
  | .unlimited => (output, false)

def Limit.text : Limit → Text
  | .atMost n => decimal n
  | .unlimited => []

/-! ## Reading and scanning -/

def readLog (limit : Value) (repo : Text) (depth : Value) : Session Text := do
  match ← startGit ⟨logArguments (← plainText depth), repo⟩ with
  | .notStarted f => problem (.gitNotStarted repo (startFault repo f))
  | .ran output _ status =>
    let l ← orFail (limitOf (← get).host.memory limit)
    let (read, truncated) := l.cut output
    if truncated then
      record historyLog .warning
        ("git log output exceeded ".toList ++ l.text ++ " bytes, scanning truncated history".toList)
      emit .gitKilled
    else if status ≠ 0 then problem (.gitFailed repo status)
    return decodeLossy read

/-- A depth as a count; a depth that is none goes unrecorded. -/
def recordScan (repo : Text) (depth : Value) (findings : Nat) : Session Unit :=
  match integerDepth? depth with
  | none => pure ()
  | some n => record historyLog .info ("Scanned ".toList ++ decimalInt n ++ " commits in ".toList ++ repo ++
      ", ".toList ++ decimal findings ++ " findings".toList)
where
  integerDepth? : Value → Option Int
    | .scalar (.int n) => some n
    | .scalar (.bool b) => some (if b then 1 else 0)
    | .scalar (.num x) => truncate? x
    | _ => none

def scanRepository (table : List Signature) (limit : Value) (repo : Text) (depth : Value) :
    Session (List HistoryFinding) := do
  match ← attempt (readLog limit repo depth) with
  | .error p =>
    record historyLog .warning ("History scan skipped: ".toList ++ p.message)
    return []
  | .ok log =>
    let found := scanHistory table log
    recordScan repo depth found.length
    return found

end EnvAudit

import EnvAudit.World.FileTree
import EnvAudit.World.Host
import EnvAudit.Log.Logger
import EnvAudit.Settings.Basic
/-!
# Sessions

What a command does to its surroundings.  A `World` is all that a command can see or change: the files, the
environment, the settings, the logger, the lines it is given, what git would do and what the machine allows.  What it
shows, records and starts is a list of events, in order.  An action runs in a world and ends with a value or is halted;
either way the world it leaves is known.
-/
namespace EnvAudit

/-- One attempt to start git. -/
structure GitCall where
  arguments : List Text
  cwd : Text
  deriving DecidableEq, Repr

/-- What starting git leads to: nothing, or an exit status and what it has printed and said aside. -/
inductive GitOutcome where
  | notStarted (f : Failure)
  | ran (output errors : Bytes) (status : Int)
  deriving DecidableEq, Repr

inductive Event where
  | out (t : Text)
  | err (t : Text)
  | record (r : Record)
  | git (call : GitCall)
  | gitKilled
  /-- A line was asked for and none was left. -/
  | inputEnded
  deriving DecidableEq, Repr

structure World where
  tree : FileTree
  cwd : Place
  home : Place
  environment : List (Text × Text)
  settings : SettingsStore
  logger : Logger
  git : GitOutcome
  /-- The lines that are still to be read. -/
  input : List Text
  /-- Latest first. -/
  events : List Event
  host : Host := .usual

abbrev Session (α : Type) := ExceptT Halt (StateM World) α

namespace Session

def fail {α : Type} (f : Failure) : Session α := throw (.failure f)

def problem {α : Type} (p : Problem) : Session α := throw (.problem p)

/-- Fails if there is anything to fail with. -/
def failIf : Option Failure → Session Unit
  | some f => fail f
  | none => pure ()

def orFail {α : Type} : Except Failure α → Session α
  | .ok a => pure a
  | .error f => fail f

def orHalt {α : Type} : Except Halt α → Session α
  | .ok a => pure a
  | .error h => throw h

/-- The value of an action, or the problem it meets.  A failure is passed on. -/
def attempt {α : Type} (s : Session α) : Session (Except Problem α) :=
  tryCatch (do return .ok (← s)) fun h => match h with
    | .problem p => return .error p
    | .failure f => fail f

def emit (e : Event) : Session Unit := modify fun w => { w with events := e :: w.events }

/-- The text of a value. -/
def plainText (v : Value) : Session Text := do orFail (v.plainWithin (← get).host.shownLevels)

/-! ## Files -/

def isFile (p : Path) : Session Bool := do
  let w ← get
  orFail (w.tree.isFile w.cwd p)

def exists? (p : Path) : Session Bool := do
  let w ← get
  orFail (w.tree.exists? w.cwd p)

def isThere (written : Text) : Session Bool := do
  let w ← get
  orFail (w.tree.isThere w.cwd written)

def isExecutable (p : Path) : Session Bool := do
  let w ← get
  return w.tree.isExecutable w.cwd p

/-- The content of a file, or why it cannot be had. -/
def tryReadFile (p : Path) : Session (Except Failure Bytes) := do
  let w ← get
  return w.tree.readFile w.cwd p

def readFile (p : Path) : Session Bytes := do orFail (← tryReadFile p)

def changeTree (change : FileTree → Place → Except Failure FileTree) : Session Unit := do
  let w ← get
  let tree ← orFail (change w.tree w.cwd)
  set { w with tree := tree }

def writeFile (p : Path) (content : Bytes) : Session Unit :=
  changeTree fun t cwd => t.writeFile cwd p content

def removeFile (p : Path) : Session Unit := changeTree fun t cwd => t.removeFile cwd p

def makeExecutable (p : Path) : Session Unit := changeTree fun t cwd => t.makeExecutable cwd p

def makeDirectory (p : Path) : Session Unit := changeTree fun t cwd => t.makeDirectory cwd p

def makeDirectories (p : Path) : Session Unit := changeTree fun t cwd => t.makeDirectories cwd p

/-- An absolute path without parent steps. -/
def resolve (p : Path) : Session Path := do
  let w ← get
  if p.text.contains '\x00' then fail .badValue
  else return .ofPlace (p.resolveFrom w.cwd)

/-! ## Records -/

def configureLogger (name : Option Text) : Session Unit := do
  let w ← get
  let (failure, logger) := w.logger.configure name
  set { w with logger := logger }
  failIf failure

def record (logger : String) (level : Level) (message : Text) : Session Unit :=
  emit (.record ⟨logger.toList, level, message⟩)

/-! ## Git -/

def startGit (call : GitCall) : Session GitOutcome := do
  emit (.git call)
  return (← get).git

/-- How the system words that a program could not be started. -/
def startFault (cwd : Text) : Failure → Text
  | .missing => "[Errno 2] No such file or directory: 'git'".toList
  | .notPermitted => "[Errno 13] Permission denied: 'git'".toList
  | .notDirectory => "[Errno 20] Not a directory: ".toList ++ quoted cwd
  | f => f.label

end Session

/-! ## What a session leaves -/

namespace World

def records (w : World) : List Record :=
  w.events.reverse.filterMap fun e => match e with
    | .record r => some r
    | _ => none

def gitCalls (w : World) : List GitCall :=
  w.events.reverse.filterMap fun e => match e with
    | .git c => some c
    | _ => none

def gitWasKilled (w : World) : Bool := w.events.contains .gitKilled

def ranOutOfInput (w : World) : Bool := w.events.contains .inputEnded

/-- What has been shown. -/
def outText (w : World) : Text :=
  w.events.reverse.flatMap fun e => match e with
    | .out t => t
    | _ => []

/-- What has been said aside: errors, and the records that the logger lets through, each with the time it is given. -/
def errText (w : World) (time : Text) : Text :=
  w.events.reverse.flatMap fun e => match e with
    | .err t => t
    | .record r => if r.isAtLeast w.logger.threshold then r.line time ++ ['\n'] else []
    | _ => []

end World

end EnvAudit

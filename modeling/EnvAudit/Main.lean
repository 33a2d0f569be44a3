import EnvAudit.Command.Line
import Std.Time
/-!
# The program

The outer layer.  A command is shown the part of the file system that its words and the settings can lead to; it is run
on that, and what it did is then done to the files themselves.  Because a run changes nothing outside, a command that
asks for a line is simply run again once the line is there.

No other program is started from here, so to every command git is a program that cannot be started.
-/
namespace EnvAudit.Program

/-! ## Files -/

def fileName (place : Place) : String := String.ofList (Path.ofPlace place).text

def placeOf (name : String) : Place := (Path.ofText name.toList).names

/-- What stands at a place is put into the tree.  A file that is there counts as executable, since its mode cannot be
asked for. -/
def loadPlace (tree : FileTree) (place : Place) : IO FileTree := do
  let path := (← IO.currentDir) / fileName place
  if ← path.isDir then return tree.put place .directory
  else if ← path.pathExists then
    let content ← IO.FS.readBinFile path
    return tree.put place (.file content.toList true)
  else return tree

/-- The places that a path leads through. -/
def placesAlong (cwd : Place) (p : Path) : List Place :=
  let start := if p.isAbsolute then [] else cwd
  (List.range (p.names.length + 1)).map fun n => Path.stepsFrom start (p.names.take n)

def loadPath (cwd : Place) (tree : FileTree) (p : Path) : IO FileTree :=
  (placesAlong cwd p).foldlM loadPlace tree

def above (place : Place) : List Place := (List.range (place.length + 1)).map place.take

/-- The files and directories that belong to what a text may name. -/
def relatedPaths (t : Text) : List Path :=
  let p := Path.ofText t
  [p, backupOf p, hookOf (p.child gitDirectoryName)]

/-- The texts that a word may hold: itself, and what may be the value of an option in it. -/
def textsIn (word : Text) : List Text :=
  [word, word.drop 2] ++ ((cutOn ['='] word).map (·.2)).toList

def loadTexts (cwd : Place) (tree : FileTree) (ts : List Text) : IO FileTree :=
  (ts.flatMap relatedPaths).foldlM (loadPath cwd) tree

/-! ## The environment -/

def suffixes : Text → List Text
  | [] => [[]]
  | c :: cs => (c :: cs) :: suffixes cs

/-- The variables that the settings look at: those of the fields, and those that the project's file refers to. -/
def variableNames (projectFile : Text) : List Text :=
  Field.all.map variableName ++ (suffixes projectFile).filterMap fun t => (referenceAt? t).map (·.1)

def readVariables (names : List Text) : IO (List (Text × Text)) :=
  names.filterMapM fun name => do
    return (← IO.getEnv (String.ofList name)).map fun value => (name, value.toList)

def projectText (w : World) : Text :=
  match w.tree.readFile w.cwd w.settings.projectFile with
  | .ok content => decodeLossy content
  | .error _ => []

/-- The texts among the settings in force. -/
def settingTexts (w : World) : List Text :=
  match ((loadSettings.run w : Id (Except Halt Settings × World))).1 with
  | .ok s => (s.entries.map (·.2)).filterMap Value.text?
  | .error _ => []

def openWorld (words : List Text) : IO World := do
  let cwd := placeOf (← IO.currentDir).toString
  let home := placeOf ((← IO.getEnv "HOME").getD "/")
  let store := SettingsStore.usual (.ofPlace home) (.ofPlace cwd)
  let tree ← (above cwd ++ above home).foldlM loadPlace ⟨[]⟩
  let tree ← [store.userFile, store.projectFile].foldlM (loadPath cwd) tree
  let tree ← loadTexts cwd tree (['.'] :: commonEnvNames ++ words.flatMap textsIn)
  let world : World := {
    tree := tree, cwd := cwd, home := home, environment := [], settings := store, logger := .fresh
    git := .notStarted .missing, input := [], events := [] }
  let world := { world with environment := ← readVariables (variableNames (projectText world)) }
  return { world with tree := ← loadTexts cwd tree (settingTexts world) }

/-! ## What a run leaves -/

def executableRights : IO.FileRight :=
  let readable : IO.AccessRight := { read := true, execution := true }
  { user := { readable with write := true }, group := readable, other := readable }

def storeEntry (before : FileTree) (place : Place) (e : Entry) : IO Unit := do
  if before.entry? place = some e then return
  match e with
  | .directory => IO.FS.createDirAll (fileName place)
  | .file content executable =>
    IO.FS.writeBinFile (fileName place) ⟨content.toArray⟩
    if executable then IO.setAccessRights (fileName place) executableRights

def storeTree (before after : FileTree) : IO Unit := do
  for (place, e) in after.entries do
    storeEntry before place e
  for (place, _) in before.entries do
    if (after.entry? place).isNone then IO.FS.removeFile (fileName place)

def timeNow : IO Text := do
  return ((← Std.Time.PlainDateTime.now).format "uuuu-MM-dd HH:mm:ss").toList

def write (stream : IO.FS.Stream) (t : Text) : IO Unit := do
  stream.putStr (String.ofList t)
  stream.flush

/-- Runs a command on the lines read so far.  `shown` counts what the screen has of its output. -/
partial def converse (world : World) (words lines : List Text) (shown : Nat) : IO UInt32 := do
  let (result, after) := ((runLine words).run { world with input := lines } : Id (Except Halt Status × World))
  write (← IO.getStdout) (after.outText.drop shown)
  if after.ranOutOfInput then
    let line ← (← IO.getStdin).getLine
    if !line.isEmpty then
      let read := line.toList.filter (· ≠ '\n')
      return ← converse world words (lines ++ [read]) (after.outText.length + read.length + 1)
  write (← IO.getStderr) (after.errText (← timeNow))
  storeTree world.tree after.tree
  match result with
  | .ok status => return UInt32.ofNat status
  | .error (.failure f) =>
    write (← IO.getStderr) (f.label ++ ['\n'])
    return 1
  | .error (.problem p) =>
    write (← IO.getStderr) (p.message ++ ['\n'])
    return 1

end EnvAudit.Program

def main (words : List String) : IO UInt32 := do
  let words := words.map String.toList
  EnvAudit.Program.converse (← EnvAudit.Program.openWorld words) words [] 0

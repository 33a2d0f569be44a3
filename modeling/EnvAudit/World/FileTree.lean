import EnvAudit.World.Path
import EnvAudit.Failure
/-!
# File trees

A file tree maps places, which are lists of names from the root, to directories and files.  A path is walked name by
name: every name but the last must lead to a directory, and a parent step goes to the directory above, whatever it is
called.  There are no links.
-/
namespace EnvAudit

abbrev Place := List Text

inductive Entry where
  | directory
  | file (content : Bytes) (executable : Bool)
  deriving DecidableEq, Repr

structure FileTree where
  entries : List (Place × Entry)
  deriving DecidableEq, Repr

namespace FileTree

/-- The root is a directory, listed or not. -/
def entry? (t : FileTree) (place : Place) : Option Entry :=
  match (t.entries.find? fun e => e.1 = place).map (·.2) with
  | some e => some e
  | none => if place.isEmpty then some .directory else none

/-- A listed place keeps its position. -/
def putIn (place : Place) (e : Entry) : List (Place × Entry) → List (Place × Entry)
  | [] => [(place, e)]
  | x :: xs => if x.1 = place then (place, e) :: xs else x :: putIn place e xs

def put (t : FileTree) (place : Place) (e : Entry) : FileTree := ⟨putIn place e t.entries⟩

def erase (t : FileTree) (place : Place) : FileTree := ⟨t.entries.filter fun e => e.1 ≠ place⟩

/-! ## Walking -/

def maxNameBytes : Nat := 255

def maxPathBytes : Nat := 4095

/-- Where the names lead from a directory, and what is there. -/
def walk (t : FileTree) (place : Place) : List Text → Except Failure (Place × Option Entry)
  | [] => .ok (place, t.entry? place)
  | n :: ns =>
    if maxNameBytes < (encode n).length then .error .nameTooLong
    else
      let next := if n = Path.parentName then place.dropLast else place ++ [n]
      match t.entry? next with
      | some .directory => walk t next ns
      | some (.file content executable) =>
        if ns.isEmpty then .ok (next, some (.file content executable)) else .error .notDirectory
      | none => if ns.isEmpty then .ok (next, none) else .error .missing

def locate (t : FileTree) (cwd : Place) (p : Path) : Except Failure (Place × Option Entry) :=
  let written := p.text
  if written.contains '\x00' then .error .badValue
  else if maxPathBytes < (encode written).length then .error .nameTooLong
  else t.walk (if p.isAbsolute then [] else cwd) p.names

/-- What a path leads to.  A path that cannot lead anywhere leads to nothing; one that is too long is refused. -/
def lookUp (t : FileTree) (cwd : Place) (p : Path) : Except Failure (Option Entry) :=
  match t.locate cwd p with
  | .ok (_, e) => .ok e
  | .error .nameTooLong => .error .nameTooLong
  | .error _ => .ok none

def isFile (t : FileTree) (cwd : Place) (p : Path) : Except Failure Bool :=
  (t.lookUp cwd p).map fun e => match e with
    | some (.file _ _) => true
    | _ => false

def exists? (t : FileTree) (cwd : Place) (p : Path) : Except Failure Bool := (t.lookUp cwd p).map (·.isSome)

/-- Whether the system finds anything under a path as it is written: an empty path leads nowhere, and behind a
slash only a directory can stand. -/
def isThere (t : FileTree) (cwd : Place) (written : Text) : Except Failure Bool :=
  match t.locate cwd (.ofText written) with
  | .error .badValue => .error .badValue
  | .error _ => .ok false
  | .ok (_, none) => .ok false
  | .ok (_, some .directory) => .ok (!written.isEmpty)
  | .ok (_, some (.file _ _)) => .ok (!endsWith ['/'] written && !endsWith ['/', '.'] written)

/-! ## Reading and changing -/

def readFile (t : FileTree) (cwd : Place) (p : Path) : Except Failure Bytes :=
  match t.locate cwd p with
  | .error f => .error f
  | .ok (_, none) => .error .missing
  | .ok (_, some .directory) => .error .isDirectory
  | .ok (_, some (.file content _)) => .ok content

def isExecutable (t : FileTree) (cwd : Place) (p : Path) : Bool :=
  match t.locate cwd p with
  | .ok (_, some (.file _ executable)) => executable
  | .ok (_, some .directory) => true
  | _ => false

/-- A file that is there keeps its mode, and a new one is not executable. -/
def writeFile (t : FileTree) (cwd : Place) (p : Path) (content : Bytes) : Except Failure FileTree :=
  match t.locate cwd p with
  | .error f => .error f
  | .ok (place, none) => .ok (t.put place (.file content false))
  | .ok (_, some .directory) => .error .isDirectory
  | .ok (place, some (.file _ executable)) => .ok (t.put place (.file content executable))

def removeFile (t : FileTree) (cwd : Place) (p : Path) : Except Failure FileTree :=
  match t.locate cwd p with
  | .error f => .error f
  | .ok (_, none) => .error .missing
  | .ok (_, some .directory) => .error .isDirectory
  | .ok (place, some (.file _ _)) => .ok (t.erase place)

def makeExecutable (t : FileTree) (cwd : Place) (p : Path) : Except Failure FileTree :=
  match t.locate cwd p with
  | .error f => .error f
  | .ok (_, none) => .error .missing
  | .ok (_, some .directory) => .ok t
  | .ok (place, some (.file content _)) => .ok (t.put place (.file content true))

/-- A directory that is there already is as good as a new one. -/
def makeDirectory (t : FileTree) (cwd : Place) (p : Path) : Except Failure FileTree :=
  match t.locate cwd p with
  | .error f => .error f
  | .ok (place, none) => .ok (t.put place .directory)
  | .ok (_, some .directory) => .ok t
  | .ok (_, some (.file _ _)) => .error .alreadyThere

/-- The directories down to a place. -/
def makeDirectoriesBelow (place : Place) : List Text → FileTree → Except Failure FileTree
  | [], t => .ok t
  | n :: ns, t =>
    let next := if n = Path.parentName then place.dropLast else place ++ [n]
    match t.entry? next with
    | some .directory => makeDirectoriesBelow next ns t
    | some (.file _ _) => .error (if ns.isEmpty then .alreadyThere else .notDirectory)
    | none => makeDirectoriesBelow next ns (t.put next .directory)

def makeDirectories (t : FileTree) (cwd : Place) (p : Path) : Except Failure FileTree :=
  makeDirectoriesBelow (if p.isAbsolute then [] else cwd) p.names t

end FileTree

end EnvAudit

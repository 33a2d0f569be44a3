import EnvAudit.Text.Utf8
/-!
# Paths

A path is a root, if it has one, and names.  Reading a path drops empty names and single points; a name of two points
stays, because where it leads is known only when the path is walked.
-/
namespace EnvAudit

structure Path where
  /-- One slash, two slashes, or nothing for a path from the current directory. -/
  root : Text
  names : List Text
  deriving DecidableEq, Repr

namespace Path

def parentName : Text := ['.', '.']

def isName (t : Text) : Bool := !t.isEmpty && t ≠ ['.']

/-- Exactly two leading slashes are a root of their own. -/
def rootOf (t : Text) : Text :=
  let slashes := (t.takeWhile (· = '/')).length
  if slashes = 0 then [] else if slashes = 2 then ['/', '/'] else ['/']

def ofText (t : Text) : Path := ⟨rootOf t, (splitOn '/' t).filter isName⟩

def text (p : Path) : Text :=
  if p.root.isEmpty && p.names.isEmpty then ['.'] else p.root ++ joinWith ['/'] p.names

def isAbsolute (p : Path) : Bool := !p.root.isEmpty

/-- A path below another, unless it has a root of its own. -/
def join (p q : Path) : Path := if q.isAbsolute then q else ⟨p.root, p.names ++ q.names⟩

def child (p : Path) (name : Text) : Path := p.join (ofText name)

/-- The last name, if there is one. -/
def name (p : Path) : Text := p.names.getLastD []

def parent (p : Path) : Path := ⟨p.root, p.names.dropLast⟩

/-- The path with another last name. -/
def withName (p : Path) (name : Text) : Path := ⟨p.root, p.names.dropLast ++ [name]⟩

/-- The end of the last name from its last point on, unless the point is its first or its last character. -/
def suffix (p : Path) : Text :=
  let (tail, lead) := (p.name.reverse.takeWhile (· ≠ '.'), p.name.reverse.dropWhile (· ≠ '.'))
  if lead.length ≤ 1 || tail.isEmpty then [] else '.' :: tail.reverse

/-- An absolute path to a place in the file tree. -/
def ofPlace (place : List Text) : Path := ⟨['/'], place⟩

/-- The place a path names when every parent step undoes the step before it. -/
def stepsFrom (place : List Text) : List Text → List Text
  | [] => place
  | n :: ns => stepsFrom (if n = parentName then place.dropLast else place ++ [n]) ns

def resolveFrom (cwd : List Text) (p : Path) : List Text :=
  stepsFrom (if p.isAbsolute then [] else cwd) p.names

end Path

end EnvAudit

import EnvAudit.Document.Value
import EnvAudit.Pattern.Match
/-!
# Signatures

A signature names the form of a well-known credential.  A table of them is ordered: the first whose pattern occurs in
a value is the one reported.
-/
namespace EnvAudit

inductive Severity where
  | critical
  | high
  | medium
  | low
  | info
  deriving DecidableEq, Repr

def Severity.all : List Severity := [.critical, .high, .medium, .low, .info]

def Severity.name : Severity → Text
  | .critical => "critical".toList
  | .high => "high".toList
  | .medium => "medium".toList
  | .low => "low".toList
  | .info => "info".toList

def Severity.named? (t : Text) : Option Severity := Severity.all.find? fun s => s.name = t

/-- A table that comes from a document may name and describe its entries with any value. -/
structure Signature where
  name : Value
  source : Text
  pattern : Pattern
  severity : Severity
  description : Value
  deriving Repr

def Signature.label (s : Signature) : Text := s.name.plain

def Signature.matches (s : Signature) (value : Text) : Bool := s.pattern.occursIn value

def firstMatch (table : List Signature) (value : Text) : Option Signature := table.find? (·.matches value)

end EnvAudit

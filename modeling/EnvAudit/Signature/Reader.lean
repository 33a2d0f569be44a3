import EnvAudit.Signature.Basic
import EnvAudit.Pattern.Reader
import EnvAudit.Yaml.Reader
/-!
# Loading a signature table

A table is a document with a list under `signatures`; every entry has a name and a pattern, and may have a severity
and a description.  The first fault found makes the whole table unusable.  A pattern can also be written in bytes:
such an entry is in the table, but no text can be compared with it.
-/
namespace EnvAudit

/-! ## Causes -/

/-- Causes that loading a table reports; the others end the run. -/
def Cause.spoilsTable : Cause → Bool
  | .failure f => f.isSystem || [Failure.noKey, .wrongType, .badValue, .undecodable].contains f
  | _ => true

/-! ## Entries -/

/-- A pattern as it is written. -/
inductive PatternSource where
  | text (t : Text)
  | bytes (bs : Bytes)
  deriving DecidableEq, Repr

namespace PatternSource

def value : PatternSource → Value
  | .text t => .text t
  | .bytes bs => .scalar (.bytes bs)

def ofValue? : Value → Option PatternSource
  | .scalar (.text t) => some (.text t)
  | .scalar (.bytes bs) => some (.bytes bs)
  | _ => none

def read (host : Host) : PatternSource → Except PatternFault Pattern
  | .text t => readPattern host t
  | .bytes bs => readBytesPattern host bs

end PatternSource

structure TableEntry where
  name : Value
  source : PatternSource
  pattern : Pattern
  severity : Severity
  description : Value
  deriving Repr

/-- The signature that texts are compared with. -/
def TableEntry.signature? (e : TableEntry) : Option Signature :=
  match e.source with
  | .text t => some ⟨e.name, t, e.pattern, e.severity, e.description⟩
  | .bytes _ => none

def severityOf (v : Value) : Except Cause Severity :=
  match v.text?.bind Severity.named? with
  | some s => .ok s
  | none => .error (.failure .badValue)

/-- Builds an entry: the pattern is read before the severity. -/
def makeEntry (host : Host) (name pattern severity description : Value) : Except Cause TableEntry := do
  match PatternSource.ofValue? pattern with
  | some source =>
    match source.read host with
    | .error f => throw f.cause
    | .ok p =>
      let s ← severityOf severity
      return ⟨name, source, p, s, description⟩
  | none => throw (.failure .wrongType)

def required (es : Entries) (key : Text) : Except Cause Value :=
  match Entries.getText? es key with
  | some v => .ok v
  | none => .error (.failure .noKey)

def readEntry (host : Host) : Value → Except Cause TableEntry
  | .map es => do
    let name ← required es "name".toList
    let pattern ← required es "pattern".toList
    makeEntry host name pattern ((Entries.getText? es "severity".toList).getD (.text "high".toList))
      ((Entries.getText? es "description".toList).getD (.text []))
  | _ => .error (.failure .wrongType)

/-! ## Tables -/

/-- What is gone through for entries: the keys of a map and the characters of a text are no entries. -/
def tableItems : Value → Except Cause (List Value)
  | .list vs => .ok vs
  | .map es => .ok (es.map fun e => .scalar e.1)
  | .members ks => .ok (ks.map .scalar)
  | .scalar (.text t) => .ok (t.map fun c => .text [c])
  | .scalar (.bytes bs) => .ok (bs.map fun b => .int b.toNat)
  | .pair a b => .ok [a, b]
  | _ => .error (.failure .wrongType)

/-- A document that says nothing holds no signatures. -/
def readTable (host : Host) (document : Value) : Except Cause (List TableEntry) := do
  if !document.isTruthy then return []
  match document with
  | .map es =>
    match Entries.getText? es "signatures".toList with
    | none => return []
    | some v => (← tableItems v).mapM (readEntry host)
  | _ => throw (.failure .noAttribute)

/-- The table a text holds. -/
def readTableText (host : Host) (t : Text) : Except Cause (List TableEntry) :=
  match Yaml.read host.yamlLevels t with
  | .error f => .error f.cause
  | .ok v => readTable host v

/-- A table file: its bytes, or why they could not be had. -/
def loadTable (host : Host) (path : Text) (content : Except Failure Bytes) : Except Halt (List TableEntry) :=
  let table : Except Cause (List TableEntry) :=
    match content with
    | .error f => .error (.failure f)
    | .ok bs => match decodeStrict bs with
      | none => .error (.failure .undecodable)
      | some t => readTableText host (unifyNewlines t)
  match table with
  | .ok entries => .ok entries
  | .error cause =>
    if cause.spoilsTable then .error (.problem (.tableNotLoaded path cause))
    else match cause with
      | .failure f => .error (.failure f)
      | _ => .error (.problem (.tableNotLoaded path cause))

end EnvAudit

import EnvAudit.Schema.Basic
import EnvAudit.Pattern.Reader
import EnvAudit.Document.Value
import EnvAudit.Json.Reader
import EnvAudit.Yaml.Reader
/-!
# Reading a schema

A document is a schema when every part that it has is of the right kind; what it has beyond that is passed over.  All
parts are looked at, so that a document is reported with every issue it has: the required list before the rules, the
rules in their order, and in a rule whether it is required before its pattern before its description.

`schemaIssues` lists the issues and `schemaOf` builds the schema of a document that has none.
-/
namespace EnvAudit

/-! ## Texts and truth values -/

/-- A text, or bytes that hold one. -/
def readText? : Value → Option Text
  | .scalar (.text t) => some t
  | .scalar (.bytes bs) => decodeStrict bs
  | _ => none

def textIssue (place : List Text) : Value → List Issue
  | .scalar (.text _) => []
  | .scalar (.bytes bs) => if (decodeStrict bs).isSome then [] else [⟨place, "string_unicode".toList⟩]
  | _ => [⟨place, "string_type".toList⟩]

def trueWords : List Text := ["1".toList, "on".toList, "t".toList, "true".toList, "y".toList, "yes".toList]

def falseWords : List Text := ["0".toList, "off".toList, "f".toList, "false".toList, "n".toList, "no".toList]

/-- What a value says as a truth value: nothing at all, nothing that is known, or a truth value. -/
inductive TruthReading where
  | wrongKind
  | unknown
  | known (b : Bool)
  deriving DecidableEq, Repr

def truthOfWord (t : Text) : TruthReading :=
  let low := t.map asciiLower
  if trueWords.contains low then .known true else if falseWords.contains low then .known false else .unknown

def truthOfInt (n : Int) : TruthReading := if n = 0 then .known false else if n = 1 then .known true else .unknown

/-- One more than the greatest integer that is held in 64 bits; a number without room there is no truth value. -/
def wordBound : Int := 9223372036854775808

def readTruth : Value → TruthReading
  | .scalar (.bool b) => .known b
  | .scalar (.int n) => if -wordBound ≤ n && n < wordBound then truthOfInt n else .wrongKind
  | .scalar (.num x) => match wholeValue? x with
    | some n => if -wordBound < n && n < wordBound then truthOfInt n else .wrongKind
    | none => .wrongKind
  | .scalar (.text t) => truthOfWord t
  | .scalar (.bytes bs) => match decodeStrict bs with
    | some t => truthOfWord t
    | none => .unknown
  | _ => .wrongKind

def truthIssue (place : List Text) (v : Value) : List Issue :=
  match readTruth v with
  | .known _ => []
  | .unknown => [⟨place, "bool_parsing".toList⟩]
  | .wrongKind => [⟨place, "bool_type".toList⟩]

/-! ## Rules -/

def patternIssue (host : Host) (place : List Text) (v : Value) : List Issue :=
  match readText? v with
  | none => textIssue place v
  | some t => match readPattern host t with
    | .ok _ => []
    | .error _ => [⟨place, "value_error".toList⟩]

/-- Issues of a part that may be absent. -/
def absentOr (check : Value → List Issue) (v : Option Value) : List Issue := v.elim [] check

/-- Issues of a part that may be absent or null. -/
def nullOr (check : Value → List Issue) (v : Option Value) : List Issue :=
  v.elim [] fun v => if v.isNull then [] else check v

def ruleIssues (host : Host) (place : List Text) : Value → List Issue
  | .map es =>
    absentOr (truthIssue (place ++ ["required".toList])) (Entries.getText? es "required".toList) ++
    nullOr (patternIssue host (place ++ ["pattern".toList])) (Entries.getText? es "pattern".toList) ++
    nullOr (textIssue (place ++ ["description".toList])) (Entries.getText? es "description".toList)
  | _ => [⟨place, "model_type".toList⟩]

def readWrittenPattern? (host : Host) (t : Text) : Option WrittenPattern :=
  (readPattern host t).toOption.map fun p => ⟨t, p⟩

def ruleOf (host : Host) : Value → Rule
  | .map es =>
    ⟨match (Entries.getText? es "required".toList).map readTruth with
      | some (.known b) => b
      | _ => false,
      ((Entries.getText? es "pattern".toList).bind readText?).bind (readWrittenPattern? host),
      (Entries.getText? es "description".toList).bind readText?⟩
  | _ => ⟨false, none, none⟩

/-! ## Schemas -/

/-- How a key is named in the place of an issue. -/
def keyText : Scalar → Text
  | .text t => t
  | .bool b => if b then ['1'] else ['0']
  | s => s.shown

def requiredPlace : List Text := ["required".toList]

def rulesPlace : List Text := ["variables".toList]

def itemIssues (place : List Text) (vs : List Value) : List Issue :=
  ((numbered 0 vs).map fun (i, v) => textIssue (place ++ [decimal i]) v).flatten

def requiredIssues : Value → List Issue
  | .list vs => itemIssues requiredPlace vs
  | .members ks => itemIssues requiredPlace (ks.map .scalar)
  | _ => [⟨requiredPlace, "list_type".toList⟩]

def entryIssues (host : Host) (e : Scalar × Value) : List Issue :=
  let place := rulesPlace ++ [keyText e.1]
  textIssue (place ++ ["[key]".toList]) (.scalar e.1) ++ ruleIssues host place e.2

def rulesIssues (host : Host) : Value → List Issue
  | .map es => (es.map (entryIssues host)).flatten
  | _ => [⟨rulesPlace, "dict_type".toList⟩]

def schemaIssues (host : Host) : Value → List Issue
  | .map es =>
    absentOr requiredIssues (Entries.getText? es "required".toList) ++
    absentOr (rulesIssues host) (Entries.getText? es "variables".toList)
  | _ => [⟨[], "model_type".toList⟩]

def requiredOf : Value → List Text
  | .list vs => vs.filterMap readText?
  | .members ks => ks.filterMap fun k => readText? (.scalar k)
  | _ => []

def rulesOf (host : Host) : Value → List (Text × Rule)
  | .map es => es.filterMap fun e => (readText? (.scalar e.1)).map fun k => (k, ruleOf host e.2)
  | _ => []

def schemaOf (host : Host) : Value → Schema
  | .map es =>
    ⟨(Entries.getText? es "required".toList).elim [] requiredOf,
      (Entries.getText? es "variables".toList).elim [] (rulesOf host)⟩
  | _ => .empty

/-! ## Patterns beyond all bounds

A repetition count that cannot be held and groups that cannot be followed are no issues of the document: the first
pattern that has one ends the reading. -/

def ruleFailure? (host : Host) : Value → Option Failure
  | .map es =>
    match (Entries.getText? es "pattern".toList).bind readText? with
    | some t => match readPattern host t with
      | .error fault => fault.failure?
      | .ok _ => none
    | none => none
  | _ => none

def schemaFailure? (host : Host) : Value → Option Failure
  | .map es => match Entries.getText? es "variables".toList with
    | some (.map rs) => rs.findSome? fun r => ruleFailure? host r.2
    | _ => none
  | _ => none

def readSchema (host : Host) (v : Value) : Except Cause Schema :=
  match schemaFailure? host v with
  | some f => .error (.failure f)
  | none => match schemaIssues host v with
    | [] => .ok (schemaOf host v)
    | is => .error (.issues is)

/-! ## Files -/

/-- The format a schema file is written in, by the end of its name. -/
inductive SchemaFormat where
  | json
  | yaml
  deriving DecidableEq, Repr

def readSchemaDocument (host : Host) (format : SchemaFormat) (t : Text) : Except Cause Value :=
  match format with
  | .json => (readJson host.jsonLevels t).mapError JsonFault.cause
  | .yaml => (Yaml.read host.yamlLevels t).mapError Yaml.Fault.cause

/-- A document that says nothing is a schema that asks nothing. -/
def schemaOfDocument (host : Host) (v : Value) : Except Cause Schema :=
  readSchema host (if v.isTruthy then v else .map [])

def readSchemaText (host : Host) (format : SchemaFormat) (t : Text) : Except Cause Schema := do
  schemaOfDocument host (← readSchemaDocument host format t)

/-- Causes that loading a schema reports; the others end the run. -/
def Cause.spoilsSchema : Cause → Bool
  | .failure f => f.isSystem || f = .undecodable
  | _ => true

/-- A schema file: its bytes, or why they could not be had. -/
def loadSchema (host : Host) (path : Text) (format : SchemaFormat) (content : Except Failure Bytes) :
    Except Halt Schema :=
  let schema : Except Cause Schema :=
    match content with
    | .error f => .error (.failure f)
    | .ok bs => match decodeStrict bs with
      | none => .error (.failure .undecodable)
      | some t => readSchemaText host format (unifyNewlines t)
  match schema with
  | .ok s => .ok s
  | .error (.failure f) =>
    if (Cause.failure f).spoilsSchema then .error (.problem (.schemaNotLoaded path (.failure f)))
    else .error (.failure f)
  | .error cause => .error (.problem (.schemaNotLoaded path cause))

end EnvAudit

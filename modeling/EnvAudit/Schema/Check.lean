import EnvAudit.Schema.Basic
import EnvAudit.EnvFile.Line
/-!
# Checking variables

Empty values are always reported.  A schema adds the keys that it requires and that no variable has, and the keys
whose value a pattern does not occur in; of several variables with one key the first is the one looked at.
-/
namespace EnvAudit

inductive Violation where
  | emptyValue (key : Text) (line : Int)
  | missing (key : Text)
  | mismatch (key : Text)
  /-- The schema could not be loaded; nothing of it was checked. -/
  | schema (message : Text)
  deriving DecidableEq, Repr

def Violation.message : Violation → Text
  | .emptyValue key line => key ++ " is empty (line ".toList ++ decimalInt line ++ [')']
  | .missing key => "Missing required variable: ".toList ++ key
  | .mismatch key => key ++ " does not match expected pattern".toList
  | .schema message => message

def emptyValues (vs : List Variable) : List Violation :=
  (vs.filter fun v => v.value.isEmpty).map fun v => .emptyValue v.key v.line

def isDeclared (vs : List Variable) (key : Text) : Bool := vs.any fun v => v.key = key

def missingKeys (s : Schema) (vs : List Variable) : List Violation :=
  (s.requiredKeys.filter fun k => !isDeclared vs k).map .missing

def firstDeclared? (vs : List Variable) (key : Text) : Option Variable := vs.find? fun v => v.key = key

def mismatches (s : Schema) (vs : List Variable) : List Violation :=
  s.patterns.filterMap fun (key, p) =>
    match firstDeclared? vs key with
    | some v => if p.pattern.occursIn v.value then none else some (.mismatch key)
    | none => none

def violations (schema : Option Schema) (vs : List Variable) : List Violation :=
  match schema with
  | none => emptyValues vs
  | some s => emptyValues vs ++ missingKeys s vs ++ mismatches s vs

/-- The outcome for a file: the variables it declares and what is wrong with them. -/
structure Validation where
  declared : List Variable
  violations : List Violation
  deriving Repr

def Validation.isValid (v : Validation) : Bool := v.violations.isEmpty

def validate (schema : Option Schema) (vs : List Variable) : Validation := ⟨vs, EnvAudit.violations schema vs⟩

end EnvAudit

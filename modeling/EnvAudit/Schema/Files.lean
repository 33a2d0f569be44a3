import EnvAudit.EnvFile.Files
import EnvAudit.Schema.Check
import EnvAudit.Schema.Reader
/-!
# Validating files

A schema file that does not exist leaves only the checks that need no schema.  One that exists and cannot be loaded
is reported as one more violation.
-/
namespace EnvAudit

open Session

def schemaFormat (p : Path) : SchemaFormat := if lowercase p.suffix = ".json".toList then .json else .yaml

def loadSchemaFile (p : Path) : Session Schema := do
  let s ← orHalt (loadSchema (← get).host p.text (schemaFormat p) (← tryReadFile p))
  record "envguard.core.schema" .debug ("Loaded schema ".toList ++ p.text ++ ": ".toList ++
    decimal s.requiredKeys.length ++ " required, ".toList ++ decimal s.rules.length ++ " rules".toList)
  return s

def validatorLog : String := "envguard.core.validator"

def validateAgainst (schema : Option Text) (vs : List Variable) : Session Validation := do
  match schema with
  | none => return validate none vs
  | some given =>
    let p := Path.ofText given
    if !(← exists? p) then
      record validatorLog .info ("Schema ".toList ++ given ++ " not found, running basic checks only".toList)
      return validate none vs
    else
      match ← attempt (loadSchemaFile p) with
      | .ok s => return validate (some s) vs
      | .error problem =>
        record validatorLog .warning problem.message
        return ⟨vs, violations none vs ++ [.schema problem.message]⟩

def validateFile (env : Text) (schema : Option Text) : Session Validation := do
  validateAgainst schema (← readVariables env (.ofText env))

end EnvAudit

import EnvAudit.Command.SettingsInForce
import EnvAudit.Schema.Files
/-!
# Validating an env file

Shows what is wrong with an env file, or how many variables it declares when nothing is.
-/
namespace EnvAudit

open Session

def validationOf (env schema : Option Text) : Session Validation := do
  let s ← loadSettings
  let given ← orSetting env s.defaultEnvFile
  let vs ← readVariables given (.ofText given)
  match schema with
  | some t => validateAgainst (some t) vs
  | none => validateAgainst (← settingPath? s.schemaFile) vs

def violationLine (v : Violation) : Text := "  • ".toList ++ v.message

def runValidate (env schema : Option Text) : Session Status := do
  heading "🛡️  EnvGuard - Validation"
  orComplain (validationOf env schema) fun v => do
    if v.isValid then
      success "Validation passed!".toList
      echo ("\n  Found ".toList ++ decimal v.declared.length ++ " environment variables".toList)
      return done
    else
      say "✗ Validation failed!\n"
      echoAll (v.violations.map violationLine)
      return failed

end EnvAudit

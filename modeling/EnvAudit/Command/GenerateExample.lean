import EnvAudit.Command.SettingsInForce
import EnvAudit.EnvFile.Files
/-!
# Generating an example

Writes an example of an env file.  The two paths are compared by the places they lead to, so no spelling of the
source's path makes the example overwrite it.
-/
namespace EnvAudit

open Session

/-- The target, or nothing if it is the source. -/
def generateExample (env output : Option Text) : Session (Option Path) := do
  let s ← loadSettings
  let source := Path.ofText (← orSetting env s.defaultEnvFile)
  let target := Path.ofText (← orSetting output s.exampleOutput)
  if (← resolve target) = (← resolve source) then return none
  writeExample source target
  return some target

def runGenerateExample (env output : Option Text) : Session Status := do
  heading "📝 EnvGuard - Example Generator"
  orComplain (generateExample env output) fun target => do
    match target with
    | none =>
      complain "output would overwrite the source file".toList
      return failed
    | some p =>
      success ("Generated ".toList ++ p.text)
      return done

end EnvAudit

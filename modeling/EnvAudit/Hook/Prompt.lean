import EnvAudit.Command.Output
import EnvAudit.Text.Basic
import EnvAudit.Text.LetterCase
/-!
# Questions

A question that is answered by yes or no, where an empty line means no.  It is asked again until a line answers it
or no line is left.
-/
namespace EnvAudit

open Session

/-- What a line answers, in any letter case and with white space around it. -/
def answerOf (line : Text) : Option Bool :=
  let t := trim (lowercase line)
  if t = ['y'] || t = "yes".toList then some true
  else if t = ['n'] || t = "no".toList || t.isEmpty then some false
  else none

/-- The line that is read is shown behind the question. -/
def askOf (question : Text) : List Text → Session (Option Bool)
  | [] => do
    emit (.out (question ++ " [y/N]: ".toList))
    emit .inputEnded
    return none
  | line :: rest => do
    emit (.out (question ++ " [y/N]: ".toList))
    emit (.out (line ++ ['\n']))
    modify fun w => { w with input := rest }
    match answerOf line with
    | some b => return some b
    | none =>
      say "Error: invalid input"
      askOf question rest

def ask (question : String) : Session (Option Bool) := do
  askOf question.toList (← get).input

end EnvAudit

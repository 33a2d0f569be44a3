import EnvAudit.EnvFile.Line
import EnvAudit.Text.Utf8
/-!
# Reading an env file

The variables of a text, in order, duplicates included.  A comment waits for the assignment below it: a blank line
gives it up, another comment takes its place, and junk between the two changes nothing.
-/
namespace EnvAudit

/-- `waiting` is the comment above the lines, `n` the number of the first of them. -/
def variablesFrom (n : Nat) (waiting : Option Text) : List Text → List Variable
  | [] => []
  | line :: rest =>
    match classify line with
    | .blank => variablesFrom (n + 1) none rest
    | .comment note => variablesFrom (n + 1) note rest
    | .junk => variablesFrom (n + 1) waiting rest
    | .assignment key value => ⟨key, value, n, waiting⟩ :: variablesFrom (n + 1) none rest

def readEnv (t : Text) : List Variable := variablesFrom 1 none (lines t)

/-- The lines that are neither blank nor a comment nor an assignment. -/
def junkLines (t : Text) : List Nat :=
  ((numbered 1 (lines t)).filter fun l => classify l.2 = .junk).map (·.1)

/-! ## Files

Bytes that are not UTF-8 are read as replacement characters, so they spoil at most the line they stand on. -/

def envTextOf (content : Bytes) : Text := unifyNewlines (decodeLossy content)

def readEnvFile (content : Bytes) : List Variable := readEnv (envTextOf content)

end EnvAudit

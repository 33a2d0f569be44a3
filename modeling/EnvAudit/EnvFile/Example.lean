import EnvAudit.EnvFile.Line
import EnvAudit.Secret.Heuristic
import EnvAudit.Text.Basic
/-!
# Example files

An example file has the keys and comments of an env file and no secret of it: a value that looks like one becomes a
placeholder, an address keeps its scheme, and numbers and truth values stay as they are.
-/
namespace EnvAudit

/-- Digits only; one newline may follow. -/
def isNumeric (t : Text) : Bool :=
  match t with
  | [] => false
  | c :: cs => isDigit c && (match cs.dropWhile isDigit with
    | [] => true
    | rest => rest = ['\n'])

def secretPlaceholder (key : Text) : Text :=
  "your-".toList ++ (lowercase key).map (fun c => if c = '_' then '-' else c) ++ "-here".toList

def schemeMark : Text := "://".toList

def urlPlaceholder (scheme : Text) : Text := scheme ++ "://your-url-here".toList

def placeholder (key value : Text) : Text :=
  if looksLikeSecret key value then secretPlaceholder key
  else if isNumeric value || value = "true".toList || value = "false".toList then value
  else match cutOn schemeMark value with
    | some (scheme, _) => urlPlaceholder scheme
    | none => value

def needsQuotes (t : Text) : Bool := t.any fun c => isBlank c || c = '#'

def exampleValue (key value : Text) : Text :=
  let p := placeholder key value
  if needsQuotes p then '"' :: p ++ ['"'] else p

/-- The lines of one variable: its comment, unless that is empty, and its assignment. -/
def exampleLines (v : Variable) : List Text :=
  (match v.comment with
    | some (c :: cs) => ["# ".toList ++ c :: cs]
    | _ => []) ++ [v.key ++ '=' :: exampleValue v.key v.value]

def exampleHeader (source : Text) : List Text :=
  ["# Example environment file generated by envguard".toList, "# Source: ".toList ++ source, []]

def exampleText (vs : List Variable) (source : Text) : Text :=
  unlines (exampleHeader source ++ vs.flatMap exampleLines) ++ ['\n']

end EnvAudit

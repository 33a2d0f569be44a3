import EnvAudit.Text.Word
/-!
# Lines of an env file

A line is blank, a comment, an assignment, or junk.  What it is shows once the white space around it is gone: a
comment begins with `#`, an assignment is a name, an equals sign with white space around it, and a value.  One pair of
equal quotes around the value is dropped.  What is kept of an assignment is a variable.
-/
namespace EnvAudit

/-- One entry of an env file, with the line it stands on and the comment that stands right above it. -/
structure Variable where
  key : Text
  value : Text
  line : Int
  comment : Option Text
  deriving DecidableEq, Repr

/-! ## Masks

A value is shown as its first four characters and at most twenty stars; a value of four characters or fewer shows
nothing of itself. -/

def mask (value : Text) : Text :=
  if value.length ≤ 4 then "***".toList
  else value.take 4 ++ List.replicate (min (value.length - 4) 20) '*'

def Variable.masked (v : Variable) : Text := mask v.value

/-! ## Lines -/

inductive Line where
  | blank
  /-- The text behind the mark, if there is any. -/
  | comment (note : Option Text)
  | assignment (key value : Text)
  | junk
  deriving DecidableEq, Repr

def isQuote (c : Char) : Bool := c = '"' || c = '\''

def unquote (value : Text) : Text :=
  match value with
  | c :: d :: rest => if isQuote c && (d :: rest).getLast? = some c then (d :: rest).dropLast else value
  | _ => value

/-! ## Assignments -/

def startsName (c : Char) : Bool := isAsciiLetter c || c = '_'

/-- A name and what follows it. -/
def takeName? : Text → Option (Text × Text)
  | [] => none
  | c :: cs => if startsName c then some (c :: cs.takeWhile isAsciiWord, cs.dropWhile isAsciiWord) else none

/-- The key and the written value of an assignment that has no white space around it. -/
def assignment? (t : Text) : Option (Text × Text) := do
  let (key, rest) ← takeName? t
  match trimStart rest with
  | '=' :: value => some (key, trim value)
  | _ => none

def noteOf (t : Text) : Option Text := if (trim t).isEmpty then none else some (trim t)

def classify (line : Text) : Line :=
  match trim line with
  | [] => .blank
  | '#' :: rest => .comment (noteOf rest)
  | c :: cs =>
    match assignment? (c :: cs) with
    | some (key, value) => .assignment key (unquote value)
    | none => .junk

end EnvAudit

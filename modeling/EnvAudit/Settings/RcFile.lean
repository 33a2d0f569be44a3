import EnvAudit.Text.Basic
/-!
# Project settings files

A project's own settings are statements `name = value`, with more freedom than an env file: an `export` in front, a
quoted name, a value in quotes that may go on over several lines and hold escapes, a comment behind it, and references
to variables.  A statement that cannot be read is given up to the end of its line.
-/
namespace EnvAudit

/-! ## Statements -/

inductive RcStatement where
  /-- White space or a comment. -/
  | nothing
  | entry (name : Text) (value : Option Text)
  | unreadable
  deriving DecidableEq, Repr

def isNewline (c : Char) : Bool := c = '\n' || c = '\r'

def isInlineBlank (c : Char) : Bool := isBlank c && !isNewline c

/-- A part of a statement with the text after it, or the text from which nothing can be read. -/
def skipExport (t : Text) : Text :=
  match after? "export".toList t with
  | some (c :: cs) => if isInlineBlank c then cs.dropWhile isInlineBlank else t
  | _ => t

/-- A name; a comment stands where there is none. -/
def readName (t : Text) : Except Text (Option Text × Text) :=
  match t with
  | '#' :: _ => .ok (none, t)
  | '\'' :: rest =>
    let name := rest.takeWhile (· ≠ '\'')
    match rest.dropWhile (· ≠ '\'') with
    | _ :: after => if name.isEmpty then .error t else .ok (some name, after)
    | [] => .error t
  | _ =>
    let isNameChar (c : Char) : Bool := c ≠ '=' && c ≠ '#' && !isBlank c
    let name := t.takeWhile isNameChar
    if name.isEmpty then .error t else .ok (some name, t.dropWhile isNameChar)

/-! ## Quoted values -/

/-- Up to the first quote that no backslash stands before. -/
def takeQuoted? (quote : Char) : Text → Option (Text × Text)
  | [] => none
  | '\\' :: c :: rest =>
    if c = quote then (takeQuoted? quote rest).map fun (t, after) => ('\\' :: c :: t, after)
    else (takeQuoted? quote (c :: rest)).map fun (t, after) => ('\\' :: t, after)
  | c :: rest =>
    if c = quote then some ([], rest) else (takeQuoted? quote rest).map fun (t, after) => (c :: t, after)

/-- Up to the last quote, whatever stands before it. -/
def takeToLast? (quote : Char) : Text → Option (Text × Text)
  | [] => none
  | c :: rest =>
    match takeToLast? quote rest with
    | some (t, after) => some (c :: t, after)
    | none => if c = quote then some ([], rest) else none

/-- A quoted value from behind its opening quote.  Where every quote has a backslash before it, the last one closes. -/
def takeValue? (quote : Char) (t : Text) : Option (Text × Text) :=
  (takeQuoted? quote t).or (takeToLast? quote t)

def rcEscape? (quote c : Char) : Option Char :=
  if c = '\\' || c = '\'' then some c
  else if quote = '\'' then none
  else match c with
    | '"' => some '"'
    | 'a' => some '\x07'
    | 'b' => some '\x08'
    | 'f' => some '\x0c'
    | 'n' => some '\n'
    | 'r' => some '\r'
    | 't' => some '\t'
    | 'v' => some '\x0b'
    | _ => none

def unescape (quote : Char) : Text → Text
  | '\\' :: c :: rest =>
    match rcEscape? quote c with
    | some d => d :: unescape quote rest
    | none => '\\' :: unescape quote (c :: rest)
  | c :: rest => c :: unescape quote rest
  | [] => []

/-! ## Plain values -/

/-- The text before the first white space that a hash sign follows. -/
def cutComment : Text → Text
  | [] => []
  | c :: cs =>
    if isBlank c && (cs.dropWhile isBlank).head? = some '#' then [] else c :: cutComment cs

def readRcValue (t : Text) : Except Text (Text × Text) :=
  match t with
  | [] => .ok ([], [])
  | c :: rest =>
    if c = '\'' || c = '"' then
      match takeValue? c rest with
      | some (value, after) => .ok (unescape c value, after)
      | none => .error t
    else if isNewline c then .ok ([], t)
    else .ok (trimEnd (cutComment (t.takeWhile fun c => !isNewline c)), t.dropWhile fun c => !isNewline c)

/-! ## The walk -/

def skipRcComment (t : Text) : Text :=
  match t.dropWhile isInlineBlank with
  | '#' :: rest => rest.dropWhile fun c => !isNewline c
  | _ => t

/-- Behind the end of the line, where nothing but white space may be left of it. -/
def readLineEnd (t : Text) : Except Text Text :=
  match t.dropWhile isInlineBlank with
  | [] => .ok []
  | c :: rest => if isNewline c then .ok rest else .error t

def skipLine (t : Text) : Text := (t.dropWhile fun c => !isNewline c).drop 1

def readStatement (t : Text) : Except Text (Option (Text × Option Text) × Text) := do
  let (name, rest) ← readName (skipExport t)
  let rest := rest.dropWhile isInlineBlank
  let (value, rest) ← match rest with
    | '=' :: after => (readRcValue (after.dropWhile isInlineBlank)).map fun (v, r) => (some v, r)
    | _ => .ok (none, rest)
  let rest ← readLineEnd (skipRcComment rest)
  return (name.map fun n => (n, value), rest)

def nextStatement (t : Text) : RcStatement × Text :=
  match t.dropWhile isBlank with
  | [] => (.nothing, [])
  | c :: cs =>
    match readStatement (c :: cs) with
    | .ok (some (name, value), rest) => (.entry name value, rest)
    | .ok (none, rest) => (.nothing, rest)
    | .error place => (.unreadable, skipLine place)

/-- Every statement with the number of the line that the reading of it began on. -/
def rcStatementsFrom : Nat → Nat → Text → List (Nat × RcStatement)
  | 0, _, _ => []
  | fuel + 1, line, t =>
    if t.isEmpty then []
    else
      let (s, rest) := nextStatement t
      (line, s) :: rcStatementsFrom fuel (line + ((t.take (t.length - rest.length)).filter (· = '\n')).length) rest

/-- A byte order mark before the first statement is not part of it. -/
def rcStatements (t : Text) : List (Nat × RcStatement) :=
  let t := (after? ['\ufeff'] t).getD t
  rcStatementsFrom (t.length + 1) 1 t

/-! ## References

`$` and a name in braces stand for a variable: one that the file has set already, or else one of the environment.
Behind `:-` the text for an unset variable may be given. -/

/-- A reference at the start of a text: its name, its default and what follows it. -/
def referenceAt? (t : Text) : Option (Text × Text × Text) := do
  let rest ← after? "$\x7b".toList t
  let endsName (c : Char) : Bool := c = '\x7d' || c = ':'
  let name := rest.takeWhile fun c => !endsName c
  match rest.dropWhile fun c => !endsName c with
  | '\x7d' :: after => some (name, [], after)
  | ':' :: '-' :: more =>
    match more.dropWhile (· ≠ '\x7d') with
    | _ :: after => some (name, more.takeWhile (· ≠ '\x7d'), after)
    | [] => none
  | _ => none

def expandFrom (value? : Text → Option Text) : Nat → Text → Text
  | 0, t => t
  | _ + 1, [] => []
  | fuel + 1, c :: cs =>
    match referenceAt? (c :: cs) with
    | some (name, usual, rest) => (value? name).getD usual ++ expandFrom value? fuel rest
    | none => c :: expandFrom value? fuel cs

def expand (value? : Text → Option Text) (t : Text) : Text := expandFrom value? t.length t

abbrev RcEntries := List (Text × Option Text)

def putRc (name : Text) (value : Option Text) : RcEntries → RcEntries
  | [] => [(name, value)]
  | e :: es => if e.1 = name then (name, value) :: es else e :: putRc name value es

/-- What a name stands for: a name that is set without a value hides the environment's and is empty. -/
def rcLookUp (es : RcEntries) (environment : List (Text × Text)) (name : Text) : Option Text :=
  match es.find? fun e => e.1 = name with
  | some (_, value) => some (value.getD [])
  | none => (environment.find? fun v => v.1 = name).map (·.2)

def rcEntriesOf (environment : List (Text × Text)) (statements : List RcStatement) : RcEntries :=
  statements.foldl (fun es s => match s with
    | .entry name value => putRc name (value.map (expand (rcLookUp es environment))) es
    | _ => es) []

def unreadableLines (statements : List (Nat × RcStatement)) : List Nat :=
  (statements.filter fun s => s.2 = .unreadable).map (·.1)

end EnvAudit

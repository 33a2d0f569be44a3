import EnvAudit.Text.Basic
import EnvAudit.Text.Digit
import EnvAudit.Text.Utf8
import EnvAudit.EnvFile.Line
/-!
# Fixing an env file

Four rules, each applied once to every line that assigns something: no white space around the equals sign, no comment
behind an unquoted value, quotes around an unquoted value with spaces, no quotes around a whole number.  Each change
is recorded with the line before and after it.

The rules look at characters through `CharLike.view`, so that a file with undecodable bytes is fixed as any other and
keeps those bytes.
-/
namespace EnvAudit

variable {α : Type} [CharLike α]

/-! ## Looking at units -/

def looksBlank (u : α) : Bool := isBlank (CharLike.view u)

def looksLike (c : Char) (u : α) : Bool := CharLike.view u = c

def isQuoteMark (u : α) : Bool := isQuote (CharLike.view u)

def trimUnits (l : List α) : List α := strip looksBlank l

def trimUnitsStart (l : List α) : List α := stripStart looksBlank l

def equalsMark : α := CharLike.ofChar '='

def quoteMark : α := CharLike.ofChar '"'

/-- A line as the key before its first equals sign and the value behind it. -/
def splitAssignment : List α → Option (List α × List α)
  | [] => none
  | u :: us =>
    if looksLike '=' u then some ([], us) else (splitAssignment us).map fun (k, v) => (u :: k, v)

def startsQuoted (value : List α) : Bool := (trimUnits value).head?.any isQuoteMark

/-! ## Rules -/

inductive FixRule where
  | equalsSpacing
  | inlineComment
  | unquotedSpaces
  | quotedNumber
  deriving DecidableEq, Repr

def FixRule.reason : FixRule → Text
  | .equalsSpacing => "Removed extra spaces around equals sign".toList
  | .inlineComment => "Removed inline comment from value".toList
  | .unquotedSpaces => "Added quotes around value with spaces".toList
  | .quotedNumber => "Removed unnecessary quotes from numeric value".toList

def FixRule.all : List FixRule := [.equalsSpacing, .inlineComment, .unquotedSpaces, .quotedNumber]

/-- Where the text ends, a final newline apart. -/
def endsLine : List α → Option (List α)
  | [] => some []
  | [u] => if looksLike '\n' u then some [u] else some []
  | u :: us => if looksLike '\n' u then none else endsLine us

/-- What is left where a comment begins: white space, a hash sign and the rest of the text, a final newline apart. -/
def afterComment? (t : List α) : Option (List α) :=
  match t with
  | [] => none
  | u :: _ =>
    if looksBlank u then
      match t.dropWhile looksBlank with
      | h :: rest => if looksLike '#' h then endsLine rest else none
      | [] => none
    else none

/-- The value without its comment, if it has one. -/
def dropComment? : List α → Option (List α)
  | [] => none
  | u :: us =>
    match afterComment? (u :: us) with
    | some rest => some rest
    | none => (dropComment? us).map (u :: ·)

/-- A digit other than zero, then digits; one newline may follow. -/
def isWholeNumber (t : List α) : Bool :=
  match t with
  | [] => false
  | u :: us =>
    let c := CharLike.view u
    let rest := us.dropWhile fun u => isDigit (CharLike.view u)
    ('1' ≤ c && c ≤ '9') && (match rest with
      | [] => true
      | [v] => looksLike '\n' v
      | _ => false)

/-- The value a rule gives a line, with the key it then has; nothing where the rule does not apply. -/
def FixRule.amend [DecidableEq α] (r : FixRule) (key value : List α) : Option (List α × List α) :=
  match r with
  | .equalsSpacing =>
    if key ≠ trimUnits key || value ≠ trimUnitsStart value then some (trimUnits key, trimUnitsStart value) else none
  | .inlineComment =>
    if startsQuoted value then none else (dropComment? value).map fun v => (key, v)
  | .unquotedSpaces =>
    let inner := trimUnits value
    if startsQuoted value || !inner.any (looksLike ' ') then none else some (key, quoteMark :: inner ++ [quoteMark])
  | .quotedNumber =>
    match trimUnits value with
    | q :: r :: rest =>
      if isQuoteMark q && (r :: rest).getLast? = some q && isWholeNumber (r :: rest).dropLast then
        some (key, (r :: rest).dropLast)
      else none
    | _ => none

/-! ## Lines and texts -/

structure Fix (α : Type) where
  line : Int
  before : List α
  fixed : List α
  rule : FixRule
  deriving DecidableEq, Repr

def FixRule.apply [DecidableEq α] (r : FixRule) (line : List α) : Option (List α) :=
  match splitAssignment line with
  | none => none
  | some (key, value) =>
    match r.amend key value with
    | none => none
    | some (k, v) => if k ++ equalsMark :: v = line then none else some (k ++ equalsMark :: v)

def applyRules [DecidableEq α] (number : Int) : List FixRule → List α → List α × List (Fix α)
  | [], line => (line, [])
  | r :: rs, line =>
    match r.apply line with
    | none => applyRules number rs line
    | some fixed =>
      let (final, fixes) := applyRules number rs fixed
      (final, ⟨number, line, fixed, r⟩ :: fixes)

/-- Only lines that assign something are looked at. -/
def isFixable (line : List α) : Bool :=
  match trimUnits line with
  | [] => false
  | u :: _ => !looksLike '#' u && line.any (looksLike '=')

def fixLine [DecidableEq α] (number : Int) (line : List α) : List α × List (Fix α) :=
  if isFixable line then applyRules number FixRule.all line else (line, [])

def newlineMark : α := CharLike.ofChar '\n'

def fixText [DecidableEq α] (t : List α) : List α × List (Fix α) :=
  let fixed := (numbered 1 (splitOn newlineMark t)).map fun (n, line) => fixLine (n : Int) line
  (joinWith [newlineMark] (fixed.map (·.1)), (fixed.map (·.2)).flatten)

end EnvAudit

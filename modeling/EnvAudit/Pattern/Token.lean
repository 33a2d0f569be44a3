import EnvAudit.Failure
import EnvAudit.Pattern.Basic
import EnvAudit.Text.Integer
/-!
# Written patterns

A written pattern is read token by token: a plain character, or a backslash with the character after it.  This
module holds the tokens, the numbers that escapes and counts are written with, and what is wrong with a pattern that
cannot be read.  A pattern can also be written in bytes; each of them is then taken for the character of its number.
-/
namespace EnvAudit

/-! ## Faults

A malformed pattern is the ordinary case.  A count beyond what a repetition can hold, a count with too many digits,
two global options that exclude each other, and groups inside one another beyond what the reader can follow are told
apart from it. -/

inductive PatternFault where
  | malformed
  | countTooLarge
  | countTooLong
  | conflictingOptions
  | tooDeep
  deriving DecidableEq, Repr

/-- What the fault is called where loading a document fails that holds the pattern. -/
def PatternFault.cause : PatternFault → Cause
  | .malformed => .badPattern
  | .countTooLarge => .failure .tooLarge
  | .countTooLong | .conflictingOptions => .failure .badValue
  | .tooDeep => .failure .tooDeep

/-- Faults that end the reading of a document, whatever else is wrong with it. -/
def PatternFault.failure? : PatternFault → Option Failure
  | .countTooLarge => some .tooLarge
  | .tooDeep => some .tooDeep
  | _ => none

/-! ## Tokens -/

/-- What a pattern is written in. -/
inductive PatternKind where
  | text
  | bytes
  deriving DecidableEq, Repr

inductive Tok where
  | plain (c : Char)
  | escaped (c : Char)
  /-- A backslash that ends the pattern. -/
  | dangling
  deriving DecidableEq, Repr

def patternTokens : Text → List Tok
  | [] => []
  | ['\\'] => [.dangling]
  | '\\' :: c :: cs => .escaped c :: patternTokens cs
  | c :: cs => .plain c :: patternTokens cs

def Tok.text : Tok → Text
  | .plain c => [c]
  | .escaped c => ['\\', c]
  | .dangling => ['\\']

/-- The longest run of plain characters of a class, of at most `limit` of them. -/
def takePlain (p : Char → Bool) : Nat → List Tok → Text × List Tok
  | 0, ts => ([], ts)
  | _ + 1, [] => ([], [])
  | n + 1, t :: ts =>
    match t with
    | .plain c => if p c then let (cs, rest) := takePlain p n ts; (c :: cs, rest) else ([], t :: ts)
    | _ => ([], t :: ts)

/-- The text up to a closing mark, and the tokens behind the mark. -/
def takeUntil (close : Char) : List Tok → Option (Text × List Tok)
  | [] => none
  | t :: ts =>
    if t = .plain close then some ([], ts)
    else (takeUntil close ts).map fun (cs, rest) => (t.text ++ cs, rest)

/-! ## Numbers -/

def isOctalDigit (c : Char) : Bool := '0' ≤ c && c ≤ '7'

def isHexDigit (c : Char) : Bool := isAsciiDigit c || ('a' ≤ c && c ≤ 'f') || ('A' ≤ c && c ≤ 'F')

def hexValue (c : Char) : Nat := ((digitInBase? 16 c)).getD 0

def numberIn (base : Nat) (digits : Text) : Nat := ofDigits base (digits.map hexValue)

/-- One more than the greatest count a repetition can have. -/
def countBound : Nat := 4294967295

/-- A count written in digits; `none` where nothing is written. -/
def readCount (digits : Text) : Except PatternFault (Option Nat) :=
  if digits.isEmpty then .ok none
  else if maxDecimalDigits < digits.length then .error .countTooLong
  else
    let n := numberIn 10 digits
    if countBound ≤ n then .error .countTooLarge else .ok (some n)

end EnvAudit

import EnvAudit.Text.Integer
import EnvAudit.Number.Binary64
/-!
# JSON tokens

A JSON text is a sequence of marks, strings and words.  A word is a run of the characters that numbers and literals
are made of; what it says is settled when it is read as a value.  Whatever is wrong with a token is kept as a token,
so that the reader meets the first fault in the order of the text.

A text is a sequence of characters, and half of a surrogate pair, which an escape can name, is none: where it has no other
half it is read as the replacement character.
-/
namespace EnvAudit

inductive JsonToken where
  | mark (c : Char)
  | text (t : Text)
  | word (t : Text)
  | bad
  deriving DecidableEq, Repr

/-! ## Strings -/

def isJsonMark (c : Char) : Bool := "\x7b\x7d[]:,".toList.contains c

def isJsonSpace (c : Char) : Bool := c = ' ' || c = '\t' || c = '\n' || c = '\r'

def isJsonWordChar (c : Char) : Bool := isAsciiLetter c || isAsciiDigit c || c = '+' || c = '-' || c = '.'

def jsonEscape? : Char → Option Char
  | '"' => some '"'
  | '\\' => some '\\'
  | '/' => some '/'
  | 'b' => some '\x08'
  | 'f' => some '\x0c'
  | 'n' => some '\n'
  | 'r' => some '\r'
  | 't' => some '\t'
  | _ => none

/-- The value of four hexadecimal digits. -/
def fourHex? (a b c d : Char) : Option Nat := do
  let value (x : Char) : Option Nat := if x.toNat < 128 then digitInBase? 16 x else none
  let a ← value a
  let b ← value b
  let c ← value c
  let d ← value d
  some (((a * 16 + b) * 16 + c) * 16 + d)

def isHighSurrogate (n : Nat) : Bool := 0xD800 ≤ n && n < 0xDC00

def isLowSurrogate (n : Nat) : Bool := 0xDC00 ≤ n && n < 0xE000

/-- The units of a string: a character as it stands, or a sixteen-bit unit written by number. -/
inductive JsonUnit where
  | plain (c : Char)
  | unit (n : Nat)
  deriving DecidableEq, Repr

/-- The units up to the closing quote, and what follows it. -/
def jsonUnits : Text → Option (List JsonUnit × Text)
  | [] => none
  | '"' :: rest => some ([], rest)
  | '\\' :: 'u' :: a :: b :: c :: d :: rest =>
    match fourHex? a b c d with
    | none => none
    | some n => (jsonUnits rest).map fun (us, after) => (.unit n :: us, after)
  | '\\' :: e :: rest =>
    match jsonEscape? e with
    | none => none
    | some c => (jsonUnits rest).map fun (us, after) => (.plain c :: us, after)
  | c :: rest =>
    if c.toNat < 32 || c = '\\' then none
    else (jsonUnits rest).map fun (us, after) => (.plain c :: us, after)

/-- Two units that make a pair are one character; half a pair on its own becomes the replacement character. -/
def textOfUnits : List JsonUnit → Text
  | [] => []
  | .plain c :: us => c :: textOfUnits us
  | .unit h :: .unit l :: us =>
    if isHighSurrogate h && isLowSurrogate l then
      Char.ofNat (0x10000 + (h - 0xD800) * 0x400 + (l - 0xDC00)) :: textOfUnits us
    else (if isHighSurrogate h || isLowSurrogate h then '\ufffd' else Char.ofNat h) :: textOfUnits (.unit l :: us)
  | .unit n :: us => (if isHighSurrogate n || isLowSurrogate n then '\ufffd' else Char.ofNat n) :: textOfUnits us

/-! ## The walk -/

/-- Every token takes at least one character, so the length of the text bounds the walk. -/
def jsonTokensFrom : Nat → Text → List JsonToken
  | 0, _ => []
  | _ + 1, [] => []
  | fuel + 1, c :: cs =>
    if isJsonSpace c then jsonTokensFrom fuel cs
    else if isJsonMark c then .mark c :: jsonTokensFrom fuel cs
    else if c = '"' then
      match jsonUnits cs with
      | none => [.bad]
      | some (us, rest) => .text (textOfUnits us) :: jsonTokensFrom fuel rest
    else if isJsonWordChar c then
      .word (c :: cs.takeWhile isJsonWordChar) :: jsonTokensFrom fuel (cs.dropWhile isJsonWordChar)
    else [.bad]

def jsonTokens (t : Text) : List JsonToken := jsonTokensFrom t.length t

/-! ## Numbers -/

structure JsonNumber where
  negative : Bool
  whole : Text
  /-- The digits behind the point, if there is one. -/
  fraction : Option Text
  exponent : Option Int
  deriving DecidableEq, Repr

/-- An exponent with its sign; nothing is taken where no digit follows. -/
def jsonExponent (t : Text) : Option Int × Text :=
  match t with
  | e :: rest =>
    if e = 'e' || e = 'E' then
      let (negative, digits) := match rest with
        | '-' :: r => (true, r)
        | '+' :: r => (false, r)
        | r => (false, r)
      let ds := digits.takeWhile isAsciiDigit
      if ds.isEmpty then (none, t)
      else
        let n : Int := ((ofDigits 10 (ds.map fun c => c.toNat - 48) : Nat) : Int)
        (some (if negative then -n else n), digits.dropWhile isAsciiDigit)
    else (none, t)
  | [] => (none, t)

def jsonFraction (t : Text) : Option Text × Text :=
  match t with
  | '.' :: rest =>
    let ds := rest.takeWhile isAsciiDigit
    if ds.isEmpty then (none, t) else (some ds, rest.dropWhile isAsciiDigit)
  | _ => (none, t)

/-- The longest number that a word begins with, and the rest of the word.  A leading zero stands alone. -/
def jsonNumber? (word : Text) : Option (JsonNumber × Text) :=
  let (negative, t) := match word with
    | '-' :: r => (true, r)
    | r => (false, r)
  let whole := match t with
    | '0' :: _ => ['0']
    | _ => t.takeWhile isAsciiDigit
  if whole.isEmpty then none
  else
    let (fraction, afterFraction) := jsonFraction (t.drop whole.length)
    let (exponent, rest) := jsonExponent afterFraction
    some (⟨negative, whole, fraction, exponent⟩, rest)

def JsonNumber.isInteger (n : JsonNumber) : Bool := n.fraction.isNone && n.exponent.isNone

def JsonNumber.integer (n : JsonNumber) : Int :=
  let m : Int := ((ofDigits 10 (n.whole.map fun c => c.toNat - 48) : Nat) : Int)
  if n.negative then -m else m

def JsonNumber.float (n : JsonNumber) : Float :=
  let places := n.fraction.getD []
  let m := ofDigits 10 ((n.whole ++ places).map fun c => c.toNat - 48)
  let x := ofDecimal m (n.exponent.getD 0 - places.length)
  if n.negative then -x else x

end EnvAudit

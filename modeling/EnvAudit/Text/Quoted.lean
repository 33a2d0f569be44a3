import EnvAudit.Text.Basic
import EnvAudit.Text.Printable
/-!
# Quoted text

How a text is shown inside a message: between single quotes, or between double quotes when it holds a single quote
and no double one.  The backslash, the quote in use, and whatever is not printable are written as escapes.
-/
namespace EnvAudit

def hexDigit (n : Nat) : Char := if n < 10 then Char.ofNat (48 + n) else Char.ofNat (87 + n)

/-- The last `width` hexadecimal digits of a number. -/
def hexDigits (width n : Nat) : Text :=
  (List.range width).reverse.map fun i => hexDigit (n / Nat.pow 16 i % 16)

/-- The letters that stand for line breaks and tabs. -/
def breakLetter? : Char → Option Char
  | '\n' => some 'n'
  | '\r' => some 'r'
  | '\t' => some 't'
  | _ => none

/-- A character by its number, in as few digits as its size allows. -/
def numberEscape (n : Nat) : Text :=
  if n < 0x100 then '\\' :: 'x' :: hexDigits 2 n
  else if n < 0x10000 then '\\' :: 'u' :: hexDigits 4 n
  else '\\' :: 'U' :: hexDigits 8 n

def escapeFor (quote c : Char) : Text :=
  if c = quote || c = '\\' then ['\\', c]
  else match breakLetter? c with
    | some letter => ['\\', letter]
    | none => if isPrintable c then [c] else numberEscape c.toNat

def quoted (t : Text) : Text :=
  let quote := if t.contains '\'' && !t.contains '"' then '"' else '\''
  quote :: t.flatMap (escapeFor quote) ++ [quote]

end EnvAudit

import EnvAudit.Text.Basic
import EnvAudit.Text.Digit
import EnvAudit.Text.Word
/-!
# Written integers

The form in which an integer is accepted: white space around it, one sign, digits of any script, and single
underscores between digits.  In base two, eight and sixteen a base mark may stand before the digits.  A decimal
integer of more than 4300 digits is refused.
-/
namespace EnvAudit

/-- White space that may surround a number: the six ASCII characters, and every other blank beyond ASCII. -/
def isNumberPadding (c : Char) : Bool := isAsciiBlank c || (128 ≤ c.toNat && isBlank c)

def letterValue? (c : Char) : Option Nat :=
  if isAsciiLower c then some (c.toNat - 87) else if isAsciiUpper c then some (c.toNat - 55) else none

def digitInBase? (base : Nat) (c : Char) : Option Nat :=
  ((digitValue? c).orElse fun _ => letterValue? c).filter (· < base)

/-- Digits with single underscores between them: the digits seen so far, most significant first. -/
def digitsOf? (base : Nat) : Text → Option (List Nat)
  | [] => none
  | [c] => (digitInBase? base c).map ([·])
  | c :: '_' :: rest => do
    let d ← digitInBase? base c
    let ds ← digitsOf? base rest
    some (d :: ds)
  | c :: rest => do
    let d ← digitInBase? base c
    let ds ← digitsOf? base rest
    some (d :: ds)

def ofDigits (base : Nat) (ds : List Nat) : Nat := ds.foldl (fun n d => n * base + d) 0

def maxDecimalDigits : Nat := 4300

/-- The digits after an optional base mark, with which an underscore may stand. -/
def afterBaseMark (base : Nat) (t : Text) : Text :=
  let mark : List Char := if base = 2 then ['b', 'B'] else if base = 8 then ['o', 'O']
    else if base = 16 then ['x', 'X'] else []
  match t with
  | '0' :: m :: rest => if mark.contains m then (match rest with | '_' :: r => r | _ => rest) else t
  | _ => t

def parseNat? (base : Nat) (t : Text) : Option Nat := do
  let ds ← digitsOf? base (afterBaseMark base t)
  if base = 10 && maxDecimalDigits < ds.length then none else some (ofDigits base ds)

def parseInteger? (base : Nat) (t : Text) : Option Int :=
  match strip isNumberPadding t with
  | '-' :: rest => (parseNat? base rest).map fun n => -(n : Int)
  | '+' :: rest => (parseNat? base rest).map Int.ofNat
  | rest => (parseNat? base rest).map Int.ofNat

end EnvAudit

import EnvAudit.Text.Utf8
/-!
# Marked text

Layout decides what a YAML text means, so every character is taken together with its line and column.  A marked text
ends in a NUL mark, which no text may hold, so there is always a character to look at.
-/
namespace EnvAudit.Yaml

structure Mark where
  char : Char
  line : Nat
  column : Nat
  index : Nat
  deriving DecidableEq, Repr

abbrev Marks := List Mark

/-! ## Classes of characters -/

def isBreak (c : Char) : Bool := c = '\n' || c = '\r' || c = '\x85' || c = '\u2028' || c = '\u2029'

def isEnd (c : Char) : Bool := c = '\x00'

def isBreakOrEnd (c : Char) : Bool := isBreak c || isEnd c

/-- A space, a line break or the end: what closes a word. -/
def isWordEnd (c : Char) : Bool := c = ' ' || isBreakOrEnd c

/-- As `isWordEnd`, and a tab: what sets an indicator apart. -/
def isGap (c : Char) : Bool := c = '\t' || isWordEnd c

/-- The characters that may stand in a YAML text. -/
def isAllowed (c : Char) : Bool :=
  let n := c.toNat
  n = 9 || n = 10 || n = 13 || (0x20 ≤ n && n ≤ 0x7E) || n = 0x85 || (0xA0 ≤ n && n ≤ 0xD7FF) ||
    (0xE000 ≤ n && n ≤ 0xFFFD) || 0x10000 ≤ n

/-! ## Marking -/

def byteOrderMark : Char := '\ufeff'

/-- A byte order mark takes no column; a carriage return before a newline does not end the line by itself. -/
def marksFrom (line column index : Nat) : Text → Marks
  | [] => [⟨'\x00', line, column, index⟩]
  | c :: cs =>
    ⟨c, line, column, index⟩ ::
      if isBreak c && !(c = '\r' && cs.head? = some '\n') then marksFrom (line + 1) 0 (index + 1) cs
      else marksFrom line (if c = byteOrderMark then column else column + 1) (index + 1) cs

def marksOf (t : Text) : Marks := marksFrom 0 0 0 t

/-! ## Looking -/

def peek (ms : Marks) : Char := (ms.head?.map (·.char)).getD '\x00'

def peekSecond (ms : Marks) : Char := peek (ms.drop 1)

def columnOf (ms : Marks) : Nat := (ms.head?.map (·.column)).getD 0

def lineOf (ms : Marks) : Nat := (ms.head?.map (·.line)).getD 0

def indexOf (ms : Marks) : Nat := (ms.head?.map (·.index)).getD 0

/-- The characters up to the first that is not of a class. -/
def takeText (ms : Marks) (p : Char → Bool) : Text := (ms.takeWhile fun m => p m.char).map (·.char)

def skipWhile (ms : Marks) (p : Char → Bool) : Marks := ms.dropWhile fun m => p m.char

def skipSpaces (ms : Marks) : Marks := skipWhile ms (· = ' ')

def skipToBreak (ms : Marks) : Marks := skipWhile ms fun c => !isBreakOrEnd c

/-- A line break and what follows it: every break but the two Unicode separators is read as a newline. -/
def lineBreak? : Marks → Option (Char × Marks)
  | [] => none
  | [m] => if isBreak m.char then some (if m.char = '\u2028' || m.char = '\u2029' then m.char else '\n', []) else none
  | m :: n :: ms =>
    if m.char = '\r' && n.char = '\n' then some ('\n', ms)
    else if m.char = '\u2028' || m.char = '\u2029' then some (m.char, n :: ms)
    else if isBreak m.char then some ('\n', n :: ms)
    else none

def skipLineBreak (ms : Marks) : Marks := (lineBreak? ms).elim ms (·.2)

/-- Whether a line of three dashes, or of three points, begins here. -/
def atDocumentMark (ms : Marks) : Bool :=
  let three := (ms.take 3).map (·.char)
  (three = "---".toList || three = "...".toList) && isGap (peek (ms.drop 3))

/-- The rest of a line that may hold a comment and nothing else. -/
def skipIgnoredLine? (ms : Marks) : Option Marks :=
  let ms := skipSpaces ms
  let ms := if peek ms = '#' then skipToBreak ms else ms
  if isBreakOrEnd (peek ms) then some (skipLineBreak ms) else none

end EnvAudit.Yaml

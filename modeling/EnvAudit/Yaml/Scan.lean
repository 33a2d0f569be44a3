import EnvAudit.Yaml.Quoted
import EnvAudit.Yaml.Block
import EnvAudit.Yaml.Plain
import EnvAudit.Yaml.Tag
/-!
# From text to tokens

A node may turn out to be a key only when the colon behind it is met, so the place where a key could begin is
remembered, one for each level of brackets, and the key token is put there afterwards.  Such a node must lie on one
line and within 1024 characters of its colon.  Outside brackets a deeper column opens a block and a lesser one closes
blocks.

Tokens are read when they are asked for.  What cannot be read is met only behind the tokens before it, but for those that
wait for a colon.
-/
namespace EnvAudit.Yaml

/-- A place where a key could begin. -/
structure Candidate where
  /-- How many tokens came before. -/
  number : Nat
  /-- At the column of the block around, nothing but a key can stand. -/
  required : Bool
  line : Nat
  column : Nat
  index : Nat
  deriving Repr

structure Scanner where
  marks : Marks
  /-- Latest first. -/
  tokens : List Token
  count : Nat
  /-- The column of the innermost block, if there is one, and of those around it. -/
  indent : Option Nat
  outer : List (Option Nat)
  flow : Nat
  keyAllowed : Bool
  candidates : List (Nat × Candidate)
  deriving Repr

namespace Scanner

def start (t : Text) : Scanner :=
  let ms := marksOf t
  ⟨if peek ms = byteOrderMark then ms.drop 1 else ms, [], 0, none, [], 0, true, []⟩

def emit (s : Scanner) (t : Token) : Scanner := { s with tokens := t :: s.tokens, count := s.count + 1 }

/-- Puts a token where a candidate began. -/
def insert (s : Scanner) (number : Nat) (t : Token) : Scanner :=
  let later := s.count - number
  { s with tokens := s.tokens.take later ++ t :: s.tokens.drop later, count := s.count + 1 }

def emitRead (s : Scanner) (r : Except Fault (Token × Marks)) : Except Fault Scanner :=
  r.map fun (t, rest) => { s.emit t with marks := rest }

/-! ## Candidates -/

def candidate? (s : Scanner) : Option Candidate := (s.candidates.find? fun c => c.1 = s.flow).map (·.2)

def forget (s : Scanner) : Scanner := { s with candidates := s.candidates.filter fun c => c.1 ≠ s.flow }

/-- Gives up the candidate of this level, which must not have been needed. -/
def dropCandidate (s : Scanner) : Except Fault Scanner :=
  if s.candidate?.any (·.required) then .error .malformed else .ok s.forget

def saveCandidate (s : Scanner) : Except Fault Scanner :=
  let required := s.flow = 0 && s.indent = some (columnOf s.marks)
  if s.keyAllowed then do
    let s ← s.dropCandidate
    let c : Candidate := ⟨s.count, required, (lineOf s.marks), (columnOf s.marks), (indexOf s.marks)⟩
    return { s with candidates := (s.flow, c) :: s.candidates }
  else .ok s

/-- Whether a candidate can no longer be reached. -/
def isStale (s : Scanner) (c : Candidate) : Bool := c.line ≠ (lineOf s.marks) || 1024 < (indexOf s.marks) - c.index

def dropStale (s : Scanner) : Except Fault Scanner :=
  if s.candidates.any fun c => s.isStale c.2 && c.2.required then .error .malformed
  else .ok { s with candidates := s.candidates.filter fun c => !s.isStale c.2 }

/-- The tokens that are there for the asking: those before the first candidate. -/
def ready (s : Scanner) : List Token :=
  let waiting := (s.candidates.map (·.2)).filter fun c => c.required || !s.isStale c
  s.tokens.reverse.take (waiting.foldl (fun n c => min n c.number) s.count)

/-! ## Indentation -/

/-- Closes the blocks whose column is greater; without a column, all of them. -/
def closeBlocks (column : Option Nat) : Nat → Scanner → Scanner
  | 0, s => s
  | fuel + 1, s =>
    match s.indent with
    | some i =>
      if column.all (· < i) then
        closeBlocks column fuel { s.emit .blockEnd with indent := s.outer.headD none, outer := s.outer.tail }
      else s
    | none => s

def unwind (s : Scanner) (column : Option Nat) : Scanner :=
  if s.flow = 0 then closeBlocks column (s.outer.length + 1) s else s

def isDeeper (s : Scanner) (column : Nat) : Bool := s.indent.all (· < column)

def indentTo (s : Scanner) (column : Nat) : Scanner := { s with indent := some column, outer := s.indent :: s.outer }

/-! ## Between tokens -/

/-- Spaces, comments and line breaks; a line break outside brackets lets a key begin. -/
def skipBetween : Nat → Scanner → Scanner
  | 0, s => s
  | fuel + 1, s =>
    let ms := skipSpaces s.marks
    let ms := if peek ms = '#' then skipToBreak ms else ms
    match lineBreak? ms with
    | some (_, rest) => skipBetween fuel { s with marks := rest, keyAllowed := s.keyAllowed || s.flow = 0 }
    | none => { s with marks := ms }

/-! ## Tokens -/

def skipMarks (s : Scanner) (n : Nat) : Scanner := { s with marks := s.marks.drop n }

def allowKey (s : Scanner) (allowed : Bool) : Scanner := { s with keyAllowed := allowed }

def scanDirective (s : Scanner) : Except Fault Scanner := do
  let s ← (s.unwind none).dropCandidate
  (s.allowKey false).emitRead (readDirective (s.marks.drop 1))

def scanDocumentMark (s : Scanner) (t : Token) : Except Fault Scanner := do
  let s ← (s.unwind none).dropCandidate
  return ((s.allowKey false).skipMarks 3).emit t

def openFlow (s : Scanner) (t : Token) : Except Fault Scanner := do
  let s ← s.saveCandidate
  return ({ s with flow := s.flow + 1, keyAllowed := true }.skipMarks 1).emit t

def closeFlow (s : Scanner) (t : Token) : Except Fault Scanner := do
  let s ← s.dropCandidate
  return ({ s with flow := s.flow - 1, keyAllowed := false }.skipMarks 1).emit t

def scanFlowEntry (s : Scanner) : Except Fault Scanner := do
  let s ← s.dropCandidate
  return ((s.allowKey true).skipMarks 1).emit .flowEntry

/-- Opens a block at this column where a deeper one begins; outside brackets the place must allow it. -/
def openBlock (s : Scanner) (t : Token) : Except Fault Scanner :=
  if s.flow ≠ 0 then .ok s
  else if !s.keyAllowed then .error .malformed
  else if s.isDeeper (columnOf s.marks) then .ok ((s.indentTo (columnOf s.marks)).emit t)
  else .ok s

def scanEntry (s : Scanner) : Except Fault Scanner := do
  let s ← s.openBlock .blockSequence
  let s ← (s.allowKey true).dropCandidate
  return (s.skipMarks 1).emit .entry

def scanKey (s : Scanner) : Except Fault Scanner := do
  let s ← s.openBlock .blockMapping
  let s ← (s.allowKey (s.flow = 0)).dropCandidate
  return (s.skipMarks 1).emit .key

def scanValue (s : Scanner) : Except Fault Scanner :=
  match s.candidate? with
  | some c =>
    let s := s.forget.insert c.number .key
    let s := if s.flow = 0 && s.isDeeper c.column then (s.insert c.number .blockMapping).indentTo c.column else s
    .ok (((s.allowKey false).skipMarks 1).emit .value)
  | none => do
    let s ← s.openBlock .blockMapping
    let s ← (s.allowKey (s.flow = 0)).dropCandidate
    return (s.skipMarks 1).emit .value

/-- A token that a key can begin with. -/
def scanProperty (s : Scanner) (r : Except Fault (Token × Marks)) : Except Fault Scanner := do
  let s ← s.saveCandidate
  (s.allowKey false).emitRead r

def scanBlockScalar (s : Scanner) (folded : Bool) : Except Fault Scanner := do
  let s ← (s.allowKey true).dropCandidate
  s.emitRead ((readBlockScalar folded s.indent (s.marks.drop 1)).map fun (t, rest) => (.scalar t false, rest))

def scanQuoted (s : Scanner) (isDouble : Bool) : Except Fault Scanner :=
  s.scanProperty
    ((readQuoted isDouble s.marks.length (s.marks.drop 1)).map fun (t, rest) => (.scalar t false, rest))

def scanPlain (s : Scanner) : Except Fault Scanner := do
  let s ← s.saveCandidate
  let (t, crossed, rest) :=
    readPlain (s.flow ≠ 0) (s.indent.elim 0 (· + 1)) s.marks.length [] false s.marks
  return { (s.allowKey crossed).emit (.scalar t true) with marks := rest }

def startsPlain (s : Scanner) : Bool :=
  let c := peek s.marks
  !(isGap c || "-?:,[]\x7b\x7d#&*!|>'\"%@`".toList.contains c) ||
    (!isGap (peekSecond s.marks) && (c = '-' || (s.flow = 0 && (c = '?' || c = ':'))))

/-- The next token, from a mark that begins one. -/
def scanToken (s : Scanner) : Except Fault Scanner :=
  let c := peek s.marks
  let gapNext := isGap (peekSecond s.marks)
  let atMargin := columnOf s.marks = 0
  let atMark := atMargin && atDocumentMark s.marks
  if atMargin && c = '%' then s.scanDirective
  else if c = '-' && atMark then s.scanDocumentMark .documentStart
  else if c = '.' && atMark then s.scanDocumentMark .documentEnd
  else match c with
    | '[' => s.openFlow .flowSequence
    | '\x7b' => s.openFlow .flowMapping
    | ']' => s.closeFlow .flowSequenceEnd
    | '\x7d' => s.closeFlow .flowMappingEnd
    | ',' => s.scanFlowEntry
    | _ =>
      if c = '-' && gapNext then s.scanEntry
      else if c = '?' && (s.flow ≠ 0 || gapNext) then s.scanKey
      else if c = ':' && (s.flow ≠ 0 || gapNext) then s.scanValue
      else match c with
        | '*' => s.scanProperty ((readAnchorName (s.marks.drop 1)).map fun (n, r) => (.alias n, r))
        | '&' => s.scanProperty ((readAnchorName (s.marks.drop 1)).map fun (n, r) => (.anchor n, r))
        | '!' => s.scanProperty (readTag s.marks)
        | '\'' => s.scanQuoted false
        | '"' => s.scanQuoted true
        | _ =>
          if c = '|' && s.flow = 0 then s.scanBlockScalar false
          else if c = '>' && s.flow = 0 then s.scanBlockScalar true
          else if s.startsPlain then s.scanPlain
          else .error .malformed

/-- One round: the scanner behind its next token, and whether that was the last one. -/
def round (s : Scanner) : Except Fault (Scanner × Bool) := do
  let s ← (s.skipBetween s.marks.length).dropStale
  let s := s.unwind (some (columnOf s.marks))
  if isEnd (peek s.marks) then
    let s ← (s.unwind none).dropCandidate
    return (s.emit .streamEnd, true)
  else
    let s ← s.scanToken
    return (s, false)

/-- Every round takes at least one character, so the length of the text bounds them. -/
def run : Nat → Scanner → List Token
  | 0, s => s.ready ++ [.fault .malformed]
  | fuel + 1, s =>
    match s.round with
    | .error f => s.ready ++ [.fault f]
    | .ok (s, true) => s.tokens.reverse
    | .ok (s, false) => run fuel s

end Scanner

def tokens (t : Text) : List Token :=
  if t.all isAllowed then (Scanner.start t).run (t.length + 1) else [.fault .malformed]

end EnvAudit.Yaml

import EnvAudit.Yaml.Token
/-!
# Block scalars

A block scalar is a header, then the lines that are indented deeply enough.  The header may fix the indentation and
says what becomes of the last line break: it is kept, dropped, or kept with all empty lines after it.  A folded
scalar joins two lines that both begin with text.
-/
namespace EnvAudit.Yaml

inductive Chomping where
  | clip
  | drop
  | keep
  deriving DecidableEq, Repr

def chomping? : Char → Option Chomping
  | '+' => some .keep
  | '-' => some .drop
  | _ => none

def isDecimalDigit (c : Char) : Bool := '0' ≤ c && c ≤ '9'

/-- The header's two indicators in either order; an indentation of zero is none. -/
def readBlockHeader (ms : Marks) : Option (Chomping × Option Nat × Marks) :=
  let (chomping, afterChomping) := match chomping? (peek ms) with
    | some k => (some k, ms.drop 1)
    | none => (none, ms)
  let d := peek afterChomping
  let (step, afterStep) :=
    if isDecimalDigit d then (some (d.toNat - 48), afterChomping.drop 1) else (none, afterChomping)
  let (chomping, rest) := match chomping, step, chomping? (peek afterStep) with
    | none, some _, some k => (some k, afterStep.drop 1)
    | _, _, _ => (chomping, afterStep)
  if step = some 0 || !isWordEnd (peek rest) then none
  else (skipIgnoredLine? rest).map fun after => (chomping.getD .clip, step, after)

/-- Spaces up to a column. -/
def skipIndent (indent : Nat) : Marks → Marks
  | [] => []
  | m :: ms => if m.char = ' ' && m.column < indent then skipIndent indent ms else m :: ms

/-- Empty lines, each indented less than the text or just as deeply. -/
def blockBreaks (indent : Nat) : Nat → Marks → Text × Marks
  | 0, ms => ([], ms)
  | fuel + 1, ms =>
    let ms := skipIndent indent ms
    match lineBreak? ms with
    | some (c, rest) => let (t, after) := blockBreaks indent fuel rest; (c :: t, after)
    | none => ([], ms)

/-- The empty lines before the text, and the deepest column that they or the first line of text begin at. -/
def leadingBreaks (deepest : Nat) : Nat → Marks → Text × Nat × Marks
  | 0, ms => ([], deepest, ms)
  | fuel + 1, ms =>
    let rest := skipSpaces ms
    let deepest := if peek ms = ' ' then max deepest (columnOf rest) else deepest
    match lineBreak? rest with
    | some (c, after) => let (t, d, after) := leadingBreaks deepest fuel after; (c :: t, d, after)
    | none => ([], deepest, rest)

/-- The lines of text, the break that ends the last of them, and the empty lines after it. -/
def blockLines (folded : Bool) (indent : Nat) : Nat → Text → Marks → Text × Text × Text × Marks
  | 0, breaks, ms => ([], [], breaks, ms)
  | fuel + 1, breaks, ms =>
    if columnOf ms ≠ indent || isEnd (peek ms) then ([], [], breaks, ms)
    else
      let startsWithText := peek ms ≠ ' ' && peek ms ≠ '\t'
      let line := takeText ms fun c => !isBreakOrEnd c
      let afterLine := skipToBreak ms
      let lineBreak : Text := ((lineBreak? afterLine).map fun b => [b.1]).getD []
      let rest := skipLineBreak afterLine
      let (more, after) := blockBreaks indent (rest.length + 1) rest
      if columnOf after = indent && !isEnd (peek after) then
        let joins := folded && lineBreak = ['\n'] && startsWithText && peek after ≠ ' ' && peek after ≠ '\t'
        let between : Text := if joins then (if more.isEmpty then [' '] else []) else lineBreak
        let (text, last, left, final) := blockLines folded indent fuel more after
        (breaks ++ line ++ between ++ text, last, left, final)
      else (breaks ++ line, lineBreak, more, after)

/-- From behind the indicator.  `outer` is the indentation of the block around, if there is one. -/
def readBlockScalar (folded : Bool) (outer : Option Nat) (ms : Marks) : Except Fault (Text × Marks) :=
  match readBlockHeader ms with
  | none => .error .malformed
  | some (chomping, step, body) =>
    let least := max 1 (outer.elim 0 (· + 1))
    let fuel := body.length + 1
    let (indent, breaks, rest) := match step with
      | some n =>
        let indent := least + n - 1
        let (breaks, rest) := blockBreaks indent fuel body
        (indent, breaks, rest)
      | none =>
        let (breaks, deepest, rest) := leadingBreaks 0 fuel body
        (max least deepest, breaks, rest)
    let (text, last, left, after) := blockLines folded indent fuel breaks rest
    let final : Text := match chomping with
      | .drop => []
      | .clip => last
      | .keep => last ++ left
    .ok (text ++ final, after)

end EnvAudit.Yaml

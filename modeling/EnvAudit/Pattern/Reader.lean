import EnvAudit.Pattern.Escape
import EnvAudit.Pattern.Option
import EnvAudit.Text.Identifier
import EnvAudit.Text.Utf8
/-!
# Reading a pattern

The reader walks the tokens once.  What stands inside an open parenthesis is a `GroupLevel`: the alternatives already
closed by a bar, the items of the alternative at hand, and what the closing parenthesis will make of them.  Every
step takes at least one token, so the number of tokens bounds the walk.  The levels that are open are calls inside one
another, two for each but for a choice, and a host has so many.

Some faults show only when all else is well formed, in this order: two global options that exclude each other, a
closing parenthesis too many, a condition on a group that does not exist, and a look behind of no fixed width.
-/
namespace EnvAudit

/-! ## Items and levels -/

/-- What may follow an item: an anchor cannot be repeated, and a repetition cannot be repeated again. -/
inductive ItemRole where
  | plain
  | anchor
  | repetition
  deriving DecidableEq, Repr

structure PatternItem where
  pattern : Pattern
  role : ItemRole
  deriving Repr

inductive Enclosure where
  | whole
  | plain
  | capture (group : Nat)
  | atomic
  | ahead (negated : Bool)
  /-- `outermost`: no other look behind is around this one. -/
  | behind (negated outermost : Bool)
  | either (group : Nat)
  deriving DecidableEq, Repr

structure GroupLevel where
  enclosure : Enclosure
  options : PatternOptions
  /-- Latest first. -/
  alternatives : List Pattern
  /-- Latest first. -/
  items : List PatternItem
  deriving Repr

/-- The calls that reading what it encloses takes. -/
def Enclosure.calls : Enclosure → Nat
  | .whole => 0
  | .either _ => 1
  | _ => 2

def GroupLevel.opened (e : Enclosure) (o : PatternOptions) : GroupLevel := ⟨e, o, [], []⟩

def GroupLevel.push (l : GroupLevel) (i : PatternItem) : GroupLevel := { l with items := i :: l.items }

def GroupLevel.sequence (l : GroupLevel) : Pattern := Pattern.all (l.items.reverse.map (·.pattern))

def GroupLevel.branches (l : GroupLevel) : List Pattern := (l.sequence :: l.alternatives).reverse

def GroupLevel.isUntouched (l : GroupLevel) : Bool := l.alternatives.isEmpty && l.items.isEmpty

structure PatternReading where
  host : Host
  kind : PatternKind
  level : GroupLevel
  outer : List GroupLevel
  /-- How many groups have been opened. -/
  groups : Nat
  /-- The groups that are closed, with their widths. -/
  closed : List (Nat × Width)
  names : List (Text × Nat)
  /-- Numbers that conditions asked for. -/
  asked : List Nat
  /-- Inside a look behind, how many groups there were before it. -/
  behindFrom : Option Nat
  /-- The letters of all global options. -/
  global : Text
  /-- A look behind whose width is not fixed. -/
  unfixed : Bool
  /-- Some item is repeated. -/
  repeats : Bool

namespace PatternReading

def start (host : Host) (kind : PatternKind) : PatternReading :=
  ⟨host, kind, .opened .whole .none, [], 0, [], [], [], none, [], false, false⟩

/-- The calls that are inside one another. -/
def calls (r : PatternReading) : Nat := (r.level :: r.outer).foldl (fun n l => n + l.enclosure.calls) 0

def push (r : PatternReading) (p : Pattern) (role : ItemRole) : PatternReading :=
  { r with level := r.level.push ⟨p, role⟩ }

def enter (r : PatternReading) (e : Enclosure) (o : PatternOptions) : PatternReading :=
  { r with level := .opened e o, outer := r.level :: r.outer }

def isClosed (r : PatternReading) (group : Nat) : Bool := r.closed.any fun g => g.1 = group

/-- A reference may name a closed group, and inside a look behind only one from before it. -/
def mayRefer (r : PatternReading) (group : Nat) : Bool :=
  r.isClosed group && r.behindFrom.all (group ≤ ·)

/-- A condition may name any group, but inside a look behind it is bound as a reference is. -/
def mayAsk (r : PatternReading) (group : Nat) : Bool := r.behindFrom.isNone || r.mayRefer group

def groupNamed? (r : PatternReading) (name : Text) : Option Nat :=
  (r.names.find? fun n => n.1 = name).map (·.2)

def literal (r : PatternReading) (c : Char) : PatternReading :=
  let o := r.level.options
  r.push (oneOf o.folding o.asciiOnly false [.code c.toNat]) .plain

def pushReference (r : PatternReading) (group : Nat) : Except PatternFault PatternReading :=
  if r.mayRefer group then .ok (r.push (.reference group r.level.options.folding) .plain) else .error .malformed

end PatternReading

/-! ## Escapes -/

def anchorEscape? (asciiOnly : Bool) : Char → Option Anchor
  | 'A' => some .textStart
  | 'Z' => some .textEnd
  | 'b' => some (.wordEdge asciiOnly false)
  | 'B' => some (.wordEdge asciiOnly true)
  | _ => none

abbrev ReadStep := Except PatternFault (PatternReading × List Tok)

def orMalformed {α : Type} : Option α → Except PatternFault α
  | some a => .ok a
  | none => .error .malformed

/-- Digits after a backslash: three octal digits name a character, anything else names a group. -/
def readDigitEscape (r : PatternReading) (c : Char) (ts : List Tok) : ReadStep := do
  let o := r.level.options
  let code (n : Nat) : PatternReading := r.push (oneOf o.folding o.asciiOnly false [.code n]) .plain
  if c = '0' then
    let (n, rest) ← orMalformed (readOctalEscape c ts)
    return (code n, rest)
  else
    let (more, rest) := takePlain isAsciiDigit 1 ts
    let (third, last) := takePlain isOctalDigit 1 rest
    if isOctalDigit c && more.any isOctalDigit && !third.isEmpty then
      let n := numberIn 8 (c :: more ++ third)
      if n ≤ 0o377 then return (code n, last) else throw .malformed
    else
      let next ← r.pushReference (numberIn 10 (c :: more))
      return (next, rest)

def readEscape (r : PatternReading) (c : Char) (ts : List Tok) : ReadStep :=
  let o := r.level.options
  match anchorEscape? o.asciiOnly c with
  | some a => .ok (r.push (.anchor a) .anchor, ts)
  | none => match categoryEscape? c with
    | some (k, negated) => .ok (r.push (oneOf o.folding o.asciiOnly false [.category k negated]) .plain, ts)
    | none =>
      if isAsciiDigit c then readDigitEscape r c ts
      else do
        let (n, rest) ← orMalformed (readCodeEscape r.host r.kind c ts)
        return (r.push (oneOf o.folding o.asciiOnly false [.code n]) .plain, rest)

/-! ## Repetition -/

/-- The mark after a count that makes it lazy or possessive. -/
def readGreed : List Tok → Greed × List Tok
  | .plain '?' :: ts => (.lazy, ts)
  | .plain '+' :: ts => (.possessive, ts)
  | ts => (.greedy, ts)

def repeatLast (r : PatternReading) (least : Nat) (most : Option Nat) (ts : List Tok) : ReadStep :=
  match r.level.items with
  | ⟨p, .plain⟩ :: earlier =>
    let (greed, rest) := readGreed ts
    let level := { r.level with items := ⟨.repeated p least most greed, .repetition⟩ :: earlier }
    .ok ({ r with level := level, repeats := true }, rest)
  | _ => .error .malformed

/-- Braces hold a count, or stand for themselves when what they hold is none. -/
def readBraces (r : PatternReading) (ts : List Tok) : ReadStep :=
  let (low, afterLow) := takePlain isAsciiDigit ts.length ts
  let (high, afterHigh) := match afterLow with
    | .plain ',' :: rest => takePlain isAsciiDigit rest.length rest
    | _ => (low, afterLow)
  match ts, afterHigh with
  | .plain '}' :: _, _ => .ok (r.literal '{', ts)
  | _, .plain '}' :: .dangling :: _ => .error .malformed
  | _, .plain '}' :: rest => do
    let least ← readCount low
    let most ← readCount high
    if most.any (· < least.getD 0) then throw .malformed
    repeatLast r (least.getD 0) most rest
  | _, _ => .ok (r.literal '{', ts)

/-! ## Groups -/

def openCapture (r : PatternReading) (name : Option Text) (ts : List Tok) : ReadStep :=
  let number := r.groups + 1
  match name with
  | none => .ok ({ r with groups := number }.enter (.capture number) r.level.options, ts)
  | some n =>
    if (r.groupNamed? n).isSome then .error .malformed
    else .ok ({ r with groups := number, names := (n, number) :: r.names }.enter (.capture number) r.level.options, ts)

def openBehind (r : PatternReading) (negated : Bool) (ts : List Tok) : ReadStep :=
  let inner := { r with behindFrom := some (r.behindFrom.getD r.groups) }
  .ok (inner.enter (.behind negated r.behindFrom.isNone) r.level.options, ts)

/-- The greatest group number that can be asked for. -/
def maxGroups : Nat := 1073741823

/-- A condition names a group by name or by number. -/
def openEither (r : PatternReading) (ts : List Tok) : ReadStep := do
  let (name, rest) ← orMalformed (takeUntil ')' ts)
  let (group, numbers) ←
    if isIdentifier name then do
      let g ← orMalformed (r.groupNamed? name)
      pure (g, r.asked)
    else match parseInteger? 10 name with
      | some (.ofNat g) => if g = 0 || maxGroups ≤ g then throw .malformed else pure (g, g :: r.asked)
      | _ => throw .malformed
  if r.mayAsk group then return ({ r with asked := numbers }.enter (.either group) r.level.options, rest)
  else throw .malformed

def readNamed (r : PatternReading) : List Tok → ReadStep
  | .plain '<' :: ts => do
    let (name, rest) ← orMalformed (takeUntil '>' ts)
    if isIdentifier name then openCapture r (some name) rest else throw .malformed
  | .plain '=' :: ts => do
    let (name, rest) ← orMalformed (takeUntil ')' ts)
    let group ← orMalformed (r.groupNamed? name)
    let next ← r.pushReference group
    return (next, rest)
  | _ => .error .malformed

def applyOptions (r : PatternReading) (ts : List Tok) : ReadStep := do
  let (change, rest) ← orMalformed (readOptionChange r.kind ts)
  match change with
  | .here on off => return (r.enter .plain (r.level.options.change on off), rest)
  | .everywhere on =>
    if r.outer.isEmpty && r.level.isUntouched then
      let level := { r.level with options := r.level.options.change on [] }
      return ({ r with level := level, global := r.global ++ on }, rest)
    else throw .malformed

/-- From behind an opening parenthesis. -/
def readOpening (r : PatternReading) (ts : List Tok) : ReadStep :=
  let o := r.level.options
  match ts with
  | .plain '?' :: .plain c :: rest =>
    match c with
    | 'P' => readNamed r rest
    | ':' => .ok (r.enter .plain o, rest)
    | '#' => do
      let (_, rest) ← orMalformed (takeUntil ')' rest)
      return (r, rest)
    | '=' => .ok (r.enter (.ahead false) o, rest)
    | '!' => .ok (r.enter (.ahead true) o, rest)
    | '<' => match rest with
      | .plain '=' :: rest => openBehind r false rest
      | .plain '!' :: rest => openBehind r true rest
      | _ => .error .malformed
    | '(' => openEither r rest
    | '>' => .ok (r.enter .atomic o, rest)
    | _ => if c = '-' || isOptionLetter c then applyOptions r (.plain c :: rest) else .error .malformed
  | .plain '?' :: _ => .error .malformed
  | _ => openCapture r none ts

/-- What a closing parenthesis makes of its level. -/
def PatternReading.close (r : PatternReading) (outer : GroupLevel) (others : List GroupLevel) : PatternReading :=
  let p := Pattern.any r.level.branches
  let width := p.width r.closed
  let leave (q : Pattern) : PatternReading := { r with level := outer.push ⟨q, .plain⟩, outer := others }
  match r.level.enclosure with
  | .whole | .plain => leave p
  | .capture g => { leave (.capture g p) with closed := (g, width) :: r.closed }
  | .atomic => leave (.atomic p)
  | .ahead negated => leave (.ahead negated p)
  | .behind negated outermost =>
    { leave (.behind negated width.1 p) with
      behindFrom := if outermost then none else r.behindFrom
      unfixed := r.unfixed || width.2 != some width.1 || countBound < width.1 }
  | .either g =>
    match r.level.branches with
    | [present, absent] => leave (.either g present absent)
    | _ => leave (.either g p .empty)

def readBar (r : PatternReading) (ts : List Tok) : ReadStep :=
  match r.level.enclosure, r.level.alternatives with
  | .either _, _ :: _ => .error .malformed
  | _, _ =>
    .ok ({ r with level := { r.level with alternatives := r.level.sequence :: r.level.alternatives, items := [] } }, ts)

/-! ## The walk -/

/-- White space that a spaced pattern leaves out. -/
def isLayout (c : Char) : Bool := isAsciiBlank c

/-- From the mark of a comment in a spaced pattern to behind the end of its line. -/
def skipComment : List Tok → List Tok
  | [] => []
  | t :: ts => if t = .plain '\n' then ts else if t = .dangling then [t] else skipComment ts

def readPlain (r : PatternReading) (c : Char) (ts : List Tok) : ReadStep :=
  let o := r.level.options
  if o.spaced && isLayout c then .ok (r, ts)
  else if o.spaced && c = '#' then .ok (r, skipComment ts)
  else match c with
    | '.' => .ok (r.push (.one ⟨if o.dotTakesNewline then [] else [.single '\n'], true, .exact⟩) .plain, ts)
    | '^' => .ok (r.push (.anchor (if o.lineAnchors then .lineStart else .textStart)) .anchor, ts)
    | '$' => .ok (r.push (.anchor (if o.lineAnchors then .lineEnd else .lastLineEnd)) .anchor, ts)
    | '*' => repeatLast r 0 none ts
    | '+' => repeatLast r 1 none ts
    | '?' => repeatLast r 0 (some 1) ts
    | '{' => readBraces r ts
    | '[' => do
      let (negated, members, rest) ← orMalformed (readClass r.host r.kind ts)
      return (r.push (oneOf o.folding o.asciiOnly negated members) .plain, rest)
    | '(' => readOpening r ts
    | '|' => readBar r ts
    | _ => .ok (r.literal c, ts)

/-- A closing parenthesis at the outermost level ends the walk and leaves its token. -/
def readTokens : Nat → PatternReading → List Tok → ReadStep
  | 0, r, ts => .ok (r, ts)
  | _ + 1, r, [] => .ok (r, [])
  | fuel + 1, r, t :: ts =>
    match t with
    | .dangling => .error .malformed
    | .escaped c => do
      let (next, rest) ← readEscape r c ts
      readTokens fuel next rest
    | .plain ')' =>
      match r.outer with
      | [] => .ok (r, t :: ts)
      | outer :: others => readTokens fuel (r.close outer others) ts
    | .plain c => do
      let (next, rest) ← readPlain r c ts
      if r.host.patternCalls < next.calls then throw .tooDeep
      readTokens fuel next rest

/-- The faults that show at the end. -/
def PatternReading.finish (r : PatternReading) (left : List Tok) : Except PatternFault Pattern :=
  if !r.outer.isEmpty then .error .malformed
  else if r.kind.conflicts r.global then .error .conflictingOptions
  else if !left.isEmpty then .error .malformed
  else if r.asked.any (r.groups < ·) then .error .malformed
  else if r.unfixed || (r.global.contains 't' && r.repeats) then .error .malformed
  else .ok (Pattern.any r.level.branches)

def readPatternOf (kind : PatternKind) (host : Host) (t : Text) : Except PatternFault Pattern := do
  let ts := patternTokens t
  let (r, left) ← readTokens ts.length (.start host kind) ts
  r.finish left

def readPattern (host : Host) (t : Text) : Except PatternFault Pattern := readPatternOf .text host t

/-- Bytes stand for the characters of their numbers. -/
def readBytesPattern (host : Host) (bs : Bytes) : Except PatternFault Pattern :=
  readPatternOf .bytes host (bs.map fun b => Char.ofNat b.toNat)

end EnvAudit

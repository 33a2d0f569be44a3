import EnvAudit.Yaml.Token
import EnvAudit.Pattern.Token
/-!
# Quoted scalars

Between single quotes only the quote itself is written specially, twice.  Between double quotes a backslash begins an
escape, or joins a line to the next.  In both a line break with the white space around it is read as one space, and
further breaks stand for themselves.
-/
namespace EnvAudit.Yaml

def escapeChar? : Char → Option Char
  | '0' => some '\x00'
  | 'a' => some '\x07'
  | 'b' => some '\x08'
  | 't' => some '\t'
  | '\t' => some '\t'
  | 'n' => some '\n'
  | 'v' => some '\x0b'
  | 'f' => some '\x0c'
  | 'r' => some '\r'
  | 'e' => some '\x1b'
  | ' ' => some ' '
  | '"' => some '"'
  | '\\' => some '\\'
  | '/' => some '/'
  | 'N' => some '\x85'
  | '_' => some '\xa0'
  | 'L' => some '\u2028'
  | 'P' => some '\u2029'
  | _ => none

def escapeWidth? : Char → Option Nat
  | 'x' => some 2
  | 'u' => some 4
  | 'U' => some 8
  | _ => none

/-- A character by number; half a surrogate pair becomes the replacement character. -/
def charOfCode (n : Nat) : Except Fault Char :=
  if Nat.pow 2 31 ≤ n then .error .characterTooLarge
  else if 0x110000 ≤ n then .error .noSuchCharacter
  else if 0xD800 ≤ n && n < 0xE000 then .ok replacement
  else .ok (Char.ofNat n)

def readCode (width : Nat) (ms : Marks) : Except Fault (Char × Marks) := do
  let digits := (ms.take width).map (·.char)
  if digits.length = width && digits.all isHexDigit then
    let c ← charOfCode (numberIn 16 digits)
    return (c, ms.drop width)
  else throw .malformed

/-! ## Line folding -/

/-- Empty lines and indentation after a line break; a document mark may not stand here. -/
def foldedBreaks : Nat → Marks → Except Fault (Text × Marks)
  | 0, _ => .error .malformed
  | fuel + 1, ms =>
    if atDocumentMark ms then .error .malformed
    else
      let ms := skipWhile ms fun c => c = ' ' || c = '\t'
      match lineBreak? ms with
      | some (c, rest) => (foldedBreaks fuel rest).map fun (t, after) => (c :: t, after)
      | none => .ok ([], ms)

/-- A line break already taken, with the breaks after it. -/
def foldBreaks (lineBreak : Char) (more : Text) : Text :=
  (if lineBreak ≠ '\n' then [lineBreak] else if more.isEmpty then [' '] else []) ++ more

/-! ## The walk -/

/-- From behind the opening quote to behind the closing one. -/
def readQuoted (isDouble : Bool) : Nat → Marks → Except Fault (Text × Marks)
  | 0, _ => .error .malformed
  | _ + 1, [] => .error .malformed
  | fuel + 1, m :: ms =>
    let go (t : Text) (rest : Marks) : Except Fault (Text × Marks) :=
      (readQuoted isDouble fuel rest).map fun (u, after) => (t ++ u, after)
    let c := m.char
    if c = (if isDouble then '"' else '\'') then
      if !isDouble && peek ms = '\'' then go ['\''] (ms.drop 1) else .ok ([], ms)
    else if c = '\\' && isDouble then
      let e := peek ms
      match escapeChar? e with
      | some x => go [x] (ms.drop 1)
      | none => match escapeWidth? e with
        | some width => do
          let (x, rest) ← readCode width (ms.drop 1)
          go [x] rest
        | none => match lineBreak? ms with
          | some (_, rest) => do
            let (t, rest) ← foldedBreaks rest.length rest
            go t rest
          | none => .error .malformed
    else if c = ' ' || c = '\t' || isBreak c then
      let blanks := takeText (m :: ms) (fun c => c = ' ' || c = '\t')
      let rest := skipWhile (m :: ms) (fun c => c = ' ' || c = '\t')
      match lineBreak? rest with
      | some (b, rest) => do
        let (more, rest) ← foldedBreaks rest.length rest
        go (foldBreaks b more) rest
      | none => go blanks rest
    else if isEnd c then .error .malformed
    else go [c] ms

end EnvAudit.Yaml

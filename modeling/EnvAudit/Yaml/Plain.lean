import EnvAudit.Yaml.Token
/-!
# Plain scalars

A plain scalar runs to a comment, to a colon that is followed by a gap, or, inside brackets, to an indicator of the
collection.  It may go on over lines that are indented deeply enough; a line break between two of its words is read
as a space.
-/
namespace EnvAudit.Yaml

def isFlowIndicator (c : Char) : Bool := c = ',' || c = '[' || c = ']' || c = '\x7b' || c = '\x7d'

/-- Whether a plain word stops before a character, given the one after it. -/
def endsPlain (inFlow : Bool) (c next : Char) : Bool :=
  isGap c || (c = ':' && (isGap next || (inFlow && isFlowIndicator next))) ||
    (inFlow && (c = '?' || isFlowIndicator c))

def plainWord (inFlow : Bool) : Marks → Text × Marks
  | [] => ([], [])
  | m :: ms =>
    if endsPlain inFlow m.char (peek ms) then ([], m :: ms)
    else let (t, rest) := plainWord inFlow ms; (m.char :: t, rest)

/-- Empty lines between two words, unless a document mark follows one of them. -/
def plainBreaks : Nat → Marks → Option Text × Marks
  | 0, ms => (some [], ms)
  | fuel + 1, ms =>
    let ms := skipSpaces ms
    match lineBreak? ms with
    | none => (some [], ms)
    | some (c, rest) =>
      if atDocumentMark rest then (none, rest)
      else match plainBreaks fuel rest with
        | (some t, after) => (some (c :: t), after)
        | (none, after) => (none, after)

/-- The white space between two words, read as it will be kept, and whether it holds a line break.  Nothing is kept
where the scalar has to end. -/
def plainGap (ms : Marks) : Text × Bool × Marks :=
  let blanks := takeText ms (· = ' ')
  let rest := skipSpaces ms
  match lineBreak? rest with
  | none => (blanks, false, rest)
  | some (b, rest) =>
    if atDocumentMark rest then ([], true, rest)
    else match plainBreaks rest.length rest with
      | (none, after) => ([], true, after)
      | (some more, after) =>
        ((if b ≠ '\n' then [b] else if more.isEmpty then [' '] else []) ++ more, true, after)

/-- The text of a plain scalar, whether white space with a line break was taken after its last word, and the rest. -/
def readPlain (inFlow : Bool) (indent : Nat) : Nat → Text → Bool → Marks → Text × Bool × Marks
  | 0, _, crossed, ms => ([], crossed, ms)
  | fuel + 1, gap, crossed, ms =>
    if peek ms = '#' then ([], crossed, ms)
    else
      let (word, rest) := plainWord inFlow ms
      if word.isEmpty then ([], crossed, ms)
      else
        let (next, crossed, after) := plainGap rest
        if next.isEmpty || peek after = '#' || (!inFlow && columnOf after < indent) then (gap ++ word, crossed, after)
        else
          let (more, crossed, after) := readPlain inFlow indent fuel next crossed after
          (gap ++ word ++ more, crossed, after)

end EnvAudit.Yaml

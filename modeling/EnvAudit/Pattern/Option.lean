import EnvAudit.Pattern.Token
/-!
# Pattern options

The options that letters inside a pattern turn on and off: for the whole pattern, when they stand before anything
else, or for one group.
-/
namespace EnvAudit

structure PatternOptions where
  ignoreCase : Bool
  lineAnchors : Bool
  dotTakesNewline : Bool
  spaced : Bool
  asciiOnly : Bool
  deriving DecidableEq, Repr

namespace PatternOptions

def none : PatternOptions := ⟨false, false, false, false, false⟩

def folding (o : PatternOptions) : Folding :=
  if o.ignoreCase then (if o.asciiOnly then .ascii else .unicode) else .exact

def set (o : PatternOptions) (on : Bool) (letter : Char) : PatternOptions :=
  match letter with
  | 'i' => { o with ignoreCase := on }
  | 'm' => { o with lineAnchors := on }
  | 's' => { o with dotTakesNewline := on }
  | 'x' => { o with spaced := on }
  | 'a' => { o with asciiOnly := on }
  | 'u' => { o with asciiOnly := !on }
  | _ => o

def change (o : PatternOptions) (on off : Text) : PatternOptions :=
  off.foldl (set · false) (on.foldl (set · true) o)

end PatternOptions

def isOptionLetter (c : Char) : Bool := "iLmsxatu".toList.contains c

/-- Option letters inside a group's opening: for the whole pattern, or for the group whose contents follow. -/
inductive OptionChange where
  | everywhere (on : Text)
  | here (on off : Text)
  deriving DecidableEq, Repr

/-- The letter that chooses a character set, beside `a`. -/
def PatternKind.setLetter : PatternKind → Char
  | .text => 'u'
  | .bytes => 'L'

/-- The letter that is for patterns of the other kind. -/
def PatternKind.otherLetter : PatternKind → Char
  | .text => 'L'
  | .bytes => 'u'

/-- Two character sets are chosen. -/
def PatternKind.conflicts (kind : PatternKind) (on : Text) : Bool := on.contains 'a' && on.contains kind.setLetter

def mayTurnOn (kind : PatternKind) (on : Text) : Bool := !on.contains kind.otherLetter && !kind.conflicts on

/-- The letters that choose the character set, and the one that is for the whole pattern, cannot be turned off. -/
def mayTurnOff (off : Text) : Bool := !off.isEmpty && off.all fun c => !"aLut".toList.contains c

/-- Reads from the first letter, or from the dash, to the closing mark of the letters. -/
def readOptionChange (kind : PatternKind) (ts : List Tok) : Option (OptionChange × List Tok) :=
  let (on, afterOn) := takePlain isOptionLetter ts.length ts
  if !mayTurnOn kind on then none
  else match afterOn with
    | .plain ')' :: rest => if on.isEmpty then none else some (.everywhere on, rest)
    | .plain ':' :: rest => if on.isEmpty || on.contains 't' then none else some (.here on [], rest)
    | .plain '-' :: afterDash =>
      let (off, afterOff) := takePlain isOptionLetter afterDash.length afterDash
      match afterOff with
      | .plain ':' :: rest =>
        if mayTurnOff off && !on.contains 't' && !on.any off.contains then some (.here on off, rest) else none
      | _ => none
    | _ => none

end EnvAudit

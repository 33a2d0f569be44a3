import EnvAudit.World.Session
/-!
# Output

What commands show.  A control sequence of a terminal, which a value may hold, is taken out of every line that is
shown.
-/
namespace EnvAudit

open Session

/-! ## Control sequences

An escape, an opening bracket, parameters and a letter. -/

def isSequenceParameter (c : Char) : Bool := c.isDigit || c = ';' || c = '?'

/-- `held` is the part of a sequence that has been read, and is kept if the sequence breaks off. -/
def dropSequences (held : Text) : Text → Text
  | [] => held
  | c :: cs =>
    if c = '\x1b' then held ++ dropSequences [c] cs
    else if held.isEmpty then c :: dropSequences [] cs
    else if held.length = 1 then
      if c = '[' then dropSequences (held ++ [c]) cs else held ++ c :: dropSequences [] cs
    else if isSequenceParameter c then dropSequences (held ++ [c]) cs
    else if c.isAlpha then dropSequences [] cs
    else held ++ c :: dropSequences [] cs

def withoutSequences (t : Text) : Text := dropSequences [] t

/-! ## Lines -/

def echo (t : Text) : Session Unit := emit (.out (withoutSequences (t ++ ['\n'])))

def say (s : String) : Session Unit := echo s.toList

def echoAll : List Text → Session Unit
  | [] => pure ()
  | t :: ts => do
    echo t
    echoAll ts

/-- A line with bytes that are no characters cannot be shown. -/
def echoGlyphs (t : List Glyph) : Session Unit :=
  let char? : Glyph → Option Char := fun g => match g with
    | .char c => some c
    | .raw _ => none
  match t.mapM char? with
  | some cs => echo cs
  | none => fail .unencodable

def echoError (t : Text) : Session Unit := emit (.err (withoutSequences (t ++ ['\n'])))

/-- A title stands between two empty lines. -/
def heading (title : String) : Session Unit := echo ('\n' :: title.toList ++ ['\n'])

def success (t : Text) : Session Unit := echo ("✓ ".toList ++ t)

def warning (t : Text) : Session Unit := echo ("⚠️  ".toList ++ t)

/-! ## Ends -/

/-- The exit status of a command. -/
abbrev Status := Nat

def done : Status := 0

def failed : Status := 1

def misused : Status := 2

def complain (message : Text) : Session Unit := echoError ("Error: ".toList ++ message)

/-- Goes on with the value of an action, or reports the problem it meets. -/
def orComplain {α : Type} (s : Session α) (next : α → Session Status) : Session Status := do
  match ← attempt s with
  | .ok a => next a
  | .error p =>
    complain p.message
    return failed

end EnvAudit

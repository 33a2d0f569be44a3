import EnvAudit.Command.Misuse
import EnvAudit.Text.Similar
/-!
# Options

A word that begins with a dash and is more than a dash is an option.  A long option may carry its value behind an
equals sign; short options may share one word, and one that takes a value takes the rest of the word, or the next
word if the rest is empty.  Two dashes end the options.  A group takes options only before its first argument.
-/
namespace EnvAudit

structure OptionForm where
  long : Text
  short : Option Char
  takesValue : Bool
  deriving DecidableEq, Repr

def OptionForm.names (f : OptionForm) : List Text := f.long :: (f.short.map fun c => ['-', c]).toList

def flag (long : String) (short : Option Char) : OptionForm := ⟨long.toList, short, false⟩

def valued (long : String) (short : Option Char) : OptionForm := ⟨long.toList, short, true⟩

def helpOption : OptionForm := flag "--help" none

/-! ## Single words -/

/-- An option as it is given; the value of a flag is empty. -/
structure Given where
  option : Text
  value : Text
  deriving DecidableEq, Repr

/-- The options that a word gives, and the one that waits for the next word, with the name it is given by. -/
structure OptionWord where
  given : List Given
  waiting : Option (Text × Text)
  deriving DecidableEq, Repr

def readLongOption (f : OptionForm) (value : Option Text) : Except Misuse OptionWord :=
  match f.takesValue, value with
  | true, some v => .ok ⟨[⟨f.long, v⟩], none⟩
  | true, none => .ok ⟨[], some (f.long, f.long)⟩
  | false, some _ => .error (.takesNoValue f.long)
  | false, none => .ok ⟨[⟨f.long, []⟩], none⟩

def readShortOptions (forms : List OptionForm) : Text → Except Misuse OptionWord
  | [] => .ok ⟨[], none⟩
  | c :: cs =>
    match forms.find? fun f => f.short = some c with
    | none => .error (.noSuchOption ['-', c] [])
    | some f =>
      if f.takesValue then
        .ok (if cs.isEmpty then ⟨[], some (f.long, ['-', c])⟩ else ⟨[⟨f.long, cs⟩], none⟩)
      else (readShortOptions forms cs).map fun w => { w with given := ⟨f.long, []⟩ :: w.given }

def readOptionWord (forms : List OptionForm) (word : Text) : Except Misuse OptionWord :=
  let (name, value) := match cutOn ['='] word with
    | some (name, value) => (name, some value)
    | none => (word, none)
  match forms.find? fun f => f.long = name with
  | some f => readLongOption f value
  | none =>
    if startsWith ['-', '-'] word then .error (.noSuchOption name (similarTo name (forms.map (·.long))))
    else readShortOptions forms (word.drop 1)

/-! ## All words -/

structure Words where
  given : List Given
  arguments : List Text
  deriving DecidableEq, Repr

namespace Words

def isOption (word : Text) : Bool := word.head? = some '-' && 1 < word.length

def read (forms : List OptionForm) (isGroup : Bool) : List Text → Except Misuse Words
  | [] => .ok ⟨[], []⟩
  | word :: words =>
    if word = ['-', '-'] then .ok ⟨[], words⟩
    else if isOption word then
      match readOptionWord forms word with
      | .error m => .error m
      | .ok ⟨given, none⟩ => (read forms isGroup words).map fun w => { w with given := given ++ w.given }
      | .ok ⟨given, some (option, name)⟩ =>
        match words with
        | [] => .error (.needsValue name)
        | value :: rest =>
          (read forms isGroup rest).map fun w => { w with given := given ++ ⟨option, value⟩ :: w.given }
    else if isGroup then .ok ⟨[], word :: words⟩
    else (read forms isGroup words).map fun w => { w with arguments := word :: w.arguments }

def has (w : Words) (f : OptionForm) : Bool := w.given.any fun g => g.option = f.long

/-- The value of an option; of several the last one counts. -/
def value? (w : Words) (f : OptionForm) : Option Text :=
  (w.given.reverse.find? fun g => g.option = f.long).map (·.value)

end Words

end EnvAudit

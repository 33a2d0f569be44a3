import EnvAudit.Failure
import EnvAudit.Yaml.Mark
/-!
# YAML tokens and faults

Block structure is marked by tokens of its own: where a sequence or a mapping begins by indentation, and where it
ends.
-/
namespace EnvAudit.Yaml

/-- Everything the syntax refuses is `malformed`.  The other faults are values that the syntax allows and that say
nothing: they are told apart by what is wrong with them. -/
inductive Fault where
  | malformed
  /-- A truth value spelled in no known way. -/
  | noSuchTruth
  /-- A number whose digits do not make one. -/
  | noSuchNumber
  /-- A number without any characters. -/
  | emptyNumber
  /-- A time that is not written as one. -/
  | noSuchTime
  /-- A day or an hour that the calendar lacks. -/
  | noSuchDay
  /-- A code point above the last. -/
  | noSuchCharacter
  /-- A code point of 32 bits. -/
  | characterTooLarge
  /-- Collections inside one another beyond what the reader can follow. -/
  | tooDeep
  deriving DecidableEq, Repr

/-- What the fault is called where loading the document fails. -/
def Fault.cause : Fault → Cause
  | .malformed => .badYaml
  | .noSuchTruth => .failure .noKey
  | .noSuchNumber | .noSuchDay | .noSuchCharacter => .failure .badValue
  | .emptyNumber => .failure .noPosition
  | .noSuchTime => .failure .noAttribute
  | .characterTooLarge => .failure .tooLarge
  | .tooDeep => .failure .tooDeep

inductive Token where
  | streamEnd
  /-- A version directive, with its major number. -/
  | version (major : Nat)
  | tagHandle (handle lead : Text)
  | unknownDirective
  | documentStart
  | documentEnd
  | blockSequence
  | blockMapping
  | blockEnd
  | flowSequence
  | flowSequenceEnd
  | flowMapping
  | flowMappingEnd
  | entry
  | flowEntry
  | key
  | value
  | alias (name : Text)
  | anchor (name : Text)
  | tag (handle : Option Text) (suffix : Text)
  | scalar (text : Text) (isPlain : Bool)
  /-- What ends the tokens where the text cannot be read on. -/
  | fault (f : Fault)
  deriving DecidableEq, Repr

end EnvAudit.Yaml

import EnvAudit.Text.Quoted
/-!
# Misuse of the command line

What can be wrong with the words of a command line, and how it is said.  A misused command does nothing and ends
with status two.
-/
namespace EnvAudit

/-- Why a value does not suit its option. -/
inductive ValueFault where
  | notOneOf (value : Text) (choices : List Text)
  | notAnInteger (value : Text)
  | tooSmall (n least : Int)
  | noSuchPath (value : Text)
  deriving DecidableEq, Repr

def ValueFault.message : ValueFault → Text
  | .notOneOf value choices =>
    quoted value ++ " is not one of ".toList ++ joinWith ", ".toList (choices.map quoted) ++ ['.']
  | .notAnInteger value => quoted value ++ " is not a valid integer range.".toList
  | .tooSmall n least => decimalInt n ++ " is not in the range x>=".toList ++ decimalInt least ++ ['.']
  | .noSuchPath value => "Path ".toList ++ quoted value ++ " does not exist.".toList

inductive Misuse where
  | noSuchOption (name : Text) (similar : List Text)
  | noSuchCommand (name : Text) (similar : List Text)
  | needsValue (option : Text)
  | takesNoValue (option : Text)
  /-- An option by all its names. -/
  | badValue (option : List Text) (fault : ValueFault)
  | missingArgument (name : Text)
  | extraArguments (words : List Text)
  | missingCommand
  /-- No words at all, where some are needed. -/
  | nothingAsked
  deriving DecidableEq, Repr

/-- A message with the names that may have been meant. -/
def suggesting (message : Text) : List Text → Text
  | [] => message
  | [t] => message ++ " Did you mean ".toList ++ quoted t ++ ['?']
  | ts => message ++ " (Did you mean one of: ".toList ++ joinWith ", ".toList (ts.map quoted) ++ "?)".toList

/-- Nothing is said where nothing was asked. -/
def Misuse.message? : Misuse → Option Text
  | .noSuchOption name similar => suggesting ("No such option ".toList ++ quoted name ++ ['.']) similar
  | .noSuchCommand name similar => suggesting ("No such command ".toList ++ quoted name ++ ['.']) similar
  | .needsValue option => "Option ".toList ++ quoted option ++ " requires an argument.".toList
  | .takesNoValue option => "Option ".toList ++ quoted option ++ " does not take a value.".toList
  | .badValue option fault =>
    "Invalid value for ".toList ++ joinWith " / ".toList (option.map quoted) ++ ": ".toList ++ fault.message
  | .missingArgument name => "Missing argument ".toList ++ quoted name ++ ['.']
  | .extraArguments [w] => "Got unexpected extra argument (".toList ++ w ++ [')']
  | .extraArguments ws => "Got unexpected extra arguments (".toList ++ joinWith [' '] ws ++ [')']
  | .missingCommand => "Missing command.".toList
  | .nothingAsked => none

end EnvAudit

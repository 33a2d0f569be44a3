import EnvAudit.Text.Quoted
/-!
# Failures and problems

A `Problem` is something the program says about its input: a missing file, a document that cannot be loaded, a
setting that makes no sense.  Every command reports it and ends with status one.

A `Failure` is something the program does not foresee: a disk that refuses a write, a document of a shape that is
never asked about or nested beyond all bounds.  It ends the run.  When it happens while a document is loaded it becomes
the cause of a problem, and its label is what the message shows.
-/
namespace EnvAudit

inductive Failure where
  | badValue
  | wrongType
  | noAttribute
  | noKey
  | noPosition
  | tooLarge
  | undecodable
  | unencodable
  | missing
  | isDirectory
  | notDirectory
  | alreadyThere
  | notPermitted
  | nameTooLong
  | outOfMemory
  | tooDeep
  deriving DecidableEq, Repr

def Failure.label : Failure → Text
  | .badValue => "ValueError".toList
  | .wrongType => "TypeError".toList
  | .noAttribute => "AttributeError".toList
  | .noKey => "KeyError".toList
  | .noPosition => "IndexError".toList
  | .tooLarge => "OverflowError".toList
  | .undecodable => "UnicodeDecodeError".toList
  | .unencodable => "UnicodeEncodeError".toList
  | .missing => "FileNotFoundError".toList
  | .isDirectory => "IsADirectoryError".toList
  | .notDirectory => "NotADirectoryError".toList
  | .alreadyThere => "FileExistsError".toList
  | .notPermitted => "PermissionError".toList
  | .nameTooLong => "OSError".toList
  | .outOfMemory => "MemoryError".toList
  | .tooDeep => "RecursionError".toList

/-- Failures of the file system or of the process table. -/
def Failure.isSystem : Failure → Bool
  | .missing | .isDirectory | .notDirectory | .alreadyThere | .notPermitted | .nameTooLong => true
  | _ => false

/-! ## Loading documents -/

/-- What is wrong with a value that has been read: where, and of what kind. -/
structure Issue where
  place : List Text
  kind : Text
  deriving DecidableEq, Repr

def Issue.text (i : Issue) : Text := joinWith ['.'] i.place ++ ':' :: i.kind

/-- Why a document could not be loaded. -/
inductive Cause where
  | failure (f : Failure)
  | badYaml
  | badJson
  | badPattern
  | issues (is : List Issue)
  deriving DecidableEq, Repr

def Cause.label : Cause → Text
  | .failure f => f.label
  | .badYaml => "YAMLError".toList
  | .badJson => "JSONDecodeError".toList
  | .badPattern => "RegexError".toList
  | .issues is => "ValidationError ".toList ++ joinWith "; ".toList (is.map Issue.text)

def Cause.shown (c : Cause) : Text := '<' :: c.label ++ ['>']

/-! ## Problems -/

inductive Problem where
  /-- The path as it was given, and as it is shown. -/
  | envFileMissing (given path : Text)
  | schemaNotLoaded (path : Text) (cause : Cause)
  | tableNotLoaded (path : Text) (cause : Cause)
  | unknownSetting (key : Text)
  | notAnInteger (key shown : Text)
  | gitNotStarted (path reason : Text)
  | gitFailed (path : Text) (status : Int)
  deriving DecidableEq, Repr

def Problem.message : Problem → Text
  | .envFileMissing given _ => "File not found: ".toList ++ given
  | .schemaNotLoaded path cause => "Failed to load schema ".toList ++ path ++ ": ".toList ++ cause.shown
  | .tableNotLoaded _ cause => "Failed to load signatures file: ".toList ++ cause.shown
  | .unknownSetting key => "Invalid config key: ".toList ++ key
  | .notAnInteger key shown => "Config key ".toList ++ key ++ " expects an integer, got ".toList ++ shown
  | .gitNotStarted _ reason => "Cannot run git: ".toList ++ reason
  | .gitFailed _ status =>
    "git log exited with status ".toList ++ decimalInt status ++ " (not a git repository?)".toList

/-- The path a problem is about. -/
def Problem.path? : Problem → Option Text
  | .envFileMissing _ path => some path
  | .schemaNotLoaded path _ => some path
  | .tableNotLoaded path _ => some path
  | .gitNotStarted path _ => some path
  | .gitFailed path _ => some path
  | .unknownSetting _ | .notAnInteger _ _ => none

inductive Halt where
  | problem (p : Problem)
  | failure (f : Failure)
  deriving DecidableEq, Repr

end EnvAudit

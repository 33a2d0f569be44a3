import EnvAudit.Command.Option
import EnvAudit.Failure
import EnvAudit.Text.Integer
import EnvAudit.Text.LetterCase
/-!
# Commands

What a command line asks for.  The words before the name of a command are read first, then the name; the words behind
it are read by the command's own form.  Of several faults the first unknown or unfinished option counts, then a value
that does not suit its option, then a missing argument, then arguments that nothing takes.
-/
namespace EnvAudit

inductive HookCommand where
  | install (path : Text) (force : Bool)
  | uninstall (path : Text)
  | status (path : Text)
  | protect (path : Text) (verbose : Bool)
  deriving DecidableEq, Repr

/-- An absent text leaves the choice to the settings. -/
inductive Command where
  | validate (env schema : Option Text)
  | checkSecrets (envs : List Text) (showValues failOnFindings : Bool)
  | generateExample (env output : Option Text)
  | fix (env : Option Text) (dryRun : Bool)
  | scanHistory (path : Text) (depth : Option Int)
  | hooks (c : HookCommand)
  | showSettings
  | setSetting (key value : Text)
  deriving DecidableEq, Repr

/-! ## Names -/

inductive Topic where
  | validate
  | checkSecrets
  | generateExample
  | fix
  | scanHistory
  | hooks
  | config
  deriving DecidableEq, Repr

def Topic.name : Topic → Text
  | .validate => "validate".toList
  | .checkSecrets => "check-secrets".toList
  | .generateExample => "generate-example".toList
  | .fix => "fix".toList
  | .scanHistory => "scan-history".toList
  | .hooks => "hooks".toList
  | .config => "config".toList

def Topic.all : List Topic := [.validate, .checkSecrets, .generateExample, .fix, .scanHistory, .hooks, .config]

inductive HookTopic where
  | install
  | uninstall
  | status
  | protect
  deriving DecidableEq, Repr

def HookTopic.name : HookTopic → Text
  | .install => "install".toList
  | .uninstall => "uninstall".toList
  | .status => "status".toList
  | .protect => "protect".toList

def HookTopic.all : List HookTopic := [.install, .uninstall, .status, .protect]

inductive ConfigTopic where
  | showAll
  | set
  deriving DecidableEq, Repr

def ConfigTopic.name : ConfigTopic → Text
  | .showAll => "show".toList
  | .set => "set".toList

def ConfigTopic.all : List ConfigTopic := [.showAll, .set]

/-! ## Options -/

def schemaOption : OptionForm := valued "--schema" (some 's')
def showValuesOption : OptionForm := flag "--show-values" none
def failOnFindingsOption : OptionForm := flag "--fail-on-findings" none
def outputOption : OptionForm := valued "--output" (some 'o')
def dryRunOption : OptionForm := flag "--dry-run" none
def pathOption : OptionForm := valued "--path" (some 'p')
def depthOption : OptionForm := valued "--depth" (some 'd')
def forceOption : OptionForm := flag "--force" (some 'f')
def verboseOption : OptionForm := flag "--verbose" (some 'v')
def versionOption : OptionForm := flag "--version" none
def logLevelOption : OptionForm := valued "--log-level" none

/-! ## Reading -/

/-- Why a command line asks for no command: it is misused, the system fails while a value is checked, or it asks for
something else. -/
inductive Stop where
  | misuse (m : Misuse)
  | failure (f : Failure)
  | help
  | version
  deriving DecidableEq, Repr

abbrev Reading (α : Type) := Except Stop α

/-- Whether the system finds anything under a path. -/
abbrev Finder := Text → Except Failure Bool

def readWords (forms : List OptionForm) (isGroup : Bool) (words : List Text) : Reading Words :=
  match Words.read (forms ++ [helpOption]) isGroup words with
  | .error m => .error (.misuse m)
  | .ok w => if w.has helpOption then .error .help else .ok w

/-- An empty text counts as none. -/
def orNone (t : Option Text) : Option Text := t.filter fun t => !t.isEmpty

/-- The value of an option that names a path, which need not lead anywhere yet. -/
def readPath? (finder : Finder) (w : Words) (f : OptionForm) : Reading (Option Text) :=
  match w.value? f with
  | none => .ok none
  | some t => match finder t with
    | .error e => .error (.failure e)
    | .ok _ => .ok (some t)

/-- The value of an option that names a path which leads somewhere; the current directory if it is not given. -/
def readPresentPath (finder : Finder) (w : Words) (f : OptionForm) : Reading Text :=
  match w.value? f with
  | none => .ok ['.']
  | some t => match finder t with
    | .error e => .error (.failure e)
    | .ok false => .error (.misuse (.badValue f.names (.noSuchPath t)))
    | .ok true => .ok t

def leastDepth : Int := 1

def readDepth (w : Words) : Reading (Option Int) :=
  match w.value? depthOption with
  | none => .ok none
  | some t => match parseInteger? 10 t with
    | none => .error (.misuse (.badValue depthOption.names (.notAnInteger t)))
    | some n =>
      if n < leastDepth then .error (.misuse (.badValue depthOption.names (.tooSmall n leastDepth))) else .ok (some n)

def noArguments (w : Words) : Reading Unit :=
  if w.arguments.isEmpty then .ok () else .error (.misuse (.extraArguments w.arguments))

def oneArgument? (w : Words) : Reading (Option Text) :=
  match w.arguments with
  | [] => .ok none
  | [t] => .ok (orNone (some t))
  | _ :: more => .error (.misuse (.extraArguments more))

/-- The first of some names that a group's words begin with, and the words behind it. -/
def readTopic {α : Type} (topics : List α) (name : α → Text) (again : List Text → Reading Unit)
    (words : List Text) : Reading (α × List Text) :=
  match words with
  | [] => .error (.misuse .missingCommand)
  | word :: rest =>
    match topics.find? fun t => name t = word with
    | some t => .ok (t, rest)
    | none => do
      if !(word.head?.any Char.isAlphanum) then again words
      .error (.misuse (.noSuchCommand word (similarTo word (topics.map name))))

def readGroup {α : Type} (topics : List α) (name : α → Text) (words : List Text) : Reading (α × List Text) := do
  if words.isEmpty then .error (.misuse .nothingAsked)
  let w ← readWords [] true words
  readTopic topics name (fun ws => do let _ ← readWords [] true ws) w.arguments

def readHookCommand (finder : Finder) (topic : HookTopic) (words : List Text) : Reading HookCommand :=
  let read (forms : List OptionForm) : Reading (Words × Text) := do
    let w ← readWords (pathOption :: forms) false words
    let path ← readPresentPath finder w pathOption
    noArguments w
    return (w, path)
  match topic with
  | .install => do
    let (w, path) ← read [forceOption]
    return .install path (w.has forceOption)
  | .uninstall => do
    let (_, path) ← read []
    return .uninstall path
  | .status => do
    let (_, path) ← read []
    return .status path
  | .protect => do
    let (w, path) ← read [verboseOption]
    return .protect path (w.has verboseOption)

def readConfigCommand (topic : ConfigTopic) (words : List Text) : Reading Command := do
  let w ← readWords [] false words
  match topic with
  | .showAll =>
    noArguments w
    return .showSettings
  | .set =>
    match w.arguments with
    | [] => .error (.misuse (.missingArgument "KEY".toList))
    | [_] => .error (.misuse (.missingArgument "VALUE".toList))
    | [key, value] => return .setSetting key value
    | _ :: _ :: more => .error (.misuse (.extraArguments more))

def readCommand (finder : Finder) (topic : Topic) (words : List Text) : Reading Command := do
  match topic with
  | .validate =>
    let w ← readWords [schemaOption] false words
    let schema ← readPath? finder w schemaOption
    return .validate (← oneArgument? w) (orNone schema)
  | .checkSecrets =>
    let w ← readWords [showValuesOption, failOnFindingsOption] false words
    return .checkSecrets w.arguments (w.has showValuesOption) (w.has failOnFindingsOption)
  | .generateExample =>
    let w ← readWords [outputOption] false words
    let output ← readPath? finder w outputOption
    return .generateExample (← oneArgument? w) (orNone output)
  | .fix =>
    let w ← readWords [dryRunOption] false words
    return .fix (← oneArgument? w) (w.has dryRunOption)
  | .scanHistory =>
    let w ← readWords [pathOption, depthOption] false words
    let depth ← readDepth w
    noArguments w
    return .scanHistory ((w.value? pathOption).getD ['.']) depth
  | .hooks =>
    let (topic, words) ← readGroup HookTopic.all HookTopic.name words
    return .hooks (← readHookCommand finder topic words)
  | .config =>
    let (topic, words) ← readGroup ConfigTopic.all ConfigTopic.name words
    readConfigCommand topic words

/-! ## The whole line -/

def logLevelChoices : List Text := ["debug".toList, "info".toList, "warning".toList, "error".toList]

def readLogLevel (w : Words) : Reading (Option Text) :=
  match w.value? logLevelOption with
  | none => .ok none
  | some t =>
    if logLevelChoices.contains (lowercase t) then .ok (some t)
    else .error (.misuse (.badValue logLevelOption.names (.notOneOf t logLevelChoices)))

/-- What stands before the words of a command. -/
structure LineHead where
  logLevel : Option Text
  topic : Topic
  words : List Text
  deriving DecidableEq, Repr

/-- The options before the name of a command.  Help and the version go before every value. -/
def readLineOptions (words : List Text) : Reading (Option Text × List Text) :=
  match Words.read [versionOption, logLevelOption, helpOption] true words with
  | .error m => .error (.misuse m)
  | .ok w =>
    match w.given.find? fun g => g.option = helpOption.long || g.option = versionOption.long with
    | some g => .error (if g.option = helpOption.long then .help else .version)
    | none => do return (← readLogLevel w, w.arguments)

def readLineHead (words : List Text) : Reading LineHead := do
  if words.isEmpty then .error (.misuse .nothingAsked)
  let (logLevel, arguments) ← readLineOptions words
  let (topic, rest) ← readTopic Topic.all Topic.name (fun ws => do let _ ← readLineOptions ws) arguments
  return ⟨logLevel, topic, rest⟩

end EnvAudit

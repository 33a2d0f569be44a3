import EnvAudit.EnvFile.Example
import EnvAudit.EnvFile.Fix
import EnvAudit.EnvFile.Reader
import EnvAudit.Secret.Finding
import EnvAudit.World.Session
/-!
# Env files in a file tree

Reading, searching, fixing and describing the env files of a tree.  A path that leads to no regular file is a
problem, reported with the path as it was given.
-/
namespace EnvAudit

open Session

/-! ## Names

A path names an env file with real values if its last name begins with `.env` and does not end as an example does. -/

def exampleSuffixes : List Text := [".example".toList, ".sample".toList, ".template".toList]

def isEnvName (name : Text) : Bool := startsWith ".env".toList name && !exampleSuffixes.any fun s => endsWith s name

def isEnvPath (path : Text) : Bool := isEnvName (Path.ofText path).name

/-- The names that are looked for when no file is given. -/
def commonEnvNames : List Text := [
  ".env".toList, ".env.local".toList, ".env.development".toList, ".env.production".toList, ".env.test".toList,
  ".env.staging".toList]

/-! ## Reading -/

def parserLog : String := "envguard.core.parser"

/-- The content of an env file. -/
def envFileContent (given : Text) (p : Path) : Session Bytes := do
  if !(← isFile p) then problem (.envFileMissing given p.text)
  readFile p

def readVariables (given : Text) (p : Path) : Session (List Variable) := do
  let t := envTextOf (← envFileContent given p)
  for n in junkLines t do
    record parserLog .debug ("Skipping line ".toList ++ decimal n ++ ": not a KEY=VALUE assignment".toList)
  let vs := readEnv t
  record parserLog .debug ("Parsed ".toList ++ decimal vs.length ++ " variables from ".toList ++ p.text)
  return vs

/-- The well-known env files of a directory. -/
def findEnvFiles (directory : Path) : Session (List Path) :=
  (commonEnvNames.map directory.child).filterM isFile

/-! ## Secrets -/

def detectLogged (table : List Signature) (vs : List Variable) : Session (List Finding) := do
  let found := detect table vs
  record "envguard.core.detector" .debug
    ("Inspected ".toList ++ decimal vs.length ++ " variables, ".toList ++ decimal found.length ++ " findings".toList)
  return found

def detectInFile (table : List Signature) (given : Text) (p : Path) : Session (List Finding) := do
  detectLogged table (← readVariables given p)

/-! ## Fixes -/

def backupSuffix : Text := ".backup".toList

def backupOf (p : Path) : Path := p.withName (p.name ++ backupSuffix)

/-- The units of an env file, every byte kept. -/
def envUnitsOf (content : Bytes) : List Glyph := unifyNewlines (decodeKeeping content)

/-- The file as it is read goes to the backup before the fixed one takes its place; without a fix nothing changes. -/
def fixFile (given : Text) (dryRun : Bool) : Session (List (Fix Glyph)) := do
  let p := Path.ofText given
  let units := envUnitsOf (← envFileContent given p)
  let (fixed, fixes) := fixText units
  if !fixes.isEmpty && !dryRun then
    writeFile (backupOf p) (encodeGlyphs units)
    writeFile p (encodeGlyphs fixed)
    record "envguard.core.autofix" .info ("Applied ".toList ++ decimal fixes.length ++ " fixes to ".toList ++
      p.text ++ " (backup: ".toList ++ (backupOf p).text ++ [')'])
  return fixes

/-! ## Examples -/

/-- Reads all of the source before anything is written. -/
def writeExample (source target : Path) : Session Unit := do
  let vs ← readVariables source.text source
  writeFile target (encode (exampleText vs source.name))

end EnvAudit

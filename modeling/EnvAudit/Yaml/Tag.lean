import EnvAudit.Yaml.Token
import EnvAudit.Pattern.Token
/-!
# Directives, anchors and tags

The parts of a node that are written before it, and the directives before a document.
-/
namespace EnvAudit.Yaml

def isNameChar (c : Char) : Bool := isAsciiLetter c || isAsciiDigit c || c = '-' || c = '_'

def isUriChar (c : Char) : Bool :=
  isAsciiLetter c || isAsciiDigit c || "-;/?:@&=+$,_.!~*'()[]".toList.contains c

/-! ## Anchors -/

/-- What may follow a name without a space. -/
def endsAnchor (c : Char) : Bool := isGap c || "?:,]\x7d%@`".toList.contains c

/-- From behind the indicator of an anchor or an alias. -/
def readAnchorName (ms : Marks) : Except Fault (Text × Marks) :=
  let name := takeText ms isNameChar
  let rest := skipWhile ms isNameChar
  if name.isEmpty || !endsAnchor (peek rest) then .error .malformed else .ok (name, rest)

/-! ## Tags -/

/-- Bytes written by number, one after the other. -/
def readUriBytes : Nat → Marks → Option (Bytes × Marks)
  | 0, ms => some ([], ms)
  | fuel + 1, ms =>
    if peek ms ≠ '%' then some ([], ms)
    else
      let digits := ((ms.drop 1).take 2).map (·.char)
      if digits.length = 2 && digits.all isHexDigit then
        (readUriBytes fuel (ms.drop 3)).map fun (bs, rest) => (UInt8.ofNat (numberIn 16 digits) :: bs, rest)
      else none

def readUri : Nat → Marks → Option (Text × Marks)
  | 0, ms => some ([], ms)
  | fuel + 1, ms =>
    let c := peek ms
    if c = '%' then do
      let (bs, rest) ← readUriBytes ms.length ms
      let t ← decodeStrict bs
      let (u, after) ← readUri fuel rest
      some (t ++ u, after)
    else if isUriChar c then (readUri fuel (ms.drop 1)).map fun (u, after) => (c :: u, after)
    else some ([], ms)

/-- An identifier of at least one character. -/
def readUri? (ms : Marks) : Option (Text × Marks) :=
  (readUri ms.length ms).filter fun r => !r.1.isEmpty

/-- A handle between two exclamation marks, or one that is a single mark followed by a space. -/
def readHandle (ms : Marks) : Option (Text × Marks) :=
  if peek ms ≠ '!' then none
  else
    let rest := ms.drop 1
    if peek rest = ' ' then some (['!'], rest)
    else
      let name := takeText rest isNameChar
      let after := skipWhile rest isNameChar
      if peek after = '!' then some ('!' :: name ++ ['!'], after.drop 1) else none

/-- Whether a second exclamation mark stands in the word that begins here. -/
def hasHandle (ms : Marks) : Bool := (takeText ms fun c => !isWordEnd c).contains '!'

/-- From the exclamation mark. -/
def readTag (ms : Marks) : Except Fault (Token × Marks) :=
  let rest := ms.drop 1
  let found : Option (Option Text × Text × Marks) :=
    if peek rest = '<' then do
      let (uri, after) ← readUri? (rest.drop 1)
      if peek after = '>' then some (none, uri, after.drop 1) else none
    else if isGap (peek rest) then some (none, ['!'], rest)
    else if hasHandle rest then do
      let (handle, after) ← readHandle ms
      let (suffix, after) ← readUri? after
      some (some handle, suffix, after)
    else do
      let (suffix, after) ← readUri? rest
      some (some ['!'], suffix, after)
  match found with
  | some (handle, suffix, after) =>
    if isWordEnd (peek after) then .ok (.tag handle suffix, after) else .error .malformed
  | none => .error .malformed

/-! ## Directives -/

/-- Digits of a version, which are an integer like any other. -/
def readVersionNumber (ms : Marks) : Except Fault (Nat × Marks) :=
  let digits := takeText ms isAsciiDigit
  if digits.isEmpty then .error .malformed
  else if maxDecimalDigits < digits.length then .error .noSuchNumber
  else .ok (numberIn 10 digits, skipWhile ms isAsciiDigit)

def readVersion (ms : Marks) : Except Fault (Token × Marks) := do
  let (major, rest) ← readVersionNumber (skipSpaces ms)
  if peek rest ≠ '.' then throw .malformed
  let (_, after) ← readVersionNumber (rest.drop 1)
  if isWordEnd (peek after) then return (.version major, after) else throw .malformed

def readTagHandle (ms : Marks) : Option (Token × Marks) := do
  let (handle, rest) ← readHandle (skipSpaces ms)
  if peek rest ≠ ' ' then none
  else
    let (lead, after) ← readUri? (skipSpaces rest)
    if isWordEnd (peek after) then some (.tagHandle handle lead, after) else none

def orMalformed {α : Type} : Option α → Except Fault α
  | some a => .ok a
  | none => .error .malformed

/-- From behind the percent sign to the line after. -/
def readDirective (ms : Marks) : Except Fault (Token × Marks) :=
  let name := takeText ms isNameChar
  let rest := skipWhile ms isNameChar
  let found : Except Fault (Token × Marks) :=
    if name.isEmpty || !isWordEnd (peek rest) then .error .malformed
    else if name = "YAML".toList then readVersion rest
    else if name = "TAG".toList then orMalformed (readTagHandle rest)
    else .ok (.unknownDirective, skipToBreak rest)
  found.bind fun (t, after) => (orMalformed (skipIgnoredLine? after)).map fun final => (t, final)

end EnvAudit.Yaml

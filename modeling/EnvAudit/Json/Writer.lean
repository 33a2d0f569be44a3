import EnvAudit.Document.Value
/-!
# Writing JSON

Text outside printable ASCII is written as escapes, a character beyond the basic plane as a pair of them.  A
document is written over several lines: every item on a line of its own, indented by two for each level; an empty
list or map stays closed on one line.
-/
namespace EnvAudit

def jsonUnitEscape (n : Nat) : Text := '\\' :: 'u' :: hexDigits 4 n

def jsonEscaped (c : Char) : Text :=
  if c = '"' then "\\\"".toList
  else if c = '\\' then "\\\\".toList
  else if c = '\n' then "\\n".toList
  else if c = '\r' then "\\r".toList
  else if c = '\t' then "\\t".toList
  else if c = '\x08' then "\\b".toList
  else if c = '\x0c' then "\\f".toList
  else if 32 ≤ c.toNat && c.toNat < 127 then [c]
  else if c.toNat < 0x10000 then jsonUnitEscape c.toNat
  else
    let n := c.toNat - 0x10000
    jsonUnitEscape (0xD800 + n / 0x400) ++ jsonUnitEscape (0xDC00 + n % 0x400)

def jsonText (t : Text) : Text := '"' :: t.flatMap jsonEscaped ++ ['"']

def jsonNumberText (x : Float) : Text :=
  match partsOf x with
  | .finite _ => floatText x
  | .infinite negative => if negative then "-Infinity".toList else "Infinity".toList
  | .undefined => "NaN".toList

/-- A scalar; bytes and times, which JSON has no form for, are written as texts. -/
def jsonScalar : Scalar → Text
  | .null => "null".toList
  | .bool b => if b then "true".toList else "false".toList
  | .int n => decimalInt n
  | .num x => jsonNumberText x
  | .text t => jsonText t
  | .bytes b => jsonText (shownBytes b)
  | .moment m => jsonText m.text

/-- A member's name: texts as they are, other scalars as they are written. -/
def jsonName : Scalar → Text
  | .text t => jsonText t
  | s => jsonText (jsonScalar s)

/-! ## Layout -/

def jsonIndent (depth : Nat) : Text := '\n' :: List.replicate (2 * depth) ' '

/-- Items between two brackets, each on a line of its own. -/
def jsonBlock (opening closing : Char) (depth : Nat) (items : List Text) : Text :=
  if items.isEmpty then [opening, closing]
  else
    opening :: jsonIndent (depth + 1) ++ joinWith (',' :: jsonIndent (depth + 1)) items ++ jsonIndent depth ++ [closing]

mutual
def jsonAt (depth : Nat) : Value → Text
  | .scalar s => jsonScalar s
  | .list vs => jsonBlock '[' ']' depth (jsonItemsAt (depth + 1) vs)
  | .map es => jsonBlock '\x7b' '\x7d' depth (jsonMembersAt (depth + 1) es)
  | .members ks => jsonBlock '[' ']' depth (ks.map jsonScalar)
  | .pair a b => jsonBlock '[' ']' depth [jsonAt (depth + 1) a, jsonAt (depth + 1) b]

def jsonItemsAt (depth : Nat) : List Value → List Text
  | [] => []
  | v :: vs => jsonAt depth v :: jsonItemsAt depth vs

def jsonMembersAt (depth : Nat) : List (Scalar × Value) → List Text
  | [] => []
  | (k, v) :: es => (jsonName k ++ ": ".toList ++ jsonAt depth v) :: jsonMembersAt depth es
end

def Value.json (v : Value) : Text := jsonAt 0 v

/-! ## Writing that fails

An integer with too many digits cannot be written, and what stands before it has been. -/

mutual
/-- What is written before the first scalar that cannot be; nothing if there is none. -/
def beforeFaultAt (depth : Nat) : Value → Option Text
  | .scalar s => s.shownFault?.map fun _ => []
  | .list vs => (itemsBeforeFault (depth + 1) vs).map fun t => '[' :: jsonIndent (depth + 1) ++ t
  | .map es => (membersBeforeFault (depth + 1) es).map fun t => '\x7b' :: jsonIndent (depth + 1) ++ t
  | .members _ => none
  | .pair _ _ => none

def itemsBeforeFault (depth : Nat) : List Value → Option Text
  | [] => none
  | v :: vs =>
    match beforeFaultAt depth v with
    | some t => some t
    | none => (itemsBeforeFault depth vs).map fun t => jsonAt depth v ++ ',' :: jsonIndent depth ++ t

def membersBeforeFault (depth : Nat) : List (Scalar × Value) → Option Text
  | [] => none
  | (k, v) :: es =>
    match beforeFaultAt depth v with
    | some t => some (jsonName k ++ ": ".toList ++ t)
    | none => (membersBeforeFault depth es).map fun t =>
        jsonName k ++ ": ".toList ++ jsonAt depth v ++ ',' :: jsonIndent depth ++ t
end

def Value.jsonBeforeFault? (v : Value) : Option Text := beforeFaultAt 0 v

/-! ## One line

The same document without layout, for a reader that takes one document a line. -/

mutual
def jsonLine : Value → Text
  | .scalar s => jsonScalar s
  | .list vs => '[' :: joinWith [','] (jsonLineItems vs) ++ [']']
  | .map es => '\x7b' :: joinWith [','] (jsonLineMembers es) ++ ['\x7d']
  | .members ks => '[' :: joinWith [','] (ks.map jsonScalar) ++ [']']
  | .pair a b => '[' :: jsonLine a ++ ',' :: jsonLine b ++ [']']

def jsonLineItems : List Value → List Text
  | [] => []
  | v :: vs => jsonLine v :: jsonLineItems vs

def jsonLineMembers : List (Scalar × Value) → List Text
  | [] => []
  | (k, v) :: es => (jsonName k ++ ':' :: jsonLine v) :: jsonLineMembers es
end

end EnvAudit

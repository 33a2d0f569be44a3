import EnvAudit.Json.Token
import EnvAudit.Document.Value
import EnvAudit.Failure
/-!
# Reading JSON

The reader is a descent over the tokens.  Beside the standard literals it takes `NaN`, `Infinity` and `-Infinity`.
Of two members with one name the later gives the value and the earlier the place.  An integer with too many digits
is well formed but cannot be held, which is a fault of its own, and so is a value that goes deeper than the levels that
the reader has: each list and each map takes one, and so does a number that is looked up by its name.
-/
namespace EnvAudit

inductive JsonFault where
  | malformed
  | integerTooLong
  | tooDeep
  deriving DecidableEq, Repr

/-- What the fault is called where loading the document fails. -/
def JsonFault.cause : JsonFault → Cause
  | .malformed => .badJson
  | .integerTooLong => .failure .badValue
  | .tooDeep => .failure .tooDeep

/-- The names of the numbers that have no digits. -/
def jsonNumberNames : List Text := ["NaN".toList, "Infinity".toList, "-Infinity".toList]

def namesJsonNumber (w : Text) : Bool := jsonNumberNames.any fun name => startsWith name w

def readJsonWord (w : Text) : Except JsonFault Value :=
  if w = "null".toList then .ok .null
  else if w = "true".toList then .ok (.bool true)
  else if w = "false".toList then .ok (.bool false)
  else if w = "NaN".toList then .ok (.num (0.0 / 0.0))
  else if w = "Infinity".toList then .ok (.num (1.0 / 0.0))
  else if w = "-Infinity".toList then .ok (.num (-1.0 / 0.0))
  else match jsonNumber? w with
    | none => .error .malformed
    | some (n, rest) =>
      if n.isInteger && maxDecimalDigits < n.whole.length then .error .integerTooLong
      else if !rest.isEmpty then .error .malformed
      else if n.isInteger then .ok (.int n.integer)
      else .ok (.num n.float)

mutual
def readJsonValue (levels : Nat) : Nat → List JsonToken → Except JsonFault (Value × List JsonToken)
  | 0, _ => .error .malformed
  | _ + 1, [] => .error .malformed
  | fuel + 1, t :: ts =>
    match t, levels with
    | .text s, _ => .ok (.text s, ts)
    | .word w, _ =>
      if levels = 0 && namesJsonNumber w then .error .tooDeep else (readJsonWord w).map fun v => (v, ts)
    | .mark '[', 0 => .error .tooDeep
    | .mark '[', inner + 1 =>
      match ts with
      | .mark ']' :: rest => .ok (.list [], rest)
      | _ => (readJsonItems inner fuel ts).map fun (vs, rest) => (.list vs, rest)
    | .mark '\x7b', 0 => .error .tooDeep
    | .mark '\x7b', inner + 1 =>
      match ts with
      | .mark '\x7d' :: rest => .ok (.map [], rest)
      | _ => (readJsonMembers inner fuel ts).map fun (es, rest) => (.map (Entries.ofPairs es), rest)
    | _, _ => .error .malformed

/-- One item or more, up to the closing bracket. -/
def readJsonItems (levels : Nat) : Nat → List JsonToken → Except JsonFault (List Value × List JsonToken)
  | 0, _ => .error .malformed
  | fuel + 1, ts => do
    let (v, rest) ← readJsonValue levels fuel ts
    match rest with
    | .mark ']' :: after => return ([v], after)
    | .mark ',' :: after =>
      let (vs, after) ← readJsonItems levels fuel after
      return (v :: vs, after)
    | _ => throw .malformed

/-- One member or more, up to the closing brace. -/
def readJsonMembers (levels : Nat) : Nat → List JsonToken → Except JsonFault (List (Scalar × Value) × List JsonToken)
  | 0, _ => .error .malformed
  | fuel + 1, ts =>
    match ts with
    | .text k :: .mark ':' :: rest => do
      let (v, rest) ← readJsonValue levels fuel rest
      match rest with
      | .mark '\x7d' :: after => return ([(.text k, v)], after)
      | .mark ',' :: after =>
        let (es, after) ← readJsonMembers levels fuel after
        return ((.text k, v) :: es, after)
      | _ => throw .malformed
    | _ => .error .malformed
end

/-- A value takes at most two calls for each of its tokens. -/
def readJson (levels : Nat) (t : Text) : Except JsonFault Value := do
  let ts := jsonTokens t
  let (v, rest) ← readJsonValue levels (2 * ts.length + 1) ts
  if rest.isEmpty then return v else throw .malformed

end EnvAudit

import EnvAudit.Document.Moment
import EnvAudit.Failure
import EnvAudit.Text.Integer
import EnvAudit.Text.Utf8
import EnvAudit.Number.Binary64
/-!
# Documents

The value that a settings file, a schema or a signature table holds before anything is known about its shape: a
scalar, a list, or a map in the order of its entries.  Sets and pairs come from documents that ask for them by tag;
no part of the program wants one, but each has to be told from a list and a map.
-/
namespace EnvAudit

inductive Scalar where
  | null
  | bool (b : Bool)
  | int (n : Int)
  | num (x : Float)
  | text (t : Text)
  | bytes (b : Bytes)
  | moment (m : Moment)
  deriving Repr, Inhabited

inductive Value where
  | scalar (s : Scalar)
  | list (vs : List Value)
  | map (es : List (Scalar × Value))
  | members (ks : List Scalar)
  | pair (a b : Value)
  deriving Repr, Inhabited

abbrev Entries := List (Scalar × Value)

namespace Value

abbrev null : Value := .scalar .null
abbrev bool (b : Bool) : Value := .scalar (.bool b)
abbrev int (n : Int) : Value := .scalar (.int n)
abbrev num (x : Float) : Value := .scalar (.num x)
abbrev text (t : Text) : Value := .scalar (.text t)

def text? : Value → Option Text
  | .scalar (.text t) => some t
  | _ => none

def isNull : Value → Bool
  | .scalar .null => true
  | _ => false

end Value

/-! ## Keys

Two keys are the same when they are the same text, the same bytes, or equal as numbers; a truth value counts as zero
or one. -/

/-- The value of a float that is a whole number. -/
def wholeValue? (x : Float) : Option Int :=
  match partsOf x with
  | .finite d =>
    let (num, den) := d.fraction
    if num % den = 0 then truncate? x else none
  | _ => none

def Scalar.integer? : Scalar → Option Int
  | .bool b => some (if b then 1 else 0)
  | .int n => some n
  | .num x => wholeValue? x
  | _ => none

def Scalar.sameKey : Scalar → Scalar → Bool
  | .null, .null => true
  | .text a, .text b => a = b
  | .bytes a, .bytes b => a = b
  | .moment a, .moment b => a.same b
  | .num x, .num y => x == y
  | a, b => match a.integer?, b.integer? with
    | some m, some n => m = n
    | _, _ => false

namespace Entries

def get? (es : Entries) (k : Scalar) : Option Value :=
  (es.find? fun e => e.1.sameKey k).map (·.2)

def getText? (es : Entries) (k : Text) : Option Value := es.get? (.text k)

/-- An entry that is there keeps its place and its key and takes the new value. -/
def put (k : Scalar) (v : Value) : Entries → Entries
  | [] => [(k, v)]
  | e :: es => if e.1.sameKey k then (e.1, v) :: es else e :: put k v es

/-- Entries in the order of first appearance, each with its last value. -/
def ofPairs (es : List (Scalar × Value)) : Entries := es.foldl (fun m e => put e.1 e.2 m) []

end Entries

/-! ## Truth

What counts as empty where a document is asked whether it says anything at all. -/

def Scalar.isTruthy : Scalar → Bool
  | .null => false
  | .bool b => b
  | .int n => n ≠ 0
  | .num x => !(x == 0.0)
  | .text t => !t.isEmpty
  | .bytes b => !b.isEmpty
  | .moment _ => true

def Value.isTruthy : Value → Bool
  | .scalar s => s.isTruthy
  | .list vs => !vs.isEmpty
  | .map es => !es.isEmpty
  | .members ks => !ks.isEmpty
  | .pair _ _ => true

/-! ## The text of a value

Inside a message a value is shown so that its kind can be seen: texts in quotes, lists in brackets, maps in braces.
On its own a text stands for itself, and a moment is written as on a calendar. -/

/-- Bytes are shown as quoted text whose characters beyond ASCII are escapes. -/
def shownBytes (bs : Bytes) : Text :=
  let t : Text := bs.map fun b => Char.ofNat b.toNat
  let quote := if t.contains '\'' && !t.contains '"' then '"' else '\''
  let shown (c : Char) : Text := if c.toNat < 128 then escapeFor quote c else '\\' :: 'x' :: hexDigits 2 c.toNat
  'b' :: quote :: t.flatMap shown ++ [quote]

def Scalar.shown : Scalar → Text
  | .null => "None".toList
  | .bool b => if b then "True".toList else "False".toList
  | .int n => decimalInt n
  | .num x => floatText x
  | .text t => quoted t
  | .bytes b => shownBytes b
  | .moment m => m.shown

def commaSeparated (ts : List Text) : Text := joinWith ", ".toList ts

mutual
def Value.shown : Value → Text
  | .scalar s => s.shown
  | .list vs => '[' :: commaSeparated (shownList vs) ++ [']']
  | .map es => '\x7b' :: commaSeparated (shownEntries es) ++ ['\x7d']
  | .members [] => "set()".toList
  | .members ks => '\x7b' :: commaSeparated (ks.map Scalar.shown) ++ ['\x7d']
  | .pair a b => '(' :: a.shown ++ ", ".toList ++ b.shown ++ [')']

def shownList : List Value → List Text
  | [] => []
  | v :: vs => v.shown :: shownList vs

def shownEntries : List (Scalar × Value) → List Text
  | [] => []
  | (k, v) :: es => (k.shown ++ ": ".toList ++ v.shown) :: shownEntries es
end

def Value.plain : Value → Text
  | .scalar (.text t) => t
  | .scalar (.moment m) => m.text
  | v => v.shown

/-! ## Limits

An integer with too many digits has no text, and a value has one only if no more values are inside one another than there
are levels below it.  What is met first in the order of the text is what fails. -/

def Scalar.shownFault? : Scalar → Option Failure
  | .int n => if maxDecimalDigits < (decimal n.natAbs).length then some .badValue else none
  | _ => none

mutual
def Value.shownFault? : Nat → Value → Option Failure
  | _, .scalar s => s.shownFault?
  | levels, .list vs => itemsFault? levels vs
  | levels, .map es => entriesFault? levels es
  | _, .members [] => none
  | 0, .members _ => some .tooDeep
  | _ + 1, .members ks => ks.findSome? Scalar.shownFault?
  | 0, .pair _ _ => some .tooDeep
  | levels + 1, .pair a b => (a.shownFault? levels).or (b.shownFault? levels)

def itemsFault? : Nat → List Value → Option Failure
  | _, [] => none
  | 0, _ :: _ => some .tooDeep
  | levels + 1, v :: vs => (v.shownFault? levels).or (itemsFault? (levels + 1) vs)

def entriesFault? : Nat → List (Scalar × Value) → Option Failure
  | _, [] => none
  | 0, _ :: _ => some .tooDeep
  | levels + 1, (k, v) :: es => (k.shownFault?.or (v.shownFault? levels)).or (entriesFault? (levels + 1) es)
end

def Value.plainWithin (levels : Nat) (v : Value) : Except Failure Text :=
  match v.shownFault? levels with
  | some f => .error f
  | none => .ok v.plain

theorem Value.plainWithin_of_shownFault? {levels : Nat} {v : Value} (h : v.shownFault? levels = none) :
    v.plainWithin levels = .ok v.plain := by
  rw [plainWithin, h]

mutual
/-- The calls inside one another that copying a value takes: two for each level, and three for a scalar. -/
def Value.calls : Value → Nat
  | .scalar _ => 3
  | .list vs => 2 + itemCalls vs
  | .map es => 2 + entryCalls es
  | .members [] => 2
  | .members _ => 5
  | .pair a b => 2 + max a.calls b.calls

def itemCalls : List Value → Nat
  | [] => 0
  | v :: vs => max v.calls (itemCalls vs)

def entryCalls : List (Scalar × Value) → Nat
  | [] => 0
  | (_, v) :: es => max 3 (max v.calls (entryCalls es))
end

end EnvAudit

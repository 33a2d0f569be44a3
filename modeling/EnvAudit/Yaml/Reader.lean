import EnvAudit.Yaml.Scan
import EnvAudit.Yaml.Document
import EnvAudit.Yaml.Time
import EnvAudit.Document.Value
/-!
# From a document to a value

Scalars are read by their tags.  A document can hold more than one scalar that says nothing; the one reported is the
first of the level nearest to the root, because a collection is filled only after the collection it stands in.
-/
namespace EnvAudit.Yaml

/-! ## Scalars -/

def readTruth (t : Text) : Except Fault Scalar :=
  let low := lowercase t
  if ["yes".toList, "true".toList, "on".toList].contains low then .ok (.bool true)
  else if ["no".toList, "false".toList, "off".toList].contains low then .ok (.bool false)
  else .error .noSuchTruth

def orNoNumber {α : Type} : Option α → Except Fault α
  | some a => .ok a
  | none => .error .noSuchNumber

/-- A sign, if there is one, and what follows it. -/
def splitSign : Text → Bool × Text
  | '-' :: t => (true, t)
  | '+' :: t => (false, t)
  | t => (false, t)

/-- Parts that each count sixty of the next. -/
def sexagesimal (parts : List Int) : Int := parts.foldl (fun n d => n * 60 + d) 0

def readInt (t : Text) : Except Fault Scalar :=
  let t := t.filter (· ≠ '_')
  if t.isEmpty then .error .emptyNumber
  else
    let (negative, digits) := splitSign t
    let signed (n : Int) : Scalar := .int (if negative then -n else n)
    match digits with
    | [] => .error .emptyNumber
    | ['0'] => .ok (.int 0)
    | '0' :: 'b' :: rest => (orNoNumber (parseInteger? 2 rest)).map signed
    | '0' :: 'x' :: rest => (orNoNumber (parseInteger? 16 rest)).map signed
    | '0' :: _ => (orNoNumber (parseInteger? 8 digits)).map signed
    | _ =>
      if digits.contains ':' then
        (orNoNumber ((splitOn ':' digits).mapM (parseInteger? 10))).map fun ps => signed (sexagesimal ps)
      else (orNoNumber (parseInteger? 10 digits)).map signed

/-! ### Fractions -/

/-- Digits, a point and more digits, then an exponent; white space and a sign may stand before. -/
def parseDecimal? (t : Text) : Option Float := do
  let (negative, t) := splitSign (strip isNumberPadding t)
  let magnitude ←
    if t = "inf".toList || t = "infinity".toList then some (1.0 / 0.0 : Float)
    else if t = "nan".toList then some (0.0 / 0.0)
    else
      let whole := t.takeWhile isDigit
      let afterWhole := t.dropWhile isDigit
      let (places, rest) := match afterWhole with
        | '.' :: r => (r.takeWhile isDigit, r.dropWhile isDigit)
        | r => ([], r)
      let digits := (whole ++ places).filterMap digitValue?
      let exponent : Option Int := match rest with
        | [] => some 0
        | 'e' :: r =>
          let (down, ds) := splitSign r
          if ds.isEmpty || !ds.all isDigit then none
          else
            let n : Int := ((ofDigits 10 (ds.filterMap digitValue?) : Nat) : Int)
            some (if down then -n else n)
        | _ => none
      if digits.isEmpty then none else exponent.map fun e => ofDecimal (ofDigits 10 digits) (e - places.length)
  some (if negative then -magnitude else magnitude)

def readFloat (t : Text) : Except Fault Scalar :=
  let t := lowercase (t.filter (· ≠ '_'))
  if t.isEmpty then .error .emptyNumber
  else
    let (negative, digits) := splitSign t
    let signed (x : Float) : Scalar := .num (if negative then -1.0 * x else 1.0 * x)
    if digits = ".inf".toList then .ok (signed (1.0 / 0.0))
    else if digits = ".nan".toList then .ok (.num (0.0 / 0.0))
    else if digits.contains ':' then
      (orNoNumber ((splitOn ':' digits).mapM parseDecimal?)).map fun ps =>
        let step (acc : Float × Float) (x : Float) : Float × Float := (acc.1 + x * acc.2, acc.2 * 60.0)
        signed (ps.reverse.foldl step (0.0, 1.0)).1
    else (orNoNumber (parseDecimal? digits)).map signed

/-! ### Bytes -/

def sextet? (c : Char) : Option Nat :=
  if isAsciiUpper c then some (c.toNat - 65)
  else if isAsciiLower c then some (c.toNat - 71)
  else if isAsciiDigit c then some (c.toNat + 4)
  else if c = '+' then some 62
  else if c = '/' then some 63
  else none

/-- Four letters make three bytes.  Characters outside the alphabet are passed over; `held` counts the letters of the
group at hand and `pads` the padding marks since the last letter. -/
def sextets : Nat → Nat → Nat → Text → Option Bytes
  | held, _, _, [] => if held = 0 then some [] else none
  | held, bits, pads, c :: cs =>
    if c = '=' then
      if 2 ≤ held && 4 ≤ held + pads + 1 then some []
      else sextets held bits (if 2 ≤ held then pads + 1 else pads) cs
    else match sextet? c with
      | none => sextets held bits pads cs
      | some n =>
        match held with
        | 0 => sextets 1 n 0 cs
        | 1 => (sextets 2 (n % 16) 0 cs).map (UInt8.ofNat (bits * 4 + n / 16) :: ·)
        | 2 => (sextets 3 (n % 4) 0 cs).map (UInt8.ofNat (bits * 16 + n / 4) :: ·)
        | _ => (sextets 0 0 0 cs).map (UInt8.ofNat (bits * 64 + n) :: ·)

def readBinary (t : Text) : Except Fault Scalar :=
  if t.all fun c => c.toNat < 128 then
    match sextets 0 0 0 t with
    | some bs => .ok (.bytes bs)
    | none => .error .malformed
  else .error .malformed

def readScalar (tag : Tag) (t : Text) : Except Fault Scalar :=
  match tag with
  | .null => .ok .null
  | .bool => readTruth t
  | .int => readInt t
  | .float => readFloat t
  | .text => .ok (.text t)
  | .binary => readBinary t
  | .time => (readTime t).map .moment
  | _ => .error .malformed

/-! ## Collections -/

/-- What a tag makes of a node at once, or only when its collection is filled. -/
def Tag.isScalar : Tag → Bool
  | .null | .bool | .int | .float | .text | .binary | .time => true
  | _ => false

def Tag.isCollection : Tag → Bool
  | .seq | .map | .set | .orderedMap | .pairs | .badMerge => true
  | _ => false

def Tag.isPaired : Tag → Bool
  | .orderedMap | .pairs => true
  | _ => false

/-- The text of a node that has a scalar's tag: a mapping may state it under its default key, and never gets to it if
it states itself. -/
def Node.scalarText : Node → Except Fault Text
  | .scalar _ t => .ok t
  | .seq _ _ => .error .malformed
  | .map _ es => scalarTextOf es
  | .inside _ _ _ => .error .tooDeep
where
  scalarTextOf : List (Node × Node) → Except Fault Text
    | [] => .error .malformed
    | (.scalar .default _, v) :: _ => v.scalarText
    | _ :: es => scalarTextOf es

def Node.readScalarAs (n : Node) (tag : Tag) : Except Fault Scalar := n.scalarText.bind (readScalar tag)

def Node.scalarFault? (tag : Tag) (n : Node) : Option Fault :=
  match n.readScalarAs tag with
  | .ok _ => none
  | .error f => some f

def Node.tag : Node → Tag
  | .scalar t _ => t
  | .seq t _ => t
  | .map t _ => t
  | .inside _ t _ => t

/-- A fault with the level at which it is met. -/
abbrev Faults := List (Nat × Fault)

def Faults.one (level : Nat) (f : Option Fault) : Faults := f.toList.map fun f => (level, f)

mutual
def Node.faults (level : Nat) : Node → Faults
  | .scalar tag t =>
    if tag.isScalar then Faults.one level ((Node.scalar tag t).scalarFault? tag)
    else if tag.isCollection then [(level + 1, .malformed)]
    else [(level, .malformed)]
  | .seq tag ns =>
    if tag.isScalar then [(level, .malformed)]
    else if tag = .seq then itemFaults (level + 1) ns
    else if tag.isPaired then pairFaults (level + 1) ns
    else if tag.isCollection then [(level + 1, .malformed)]
    else [(level, .malformed)]
  | .map tag es =>
    if tag.isScalar then Faults.one level ((Node.map tag es).scalarFault? tag)
    else if tag.isMapping then entryFaults (level + 1) es
    else if tag.isCollection then [(level + 1, .malformed)]
    else [(level, .malformed)]
  | .inside _ _ _ => []

def itemFaults (level : Nat) : List Node → Faults
  | [] => []
  | n :: ns => n.faults level ++ itemFaults level ns

/-- Items that each are a mapping of one entry. -/
def pairFaults (level : Nat) : List Node → Faults
  | [] => []
  | .map _ [(k, v)] :: ns => k.faults level ++ v.faults level ++ pairFaults level ns
  | .inside _ _ true :: ns => pairFaults level ns
  | _ :: ns => (level, .malformed) :: pairFaults level ns

/-- A key must be a scalar. -/
def entryFaults (level : Nat) : List (Node × Node) → Faults
  | [] => []
  | (k, v) :: es =>
    (if k.tag.isCollection then [(level, .malformed)] else k.faults level) ++ v.faults level ++ entryFaults level es
end

/-- The first fault of the least level. -/
def Faults.first? : Faults → Option Fault
  | [] => none
  | f :: fs => some (fs.foldl (fun best g => if g.1 < best.1 then g else best) f).2

def Node.scalarValue (n : Node) : Scalar := (n.readScalarAs n.tag).toOption.getD .null

def membersOf (es : Entries) : List Scalar := (Entries.ofPairs es).map (·.1)

mutual
/-- The value of a node without faults. -/
def Node.value : Node → Value
  | .scalar tag t => .scalar (Node.scalar tag t).scalarValue
  | .seq tag ns => .list (if tag.isPaired then pairValues ns else itemValues ns)
  | .map tag es =>
    if tag.isScalar then .scalar (Node.map tag es).scalarValue
    else if tag = .set then .members (membersOf (entryValues es))
    else .map (Entries.ofPairs (entryValues es))
  | .inside _ _ isMap => if isMap then .map [] else .list []

def itemValues : List Node → List Value
  | [] => []
  | n :: ns => n.value :: itemValues ns

def pairValues : List Node → List Value
  | [] => []
  | .map _ [(k, v)] :: ns => .pair k.value v.value :: pairValues ns
  | _ :: ns => pairValues ns

def entryValues : List (Node × Node) → List (Scalar × Value)
  | [] => []
  | (k, v) :: es => (k.scalarValue, v.value) :: entryValues es
end

/-- The value that a YAML text holds; an empty text holds null. -/
def read (levels : Nat) (t : Text) : Except Fault Value := do
  match ← readDocument levels (tokens t) with
  | none => return .null
  | some n =>
    let n := n.merged
    match (n.faults 0).first? with
    | some f => throw f
    | none => return n.value

end EnvAudit.Yaml

import EnvAudit.Pattern.Token
import EnvAudit.World.Host
/-!
# Escapes in patterns

What a backslash and the characters after it stand for.  Inside a character class an escape is a character or a
category; outside it can also be an anchor or a back reference.  An ASCII letter that has no meaning is refused, so
that it can be given one.
-/
namespace EnvAudit

/-! ## Members of a character class

A member is kept as code points, because an escape can name a surrogate, which no text holds. -/

inductive Member where
  | code (n : Nat)
  | span (first last : Nat)
  | category (k : Category) (negated : Bool)
  deriving DecidableEq, Repr

def controlEscape? : Char → Option Nat
  | 'a' => some 7
  | 'f' => some 12
  | 'n' => some 10
  | 'r' => some 13
  | 't' => some 9
  | 'v' => some 11
  | '\\' => some 92
  | _ => none

def categoryEscape? : Char → Option (Category × Bool)
  | 'd' => some (.digit, false)
  | 'D' => some (.digit, true)
  | 's' => some (.blank, false)
  | 'S' => some (.blank, true)
  | 'w' => some (.word, false)
  | 'W' => some (.word, true)
  | _ => none

/-- Exactly `width` hexadecimal digits that name a code point. -/
def readHexEscape (width : Nat) (ts : List Tok) : Option (Nat × List Tok) :=
  let (digits, rest) := takePlain isHexDigit width ts
  let n := numberIn 16 digits
  if digits.length = width && n < 0x110000 then some (n, rest) else none

/-- Up to three octal digits, the first of them given. -/
def readOctalEscape (first : Char) (ts : List Tok) : Option (Nat × List Tok) :=
  let (digits, rest) := takePlain isOctalDigit 2 ts
  let n := numberIn 8 (first :: digits)
  if n ≤ 0o377 then some (n, rest) else none

/-- The name of a character, between braces. -/
def readNamedEscape (host : Host) : List Tok → Option (Nat × List Tok)
  | .plain '\x7b' :: ts => do
    let (name, rest) ← takeUntil '\x7d' ts
    if name.isEmpty then none
    else
      let c ← host.characterNamed name
      some (c.toNat, rest)
  | _ => none

/-- The escapes that name a code point by number, by name, by control letter, or by standing for themselves.  Bytes have
no names, and no numbers beyond two digits. -/
def readCodeEscape (host : Host) (kind : PatternKind) (c : Char) (ts : List Tok) : Option (Nat × List Tok) :=
  match controlEscape? c with
  | some n => some (n, ts)
  | none =>
    if c = 'x' then readHexEscape 2 ts
    else if kind = .text && c = 'u' then readHexEscape 4 ts
    else if kind = .text && c = 'U' then readHexEscape 8 ts
    else if kind = .text && c = 'N' then readNamedEscape host ts
    else if isAsciiLetter c || isAsciiDigit c then none
    else some (c.toNat, ts)

def readClassEscape (host : Host) (kind : PatternKind) (c : Char) (ts : List Tok) : Option (Member × List Tok) :=
  match categoryEscape? c with
  | some (k, negated) => some (.category k negated, ts)
  | none =>
    if c = 'b' then some (.code 8, ts)
    else if isOctalDigit c then (readOctalEscape c ts).map fun (n, rest) => (.code n, rest)
    else (readCodeEscape host kind c ts).map fun (n, rest) => (.code n, rest)

/-! ## Reading a class -/

/-- One member's token. -/
def readMember (host : Host) (kind : PatternKind) (t : Tok) (ts : List Tok) : Option (Member × List Tok) :=
  match t with
  | .plain c => some (.code c.toNat, ts)
  | .escaped c => readClassEscape host kind c ts
  | .dangling => none

def spanOf : Member → Member → Option Member
  | .code a, .code b => if b < a then none else some (.span a b)
  | _, _ => none

/-- The members up to the closing bracket, which is itself a member when it stands first. -/
def readMembers (host : Host) (kind : PatternKind) :
    Nat → List Member → List Tok → Option (List Member × List Tok)
  | 0, _, _ => none
  | _ + 1, _, [] => none
  | fuel + 1, seen, t :: ts =>
    if t = .plain ']' && !seen.isEmpty then some (seen, ts)
    else match readMember host kind t ts with
      | none => none
      | some (m, .plain '-' :: .plain ']' :: rest) => some (seen ++ [m, .code 45], rest)
      | some (m, .plain '-' :: u :: rest) =>
        match readMember host kind u rest with
        | none => none
        | some (n, rest) => match spanOf m n with
          | none => none
          | some s => readMembers host kind fuel (seen ++ [s]) rest
      | some (m, rest) => readMembers host kind fuel (seen ++ [m]) rest

/-- A class from behind its opening bracket: whether it is negated, and its members without repetition. -/
def readClass (host : Host) (kind : PatternKind) (ts : List Tok) : Option (Bool × List Member × List Tok) :=
  let (negated, body) := match ts with
    | .plain '^' :: rest => (true, rest)
    | _ => (false, ts)
  (readMembers host kind (body.length + 1) [] body).map fun (ms, rest) => (negated, ms.eraseDups, rest)

/-! ## From members to classes -/

def isSurrogate (n : Nat) : Bool := 0xD800 ≤ n && n < 0xE000

def Member.items (asciiOnly : Bool) : Member → List ClassItem
  | .code n => if isSurrogate n then [] else [.single (Char.ofNat n)]
  | .span a b =>
    let a := if isSurrogate a then 0xE000 else a
    let b := if isSurrogate b then 0xD7FF else b
    if a ≤ b then [.range (Char.ofNat a) (Char.ofNat b)] else []
  | .category k negated => [.category k asciiOnly negated]

/-- A class of one listed character compares as that character does on its own. -/
def oneOf (folding : Folding) (asciiOnly negated : Bool) (ms : List Member) : Pattern :=
  match ms with
  | [.code n] =>
    if isSurrogate n then .one ⟨[], negated, folding⟩
    else
      let c := Char.ofNat n
      .one ⟨[.single (if folding = .unicode && 0x10000 ≤ n then lowerChar c else c)], negated, folding⟩
  | _ => .one ⟨ms.flatMap (Member.items asciiOnly), negated, folding⟩

end EnvAudit

import EnvAudit.Text.Basic
import EnvAudit.Text.Digit
import EnvAudit.Text.Word
import EnvAudit.Text.LetterCase
/-!
# Patterns

The syntax tree of a search pattern.  A signature and a schema rule are each one pattern, and both ask the same
question of it: does it occur somewhere in a value?

Whatever an inline flag changes is settled when the tree is built: a character class knows how it treats case, an
anchor knows whether it looks at lines, and a word boundary knows which characters make words.  So a tree means the
same wherever it stands.
-/
namespace EnvAudit

/-! ## Character classes -/

/-- How a class or a back reference compares letters. -/
inductive Folding where
  | exact
  | ascii
  | unicode
  deriving DecidableEq, Repr, Inhabited

inductive Category where
  | digit
  | blank
  | word
  deriving DecidableEq, Repr

/-- Whether a character is of a category, among all characters or among ASCII alone. -/
def Category.has (k : Category) (asciiOnly : Bool) (c : Char) : Bool :=
  match k with
  | .digit => if asciiOnly then isAsciiDigit c else isDigit c
  | .blank => if asciiOnly then isAsciiBlank c else isBlank c
  | .word => if asciiOnly then isAsciiWord c else isWord c

inductive ClassItem where
  | single (c : Char)
  | range (first last : Char)
  | category (k : Category) (asciiOnly negated : Bool)
  deriving DecidableEq, Repr

structure CharClass where
  items : List ClassItem
  negated : Bool
  folding : Folding
  deriving DecidableEq, Repr

def ClassItem.hasExactly (i : ClassItem) (c : Char) : Bool :=
  match i with
  | .single a => c = a
  | .range a b => a ≤ c && c ≤ b
  | .category k asciiOnly negated => k.has asciiOnly c != negated

/-- A listed character and a range hold a character when they hold one of its case variants.  A category is asked of
the lower-case form.  Outside the basic plane a listed character stands for itself alone. -/
def ClassItem.hasFolded (i : ClassItem) (c : Char) : Bool :=
  match i with
  | .single a => if a.toNat < 0x10000 then caseKey c = caseKey a else lowerChar c = a
  | .range a b => (caseVariants c).any fun n => a.toNat ≤ n && n ≤ b.toNat
  | .category k asciiOnly negated => k.has asciiOnly (lowerChar c) != negated

def ClassItem.hasAsciiFolded (i : ClassItem) (c : Char) : Bool :=
  match i with
  | .single a => asciiLower c = asciiLower a
  | .range a b =>
    let low := asciiLower c
    let high := if isAsciiLower low then Char.ofNat (low.toNat - 32) else low
    (a ≤ low && low ≤ b) || (a ≤ high && high ≤ b)
  | .category k asciiOnly negated => k.has asciiOnly (asciiLower c) != negated

def ClassItem.has (i : ClassItem) (folding : Folding) (c : Char) : Bool :=
  match folding with
  | .exact => i.hasExactly c
  | .ascii => i.hasAsciiFolded c
  | .unicode => i.hasFolded c

def CharClass.has (k : CharClass) (c : Char) : Bool :=
  (k.items.any fun i => i.has k.folding c) != k.negated

/-- Two characters that a back reference takes for the same. -/
def Folding.same (f : Folding) (a b : Char) : Bool :=
  match f with
  | .exact => a = b
  | .ascii => asciiLower a = asciiLower b
  | .unicode => lowerChar a = lowerChar b

/-! ## Anchors -/

inductive Anchor where
  | textStart
  | textEnd
  /-- The end of the text, or before one newline that ends it. -/
  | lastLineEnd
  | lineStart
  | lineEnd
  | wordEdge (asciiOnly negated : Bool)
  deriving DecidableEq, Repr

/-- Whether an anchor holds between the text before (nearest character first) and the text after. -/
def Anchor.holds (a : Anchor) (before after : Text) : Bool :=
  match a with
  | .textStart => before.isEmpty
  | .textEnd => after.isEmpty
  | .lastLineEnd => after.isEmpty || after = ['\n']
  | .lineStart => before.isEmpty || before.head? = some '\n'
  | .lineEnd => after.isEmpty || after.head? = some '\n'
  | .wordEdge asciiOnly negated =>
    let isWordChar (c : Option Char) : Bool := c.any (Category.has .word asciiOnly)
    if before.isEmpty && after.isEmpty then false
    else (isWordChar before.head? != isWordChar after.head?) != negated

/-! ## Trees -/

inductive Greed where
  | greedy
  | lazy
  | possessive
  deriving DecidableEq, Repr

inductive Pattern where
  | empty
  | one (k : CharClass)
  | anchor (a : Anchor)
  | seq (p q : Pattern)
  | alt (p q : Pattern)
  | repeated (p : Pattern) (least : Nat) (most : Option Nat) (greed : Greed)
  | capture (group : Nat) (p : Pattern)
  | reference (group : Nat) (folding : Folding)
  /-- One of two patterns, by whether a group has taken part. -/
  | either (group : Nat) (present absent : Pattern)
  | ahead (negated : Bool) (p : Pattern)
  /-- What stands before must be the pattern, over the given number of characters. -/
  | behind (negated : Bool) (width : Nat) (p : Pattern)
  | atomic (p : Pattern)
  deriving DecidableEq, Repr, Inhabited

/-- The patterns one after the other. -/
def Pattern.all : List Pattern → Pattern
  | [] => .empty
  | [p] => p
  | p :: ps => .seq p (Pattern.all ps)

/-- The first of the patterns that leads to a match. -/
def Pattern.any : List Pattern → Pattern
  | [] => .empty
  | [p] => p
  | p :: ps => .alt p (Pattern.any ps)

/-! ## Width

The least and greatest number of characters a pattern can take; the greatest is unbounded as `none`.  A look behind
needs the two to agree.  A back reference is as wide as its group. -/

abbrev Width := Nat × Option Nat

def Width.add (a b : Width) : Width :=
  (a.1 + b.1, match a.2, b.2 with | some x, some y => some (x + y) | _, _ => none)

def Width.join (a b : Width) : Width :=
  (min a.1 b.1, match a.2, b.2 with | some x, some y => some (max x y) | _, _ => none)

def Width.times (a : Width) (least : Nat) (most : Option Nat) : Width :=
  (a.1 * least, match a.2, most with
    | some 0, _ => some 0
    | some x, some m => some (x * m)
    | none, some 0 => some 0
    | _, _ => none)

def Pattern.width (groups : List (Nat × Width)) : Pattern → Width
  | .empty => (0, some 0)
  | .one _ => (1, some 1)
  | .anchor _ => (0, some 0)
  | .seq p q => (p.width groups).add (q.width groups)
  | .alt p q => (p.width groups).join (q.width groups)
  | .repeated p least most _ => (p.width groups).times least most
  | .capture _ p => p.width groups
  | .reference g _ => ((groups.find? fun x => x.1 = g).map (·.2)).getD (0, some 0)
  | .either _ p q => (p.width groups).join (q.width groups)
  | .ahead _ _ => (0, some 0)
  | .behind _ _ _ => (0, some 0)
  | .atomic p => p.width groups

end EnvAudit

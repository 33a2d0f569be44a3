import EnvAudit.Text.Basic
/-!
# Similar texts

Which of some names a mistyped one may stand for.  Two texts are compared by their longest common block, then by the
longest ones on both sides of it, and so on; what all blocks hold together, against the length of both texts, says how
similar they are.
-/
namespace EnvAudit

/-! ## Common blocks -/

/-- How many characters two texts begin with together. -/
def commonLead : Text → Text → Nat
  | a :: as, b :: bs => if a = b then commonLead as bs + 1 else 0
  | _, _ => 0

/-- The places in two texts where a block begins, and its length. -/
structure Block where
  left : Nat
  right : Nat
  size : Nat
  deriving DecidableEq, Repr

/-- Of two blocks the longer one, and of equal ones the first. -/
def Block.better (a b : Block) : Block := if a.size < b.size then b else a

/-- The blocks of two texts, by place in the first and then by place in the second. -/
def blocks (a b : Text) : List Block :=
  (List.range a.length).flatMap fun i => (List.range b.length).map fun j =>
    ⟨i, j, commonLead (a.drop i) (b.drop j)⟩

def longestBlock (a b : Text) : Block := (blocks a b).foldl Block.better ⟨0, 0, 0⟩

/-- The characters in the longest block and in the blocks on both sides of it. -/
def commonCount : Nat → Text → Text → Nat
  | 0, _, _ => 0
  | fuel + 1, a, b =>
    let k := longestBlock a b
    if k.size = 0 then 0
    else
      k.size + commonCount fuel (a.take k.left) (b.take k.right) +
        commonCount fuel (a.drop (k.left + k.size)) (b.drop (k.right + k.size))

/-! ## Suggestions -/

structure Likeness where
  name : Text
  common : Nat
  total : Nat
  deriving DecidableEq, Repr

def likeness (word name : Text) : Likeness :=
  ⟨name, commonCount name.length name word, name.length + word.length⟩

/-- At least three tenths of all characters are common, counted once for each pair. -/
def Likeness.isClose (l : Likeness) : Bool := 3 * l.total ≤ 10 * l.common

/-- The order of texts by their characters. -/
def textLe : Text → Text → Bool
  | [], _ => true
  | _ :: _, [] => false
  | a :: as, b :: bs => if a = b then textLe as bs else a < b

/-- More in common, or as much and later in order. -/
def Likeness.atLeast (a b : Likeness) : Bool :=
  let (x, y) := (a.common * b.total, b.common * a.total)
  if x = y then textLe b.name a.name else y < x

def maxSuggestions : Nat := 3

/-- The names most like a word, in order. -/
def similarTo (word : Text) (names : List Text) : List Text :=
  let close := ((names.map (likeness word)).filter Likeness.isClose).mergeSort Likeness.atLeast
  ((close.take maxSuggestions).map (·.name)).mergeSort textLe

end EnvAudit

import EnvAudit.Pattern.Basic
/-!
# Searching

Matching is a walk over the tree with a continuation: `run p k` takes a cursor, lets `p` consume from it, and hands
each place it can reach, in order of preference, to `k`; the first success wins.  The cursor keeps the text on both
sides, the side before it nearest character first, and what the groups have taken.

The walk is structural on the tree.  A repetition runs its body through `rounds`, which counts down a bound: where the
pattern sets no limit, every round after the required ones must move, so no more are needed than there are characters
left.
-/
namespace EnvAudit

structure Cursor where
  before : Text
  after : Text
  taken : List (Nat × Text)
  deriving DecidableEq, Repr

abbrev Resume := Cursor → Option Cursor

def Cursor.step (c : Cursor) (x : Char) (rest : Text) : Cursor := ⟨x :: c.before, rest, c.taken⟩

def Cursor.groupText? (c : Cursor) (group : Nat) : Option Text :=
  (c.taken.find? fun g => g.1 = group).map (·.2)

def Cursor.record (c : Cursor) (group : Nat) (text : Text) : Cursor :=
  { c with taken := (group, text) :: c.taken.filter fun g => g.1 ≠ group }

/-- Takes the given text, as a back reference compares it. -/
def Cursor.take (folding : Folding) : Text → Cursor → Option Cursor
  | [], c => some c
  | x :: xs, c =>
    match c.after with
    | [] => none
    | y :: rest => if folding.same x y then Cursor.take folding xs (c.step y rest) else none

def Cursor.back : Nat → Cursor → Option Cursor
  | 0, c => some c
  | n + 1, c =>
    match c.before with
    | [] => none
    | x :: rest => Cursor.back n ⟨rest, x :: c.after, c.taken⟩

/-! ## Repetition

`rounds body greed most bound count last` has done `count` rounds of at least `least`; `last` is how much text was
left when the latest optional round began.  An optional round that began and ended at the same place is not
repeated. -/

def rounds (body : Resume → Resume) (least : Nat) (most : Option Nat) (isLazy : Bool) (k : Resume) :
    Nat → Nat → Option Nat → Resume
  | 0, _, _ => k
  | bound + 1, count, last => fun c =>
    if count < least then body (rounds body least most isLazy k bound (count + 1) last) c
    else
      let more : Option Cursor :=
        if most.all (count < ·) && last ≠ some c.after.length then
          body (rounds body least most isLazy k bound (count + 1) (some c.after.length)) c
        else none
      if isLazy then (k c).or more else more.or (k c)

/-- Rounds that are never taken back: each settles for its first match. -/
def settledRounds (body : Resume → Resume) (least : Nat) (most : Option Nat) :
    Nat → Nat → Option Nat → Resume
  | 0, _, _ => some
  | bound + 1, count, last => fun c =>
    if count < least then
      match body some c with
      | some d => settledRounds body least most bound (count + 1) last d
      | none => none
    else if most.all (count < ·) && last ≠ some c.after.length then
      match body some c with
      | some d => settledRounds body least most bound (count + 1) (some c.after.length) d
      | none => some c
    else some c

/-- Enough rounds for every match. -/
def roundBound (least : Nat) (most : Option Nat) (c : Cursor) : Nat :=
  match most with
  | some m => max least m + 1
  | none => least + c.after.length + 2

def Pattern.run : Pattern → Resume → Resume
  | .empty, k => k
  | .one cls, k => fun c =>
    match c.after with
    | [] => none
    | x :: rest => if cls.has x then k (c.step x rest) else none
  | .anchor a, k => fun c => if a.holds c.before c.after then k c else none
  | .seq p q, k => p.run (q.run k)
  | .alt p q, k => fun c => (p.run k c).or (q.run k c)
  | .repeated p least most greed, k => fun c =>
    let bound := roundBound least most c
    match greed with
    | .greedy => rounds p.run least most false k bound 0 none c
    | .lazy => rounds p.run least most true k bound 0 none c
    | .possessive => (settledRounds p.run least most bound 0 none c).bind k
  | .capture g p, k => fun c =>
    p.run (fun d => k (d.record g (c.after.take (c.after.length - d.after.length)))) c
  | .reference g folding, k => fun c =>
    match c.groupText? g with
    | none => none
    | some t => (c.take folding t).bind k
  | .either g p q, k => fun c => if (c.groupText? g).isSome then p.run k c else q.run k c
  | .ahead negated p, k => fun c =>
    match p.run some c with
    | some d => if negated then none else k { c with taken := d.taken }
    | none => if negated then k c else none
  | .behind negated width p, k => fun c =>
    match (c.back width).bind (p.run some) with
    | some d => if negated then none else k { c with taken := d.taken }
    | none => if negated then k c else none
  | .atomic p, k => fun c => (p.run some c).bind k

/-! ## Occurrence anywhere in a text -/

def Pattern.searchFrom (p : Pattern) (before : Text) : Text → Bool
  | [] => (p.run some ⟨before, [], []⟩).isSome
  | c :: cs => (p.run some ⟨before, c :: cs, []⟩).isSome || p.searchFrom (c :: before) cs

def Pattern.occursIn (p : Pattern) (t : Text) : Bool := p.searchFrom [] t

/-- Whether the pattern takes some initial part of a text. -/
def Pattern.opens (p : Pattern) (t : Text) : Bool := (p.run some ⟨[], t, []⟩).isSome

end EnvAudit

/-!
# Text

Everything the program reads, compares and prints is a list of characters, so that a length, a cut and a count
are all in code points and a rule about text is a recursion on a list.  This module holds the few operations that
every other part shares: splitting at a separator, joining, cutting at the first occurrence of a mark, and
stripping both ends.  They work over any kind of unit, because a file with undecodable bytes is a list of units
that are not all characters (`Text.Utf8`).  White space is here too, and the form of the tables of characters.
-/
namespace EnvAudit

abbrev Text := List Char

/-! ## Splitting and joining

`n` separators give `n + 1` pieces, so splitting never returns the empty list, and joining the pieces with the
separator gives the text back. -/

variable {α : Type}

def splitOn [DecidableEq α] (sep : α) : List α → List (List α)
  | [] => [[]]
  | c :: cs =>
    if c = sep then [] :: splitOn sep cs
    else match splitOn sep cs with
      | [] => [[c]]
      | p :: ps => (c :: p) :: ps

def joinWith (sep : List α) : List (List α) → List α
  | [] => []
  | [p] => p
  | p :: q :: ps => p ++ sep ++ joinWith sep (q :: ps)

def lines (t : Text) : List Text := splitOn '\n' t

def unlines (ls : List Text) : Text := joinWith ['\n'] ls

theorem splitOn_ne_nil [DecidableEq α] (sep : α) (l : List α) : splitOn sep l ≠ [] := by
  cases l with
  | nil => simp [splitOn]
  | cons c cs =>
    unfold splitOn
    split
    · simp
    · split <;> simp

theorem joinWith_cons (sep p : List α) {ps : List (List α)} (h : ps ≠ []) :
    joinWith sep (p :: ps) = p ++ sep ++ joinWith sep ps := by
  cases ps with
  | nil => exact absurd rfl h
  | cons q qs => rfl

theorem joinWith_concat_nil (sep : List α) : ∀ (ps : List (List α)), ps ≠ [] →
    joinWith sep (ps ++ [[]]) = joinWith sep ps ++ sep
  | [], hne => absurd rfl hne
  | [p], _ => List.append_nil (p ++ sep)
  | p :: q :: ps, _ => by
    have ih := joinWith_concat_nil sep (q :: ps) (List.cons_ne_nil q ps)
    rw [List.cons_append, joinWith_cons sep p (by simp), ih, joinWith_cons sep p (List.cons_ne_nil q ps),
      List.append_assoc _ _ sep]

theorem joinWith_splitOn [DecidableEq α] (sep : α) (l : List α) : joinWith [sep] (splitOn sep l) = l := by
  induction l with
  | nil => rfl
  | cons c cs ih =>
    unfold splitOn
    split
    · next h => rw [joinWith_cons _ _ (splitOn_ne_nil sep cs), ih, h]; rfl
    · revert ih
      cases hs : splitOn sep cs with
      | nil => exact absurd hs (splitOn_ne_nil sep cs)
      | cons p ps => cases ps <;> intro ih <;> simp_all [joinWith]

/-! ## Leads and marks

`after? lead t` is what follows `lead` at the start of `t`; `cutOn mark t` is `t` before and after the first
occurrence of `mark`. -/

def after? [DecidableEq α] : List α → List α → Option (List α)
  | [], t => some t
  | _ :: _, [] => none
  | l :: ls, c :: cs => if l = c then after? ls cs else none

def startsWith [DecidableEq α] (lead t : List α) : Bool := (after? lead t).isSome

def endsWith [DecidableEq α] (tail t : List α) : Bool := startsWith tail.reverse t.reverse

def cutOn [DecidableEq α] (mark : List α) : List α → Option (List α × List α)
  | [] => if mark.isEmpty then some ([], []) else none
  | c :: cs =>
    match after? mark (c :: cs) with
    | some rest => some ([], rest)
    | none => (cutOn mark cs).map fun (a, b) => (c :: a, b)

def occursIn [DecidableEq α] (mark t : List α) : Bool := (cutOn mark t).isSome

theorem after?_eq_some_iff [DecidableEq α] {lead t rest : List α} :
    after? lead t = some rest ↔ t = lead ++ rest := by
  induction lead generalizing t with
  | nil => simp [after?]
  | cons l ls ih =>
    cases t with
    | nil => simp [after?]
    | cons c cs =>
      simp only [after?, List.cons_append, List.cons.injEq]
      split
      · next h => simp [ih, h]
      · next h => simp [Ne.symm h]

theorem after?_eq_none_iff [DecidableEq α] {lead t : List α} : after? lead t = none ↔ ¬ lead <+: t := by
  rw [Option.eq_none_iff_forall_ne_some]
  constructor
  · rintro h ⟨rest, hrest⟩
    exact h rest (after?_eq_some_iff.2 hrest.symm)
  · rintro h rest hrest
    exact h ⟨rest, (after?_eq_some_iff.1 hrest).symm⟩

theorem startsWith_iff [DecidableEq α] {lead t : List α} : startsWith lead t = true ↔ lead <+: t := by
  unfold startsWith
  cases h : after? lead t with
  | none => simp [after?_eq_none_iff.1 h]
  | some rest => simp [after?_eq_some_iff.1 h]

/-! ## Stripping -/

def stripStart (drop : α → Bool) (l : List α) : List α := l.dropWhile drop

def stripEnd (drop : α → Bool) (l : List α) : List α := (l.reverse.dropWhile drop).reverse

def strip (drop : α → Bool) (l : List α) : List α := stripEnd drop (stripStart drop l)

/-! ## Numbering

Lines and list positions are reported counting from a given first number. -/

def numbered (start : Nat) : List α → List (Nat × α)
  | [] => []
  | x :: xs => (start, x) :: numbered (start + 1) xs

theorem map_snd_numbered : ∀ (start : Nat) (l : List α), (numbered start l).map Prod.snd = l
  | _, [] => rfl
  | start, x :: xs => congrArg (x :: ·) (map_snd_numbered (start + 1) xs)

theorem mem_of_mem_numbered {x : α} {n start : Nat} {l : List α} (h : (n, x) ∈ numbered start l) : x ∈ l := by
  rw [← map_snd_numbered start l]
  exact List.mem_map_of_mem h

/-- The decimal digits of a number, most significant first. -/
def decimal (n : Nat) : Text := Nat.toDigits 10 n

def decimalInt : Int → Text
  | .ofNat n => decimal n
  | .negSucc n => '-' :: decimal (n + 1)

/-! ## Classes of characters

A property of characters that a standard lists is a table of closed ranges of code points, in ascending order and
without overlap.  The tables of this folder hold the characters beyond ASCII only; the ASCII part of each class is
written out beside its table, so a statement about ASCII text never opens one. -/

def inRanges (table : List (Nat × Nat)) (n : Nat) : Bool :=
  table.any fun r => r.1 ≤ n && n ≤ r.2

/-! ## White space

The characters that count as space: when a line is trimmed, when a value is searched for `\\s`, and when a number
is read.  Beside the usual six they are the four information separators, the next-line control, and the space
characters of the general punctuation and ideographic blocks; zero-width characters are not among them. -/

def isBlank (c : Char) : Bool :=
  let n := c.toNat
  (9 ≤ n && n ≤ 13) || (28 ≤ n && n ≤ 32) || n = 0x85 || n = 0xA0 || n = 0x1680 ||
    (0x2000 ≤ n && n ≤ 0x200A) || n = 0x2028 || n = 0x2029 || n = 0x202F || n = 0x205F || n = 0x3000

/-- The six ASCII characters that a number may be padded with. -/
def isAsciiBlank (c : Char) : Bool := (9 ≤ c.toNat && c.toNat ≤ 13) || c.toNat = 32

def trimStart (t : Text) : Text := stripStart isBlank t

def trimEnd (t : Text) : Text := stripEnd isBlank t

def trim (t : Text) : Text := strip isBlank t

end EnvAudit

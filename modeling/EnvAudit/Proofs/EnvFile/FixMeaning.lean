import EnvAudit.Proofs.EnvFile.FixedValue
import EnvAudit.Proofs.EnvFile.Reading
import EnvAudit.Proofs.Text.Classes
import Mathlib.Data.List.Basic
/-!
# What a fixed file means

A fixed file declares what the file declared (`readEnv_fixText`): the same keys on the same lines below the same
comments, and the same values, but for the comments that stood behind them.

The proof goes line by line.  A line that assigns keeps its key, because the key is read without the white space
around it (`assignmentLine_iff`).  Its value is read without white space and quotes too, so quotes that come or go
change nothing (`unquote_withQuotes`, `unquote_withoutNumberQuotes`) and only a comment makes a difference
(`valueKept_withoutComment`).  Every other line keeps its class.
-/
namespace EnvAudit

/-! ## Values -/

def BeginsQuoted (value : Text) : Prop := ∃ q rest, value = q :: rest ∧ (q = '"' ∨ q = '\'')

/-- A value and what is left of it, as its raw form decides: a value without quotes loses a comment. -/
inductive ValueKept (raw old : Text) : Text → Prop
  | same (h : BeginsQuoted raw ∨ ∀ kept, ¬ CommentBehind raw kept) : ValueKept raw old old
  | cut (kept : Text) (hplain : ¬ BeginsQuoted raw) (hcut : CutAtComment raw kept) : ValueKept raw old kept

theorem beginsQuoted_iff (value : Text) : BeginsQuoted value ↔ value.head?.any isQuote = true := by
  unfold BeginsQuoted
  cases value with
  | nil => simp
  | cons c cs =>
    rw [List.head?_cons, Option.any_some, isQuote_iff]
    exact ⟨fun ⟨q, rest, h, hq⟩ => (List.cons.inj h).1 ▸ hq, fun h => ⟨c, cs, rfl, h⟩⟩

theorem startsQuoted_iff (value : Text) : startsQuoted value = true ↔ BeginsQuoted (trim value) :=
  (beginsQuoted_iff (trim value)).symm

theorem unquote_of_not_beginsQuoted {value : Text} (h : ¬ BeginsQuoted value) : unquote value = value :=
  unquote_plain fun q inner hq he => h ⟨q, inner ++ [q], he, hq⟩

/-- Quotes that come change nothing that is read. -/
theorem unquote_withQuotes (value : Text) : unquote (trim (withQuotes value)) = unquote (trim value) := by
  unfold withQuotes
  split
  · rfl
  · rename_i h
    have hplain : ¬ BeginsQuoted (trim value) := fun hq => h (by rw [(startsQuoted_iff value).2 hq]; rfl)
    have hwritten : trim (quoteMark :: trimUnits value ++ [quoteMark]) = '"' :: trim value ++ ['"'] :=
      trim_quoted (trim value)
    rw [hwritten, unquote_quoted (Or.inl rfl), unquote_of_not_beginsQuoted hplain]

/-- Quotes that go change nothing that is read: a number is read as it stands. -/
theorem unquote_withoutNumberQuotes (value : Text) (hline : OneLine value) :
    unquote (trim (withoutNumberQuotes value)) = unquote (trim value) := by
  have htrimmed : OneLine (trim value) := oneLine_trimUnits hline
  unfold withoutNumberQuotes
  rw [show trimUnits value = trim value from rfl]
  split
  · rename_i q r rest hvalue
    split
    · rename_i hnumber
      rw [Bool.and_eq_true] at hnumber
      have hmarks : (isQuote q && (r :: rest).getLast? = some q) = true := hnumber.1
      have hdigits : ∀ c ∈ (r :: rest).dropLast, isDigit c = true := isDigit_of_isWholeNumber hnumber.2
        ((hvalue ▸ htrimmed).of_subset fun c hc => List.mem_cons_of_mem q (List.dropLast_subset _ hc))
      have hinner : unquote (trim value) = (r :: rest).dropLast := by
        rw [hvalue, unquote, if_pos hmarks]
      have hbare : Bare isBlank (r :: rest).dropLast :=
        ⟨fun c hc => isBlank_of_isDigit (hdigits c (List.mem_of_mem_head? hc)),
          fun c hc => isBlank_of_isDigit (hdigits c (List.mem_of_mem_getLast? hc))⟩
      have hplain : ¬ BeginsQuoted (r :: rest).dropLast := by
        rintro ⟨c, cs, hcs, hc⟩
        have hdigit := hdigits c (by rw [hcs]; simp)
        rcases hc with rfl | rfl <;> exact absurd hdigit (by decide)
      rw [hinner, show trim (r :: rest).dropLast = _ from strip_of_bare isBlank _ hbare,
        unquote_of_not_beginsQuoted hplain]
    · rfl
  · rfl

/-- **Only a comment makes a difference**, and only behind a value that does not begin with a quote. -/
theorem valueKept_withoutComment (value : Text) (hline : OneLine value) :
    ValueKept (trim value) (unquote (trim value)) (unquote (trim (withoutComment (trimStart value)))) := by
  have htrim : trim (trimStart value) = trim value := strip_stripStart isBlank value
  obtain ⟨gone, hgone, hblank⟩ := exists_stripEnd isBlank (trimStart value)
  -- the raw value is the started one without the white space at its end
  have hraw : trimStart value = trim value ++ gone := hgone
  have hcomment : ∀ kept, CommentBehind (trimStart value) kept ↔ CommentBehind (trim value) kept := fun kept => by
    rw [hraw]; exact commentBehind_append_blank (trim value) gone kept hblank
  have hcut : ∀ kept, CutAtComment (trimStart value) kept ↔ CutAtComment (trim value) kept := fun kept => by
    rw [hraw]; exact cutAtComment_append_blank (trim value) gone kept hblank
  unfold withoutComment
  split
  · rename_i hquoted
    rw [startsQuoted_iff, htrim] at hquoted
    rw [htrim]
    exact .same (Or.inl hquoted)
  · rename_i hplain
    rw [startsQuoted_iff, htrim] at hplain
    rcases dropComment?_spec (trimStart value) (oneLine_trimUnitsStart hline) with ⟨kept, hkept, hcutStart⟩ | ⟨hnone, hno⟩
    · have hhead : ∀ c ∈ (trimStart value).head?, isBlank c = false := head?_stripStart isBlank value
      obtain ⟨hne, hsame, hbare⟩ := hcutStart.bare hhead
      have hfirst : (trim value).head? = kept.head? := by
        obtain ⟨-, -, hbareRaw⟩ := ((hcut kept).1 hcutStart).bare (bare_strip isBlank value).head
        rw [← hsame, hraw]
        cases hv : trim value with
        | nil =>
          obtain ⟨gap, rest, h, -⟩ := ((hcut kept).1 hcutStart).1
          rw [hv] at h
          simp at h
        | cons c cs => rfl
      have hkeptPlain : ¬ BeginsQuoted kept := by
        rw [beginsQuoted_iff, ← hfirst, ← beginsQuoted_iff]
        exact hplain
      rw [hkept, Option.getD_some, show trim kept = kept from strip_of_bare isBlank kept hbare,
        unquote_of_not_beginsQuoted hkeptPlain]
      exact .cut kept hplain ((hcut kept).1 hcutStart)
    · rw [hnone, Option.getD_none, htrim]
      exact .same (Or.inr fun kept hkept => hno kept ((hcomment kept).2 hkept))

/-- **What a fixed value is read as.** -/
theorem valueKept_fixedValue (value : Text) (hline : OneLine value) :
    ValueKept (trim value) (unquote (trim value)) (unquote (trim (fixedValue value))) := by
  have hbare : OneLine (withQuotes (withoutComment (trimUnitsStart value))) :=
    oneLine_withQuotes (oneLine_withoutComment (oneLine_trimUnitsStart hline))
  have hread : unquote (trim (fixedValue value)) = unquote (trim (withoutComment (trimStart value))) := by
    unfold fixedValue
    rw [unquote_withoutNumberQuotes _ hbare, unquote_withQuotes]
    rfl
  rw [hread]
  exact valueKept_withoutComment value hline

/-! ## Lines -/

/-- The text behind the first equals sign, without the white space around it. -/
def rawValue (line : Text) : Text := trim ((line.dropWhile (· ≠ '=')).drop 1)

/-- A line and what it has become: only the value of an assignment may be another. -/
inductive LineKept (raw : Text) : Line → Line → Prop
  | blank : LineKept raw .blank .blank
  | comment (note : Option Text) : LineKept raw (.comment note) (.comment note)
  | assignment (key old new : Text) (h : ValueKept raw old new) :
    LineKept raw (.assignment key old) (.assignment key new)
  | junk : LineKept raw .junk .junk

theorem rawValue_assigned {k : Text} (hk : '=' ∉ k) (v : Text) : rawValue (k ++ '=' :: v) = trim v := by
  have hpos : ∀ c ∈ k, decide (c ≠ '=') = true := fun c hc => by
    rw [decide_eq_true_eq]
    rintro rfl
    exact hk hc
  unfold rawValue
  rw [List.dropWhile_append_of_pos hpos, List.dropWhile_cons_of_neg (by simp), List.drop_succ_cons, List.drop_zero]

theorem AssignmentLine.fixable {line key rest : Text} (h : AssignmentLine line key rest) : isFixable line = true := by
  obtain ⟨c, cs, hcs, hc⟩ := h.ne_hash
  obtain ⟨-, gap, hline, -⟩ := h
  obtain ⟨-, a, b, hsplit, -⟩ := (strip_eq_iff isBlank line (trim line)).1 rfl
  refine (isFixable_iff line).2 ⟨⟨c, cs, hcs, decide_eq_false hc⟩, List.any_eq_true.2 ⟨'=', ?_, rfl⟩⟩
  rw [hsplit, hline]
  simp

/-- **A fixed line is a line of its class**, with the key it had. -/
theorem lineKept_fixLine (n : Int) (line : Text) (hline : OneLine line) :
    LineKept (rawValue line) (classify line) (classify (fixLine n line).1) := by
  cases hfix : isFixable line with
  | false =>
    rw [fixLine_of_not_fixable n line hfix]
    cases hclass : classify line with
    | blank => exact .blank
    | comment note => exact .comment note
    | junk => exact .junk
    | assignment key value =>
      obtain ⟨rest, hassign, -⟩ := (classify_assignment_iff line key value).1 hclass
      rw [hassign.fixable] at hfix
      cases hfix
  | true =>
    obtain ⟨⟨u, us, hhead, hu⟩, hany⟩ := (isFixable_iff line).1 hfix
    obtain ⟨k, v, rfl, hnone⟩ := exists_assigned line hany
    have hvalue : OneLine v := (oneLine_assigned_iff.1 hline).2
    have hk : '=' ∉ k := fun hmem => absurd (hnone '=' hmem) (by decide)
    have hkey : '=' ∉ trim k := fun hmem => absurd (noEquals_trimUnits hnone '=' hmem) (by decide)
    have htwice : trim (trim k) = trim k := strip_strip isBlank k
    have hassigned : ∀ k v : Text, assigned (k, v) = k ++ '=' :: v := fun _ _ => rfl
    rw [fixLine_fst n k v hnone hfix, hassigned, hassigned, show trimUnits k = trim k from rfl, rawValue_assigned hk]
    by_cases hname : IsName (trim k)
    · rw [classify_of_name hk v hname, classify_of_name hkey (fixedValue v) (htwice.symm ▸ hname), htwice]
      exact .assignment (trim k) _ _ (valueKept_fixedValue v hvalue)
    · -- the line would be a comment if its key began with the mark
      have hhash : ∀ rest, trim k ≠ '#' :: rest := by
        intro rest hrest
        obtain ⟨gap, hgap, -⟩ := exists_stripEnd isBlank (trimStart k)
        have hstart : trimStart k = '#' :: rest ++ gap := hrest ▸ hgap
        have hsame : u :: us = '#' :: rest ++ gap ++ '=' :: trimEnd v := by
          rw [← hhead, ← hstart]
          exact trim_assigned
        rw [(List.cons.inj hsame).1] at hu
        exact absurd hu (by decide)
      rw [classify_of_not_name hk v hname hhash,
        classify_of_not_name hkey (fixedValue v) (htwice.symm ▸ hname) (htwice.symm ▸ hhash)]
      exact .junk

/-! ## Texts -/

/-- A declaration and what it has become in a text whose first line has the number `first`. -/
structure DeclarationKept (first : Nat) (ls : List Text) (v w : Variable) : Prop where
  key : w.key = v.key
  line : w.line = v.line
  comment : w.comment = v.comment
  value : ∃ i line, v.line = (first + i : Nat) ∧ ls[i]? = some line ∧ ValueKept (rawValue line) v.value w.value

theorem DeclarationKept.cons {first : Nat} {ls : List Text} {v w : Variable}
    (h : DeclarationKept (first + 1) ls v w) (line : Text) : DeclarationKept first (line :: ls) v w := by
  obtain ⟨i, line', hi, hline, hvalue⟩ := h.value
  refine ⟨h.key, h.line, h.comment, i + 1, line', ?_, hline, hvalue⟩
  rw [hi]
  push_cast
  omega

theorem variablesFrom_fixed : ∀ (n : Nat) (waiting : Option Text) (ls : List Text), (∀ l ∈ ls, OneLine l) →
    List.Forall₂ (DeclarationKept n ls) (variablesFrom n waiting ls)
      (variablesFrom n waiting ((numbered n ls).map fun (m, line) => (fixLine (m : Int) line).1))
  | _, _, [], _ => List.Forall₂.nil
  | n, waiting, line :: ls, h => by
    have ih : ∀ waiting', List.Forall₂ (DeclarationKept n (line :: ls)) (variablesFrom (n + 1) waiting' ls)
        (variablesFrom (n + 1) waiting' ((numbered (n + 1) ls).map fun (m, line) => (fixLine (m : Int) line).1)) :=
      fun waiting' => (variablesFrom_fixed (n + 1) waiting' ls (fun l hl => h l (by simp [hl]))).imp
        fun _ _ hkept => hkept.cons line
    have hline := lineKept_fixLine n line (h line (by simp))
    rw [numbered, List.map_cons, variablesFrom, variablesFrom]
    dsimp only
    revert hline
    generalize classify line = before
    generalize classify (fixLine (n : Int) line).1 = after
    intro hline
    cases hline with
    | blank => exact ih none
    | comment note => exact ih note
    | assignment key old new hvalue =>
      exact List.Forall₂.cons ⟨rfl, rfl, rfl, 0, line, by simp, rfl, hvalue⟩ (ih none)
    | junk => exact ih waiting

/-- **A fixed text declares what the text declared**: the same keys, on the same lines, below the same comments, in
the same order, and the same values without the comments behind them. -/
theorem readEnv_fixText (t : Text) :
    List.Forall₂ (DeclarationKept 1 (lines t)) (readEnv t) (readEnv (fixText t).1) := by
  have hlines : ∀ l ∈ lines t, OneLine l :=
    fun l hl => (oneLine_iff l).2 (not_mem_of_mem_splitOn '\n' t l hl)
  unfold readEnv
  rw [show lines (fixText t).1 = _ from splitOn_fixText t]
  exact variablesFrom_fixed 1 none (lines t) hlines

end EnvAudit

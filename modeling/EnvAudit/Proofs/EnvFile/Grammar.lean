import EnvAudit.EnvFile.Line
import EnvAudit.Proofs.Text.Classes
import EnvAudit.Proofs.Text.Strip
import Mathlib.Tactic.Tauto
/-!
# The grammar of env files

What the lines of an env file are, said without the reader: a trimmed line is empty, or begins with `#`, or is a name,
white space, an equals sign and the rest, or it is junk.  The reader's `classify` follows this grammar
(`classify_blank_iff`, `classify_comment_iff`, `classify_assignment_iff`, `classify_junk_iff`).

The four forms exclude each other because `classify` gives every line one answer and each answer is one form.
-/
namespace EnvAudit

/-! ## Lines -/

def NameStart (c : Char) : Prop := ('A' ≤ c ∧ c ≤ 'Z') ∨ ('a' ≤ c ∧ c ≤ 'z') ∨ c = '_'

def NameChar (c : Char) : Prop := NameStart c ∨ ('0' ≤ c ∧ c ≤ '9')

/-- `[A-Za-z_][A-Za-z0-9_]*` -/
def IsName : Text → Prop
  | [] => False
  | c :: cs => NameStart c ∧ ∀ d ∈ cs, NameChar d

def BlankLine (line : Text) : Prop := trim line = []

/-- The note is what the line stands in it behind the mark; it may be empty. -/
def CommentLine (line note : Text) : Prop := ∃ rest, trim line = '#' :: rest ∧ trim rest = note

def AssignmentLine (line key rest : Text) : Prop :=
  IsName key ∧ ∃ gap, trim line = key ++ gap ++ '=' :: rest ∧ ∀ c ∈ gap, isBlank c = true

def JunkLine (line : Text) : Prop :=
  ¬ BlankLine line ∧ (∀ note, ¬ CommentLine line note) ∧ ∀ key rest, ¬ AssignmentLine line key rest

/-- A written value and what it stands for: one pair of equal quotes around it, if there is one, is not part of it. -/
inductive Unquoted : Text → Text → Prop
  | quoted (q : Char) (inner : Text) (hq : q = '"' ∨ q = '\'') : Unquoted (q :: inner ++ [q]) inner
  | plain (value : Text) (h : ∀ q inner, q = '"' ∨ q = '\'' → value ≠ q :: inner ++ [q]) : Unquoted value value

/-! ## Characters -/

theorem startsName_iff (c : Char) : startsName c = true ↔ NameStart c := by
  have hA : ('A' ≤ c) ↔ 65 ≤ c.toNat := Iff.rfl
  have hZ : (c ≤ 'Z') ↔ c.toNat ≤ 90 := Iff.rfl
  have ha : ('a' ≤ c) ↔ 97 ≤ c.toNat := Iff.rfl
  have hz : (c ≤ 'z') ↔ c.toNat ≤ 122 := Iff.rfl
  unfold NameStart startsName isAsciiLetter isAsciiUpper isAsciiLower
  rw [hA, hZ, ha, hz]
  simp only [Bool.or_eq_true, Bool.and_eq_true, decide_eq_true_eq, or_assoc]

theorem isAsciiWord_iff (c : Char) : isAsciiWord c = true ↔ NameChar c := by
  have h0 : ('0' ≤ c) ↔ 48 ≤ c.toNat := Iff.rfl
  have h9 : (c ≤ '9') ↔ c.toNat ≤ 57 := Iff.rfl
  unfold NameChar
  rw [← startsName_iff, h0, h9]
  unfold isAsciiWord startsName
  simp only [Bool.or_eq_true, Bool.and_eq_true, decide_eq_true_eq]
  tauto

/-- Characters of names are among the codes 48 to 122, and no white space is. -/
theorem code_of_nameChar {c : Char} (h : NameChar c) : 48 ≤ c.toNat ∧ c.toNat ≤ 122 := by
  have hword := (isAsciiWord_iff c).2 h
  have hu : ('_' : Char).toNat = 95 := rfl
  unfold isAsciiWord isAsciiLetter isAsciiUpper isAsciiLower at hword
  simp only [Bool.or_eq_true, Bool.and_eq_true, decide_eq_true_eq] at hword
  rcases hword with (h | h) | rfl
  · omega
  · omega
  · omega

theorem isBlank_of_nameChar {c : Char} (h : NameChar c) : isBlank c = false := isBlank_of_code (code_of_nameChar h)

theorem ne_of_nameChar {c d : Char} (h : NameChar c) (hd : isAsciiWord d = false) : c ≠ d := by
  rintro rfl
  rw [(isAsciiWord_iff c).2 h] at hd
  cases hd

theorem IsName.all {key : Text} (h : IsName key) : ∀ c ∈ key, NameChar c := by
  cases key with
  | nil => cases h
  | cons d ds =>
    intro c hc
    rcases List.mem_cons.1 hc with rfl | hc
    · exact Or.inl h.1
    · exact h.2 c hc

theorem IsName.ne_nil {key : Text} (h : IsName key) : key ≠ [] := by
  rintro rfl
  cases h

/-- A name is bare: white space is no part of it. -/
theorem IsName.bare {key : Text} (h : IsName key) : Bare isBlank key where
  head c hc := isBlank_of_nameChar (h.all c (List.mem_of_mem_head? hc))
  last c hc := isBlank_of_nameChar (h.all c (List.mem_of_mem_getLast? hc))

/-! ## Values -/

theorem isQuote_iff (c : Char) : isQuote c = true ↔ c = '"' ∨ c = '\'' := by
  unfold isQuote
  simp only [Bool.or_eq_true, decide_eq_true_eq]

theorem unquote_quoted {q : Char} (hq : q = '"' ∨ q = '\'') (inner : Text) : unquote (q :: inner ++ [q]) = inner := by
  have hb := (isQuote_iff q).2 hq
  cases inner with
  | nil => simp [unquote, hb]
  | cons d rest =>
    have hlast : (d :: (rest ++ [q])).getLast? = some q := by
      rw [← List.cons_append, List.getLast?_append]; rfl
    have hinit : (d :: (rest ++ [q])).dropLast = d :: rest := by
      rw [← List.cons_append, List.dropLast_concat]
    rw [List.cons_append, List.cons_append, unquote, hlast, hinit]
    simp [hb]

theorem trim_quoted (inner : Text) : trim ('"' :: inner ++ ['"']) = '"' :: inner ++ ['"'] := by
  refine strip_of_bare isBlank _ ⟨?_, ?_⟩
  · rintro c ⟨⟩
    decide
  · intro c hc
    rw [List.getLast?_append] at hc
    cases hc
    decide

theorem unquote_plain {value : Text} (h : ∀ q inner, q = '"' ∨ q = '\'' → value ≠ q :: inner ++ [q]) :
    unquote value = value := by
  unfold unquote
  split
  · rename_i c d rest
    rw [if_neg]
    intro hc
    rw [Bool.and_eq_true, isQuote_iff, decide_eq_true_eq] at hc
    obtain ⟨hq, hlast⟩ := hc
    refine h c (d :: rest).dropLast hq ?_
    rw [List.cons_append, List.dropLast_append_getLast? c hlast]
  · rfl

theorem unquote_eq_self_iff (p : Text) :
    unquote p = p ↔ ¬ ∃ q inner, (q = '"' ∨ q = '\'') ∧ p = q :: inner ++ [q] := by
  constructor
  · rintro h ⟨q, inner, hq, rfl⟩
    rw [unquote_quoted hq] at h
    have hlength := congrArg List.length h
    rw [List.length_append, List.length_cons] at hlength
    omega
  · intro h
    exact unquote_plain fun q inner hq hp => h ⟨q, inner, hq, hp⟩

theorem unquote_iff (value bare : Text) : unquote value = bare ↔ Unquoted value bare := by
  constructor
  · rintro rfl
    by_cases h : ∃ q inner, (q = '"' ∨ q = '\'') ∧ value = q :: inner ++ [q]
    · obtain ⟨q, inner, hq, rfl⟩ := h
      rw [unquote_quoted hq]
      exact .quoted q inner hq
    · have hplain : ∀ q inner, q = '"' ∨ q = '\'' → value ≠ q :: inner ++ [q] :=
        fun q inner hq he => h ⟨q, inner, hq, he⟩
      rw [unquote_plain hplain]
      exact .plain value hplain
  · intro h
    cases h with
    | quoted q inner hq => exact unquote_quoted hq bare
    | plain _ h => exact unquote_plain h

/-! ## Assignments -/

theorem takeName?_eq_some_iff (t name rest : Text) :
    takeName? t = some (name, rest) ↔ t = name ++ rest ∧ IsName name ∧ ∀ c ∈ rest.head?, isAsciiWord c = false := by
  constructor
  · intro h
    cases t with
    | nil => cases h
    | cons c cs =>
      rw [takeName?] at h
      split at h
      · rename_i hc
        obtain ⟨rfl, rfl⟩ := Prod.mk.inj (Option.some.inj h)
        refine ⟨by simp, ⟨(startsName_iff c).1 hc, fun d hd => ?_⟩, head?_stripStart isAsciiWord cs⟩
        exact (isAsciiWord_iff d).1 (List.mem_takeWhile_imp hd)
      · cases h
  · rintro ⟨rfl, hname, hrest⟩
    cases name with
    | nil => cases hname
    | cons c cs =>
      have hcs : ∀ d ∈ cs, isAsciiWord d = true := fun d hd => (isAsciiWord_iff d).2 (hname.2 d hd)
      have hdrop : (cs ++ rest).dropWhile isAsciiWord = rest :=
        (stripStart_append_left isAsciiWord cs rest hcs).trans (stripStart_of_head isAsciiWord rest hrest)
      have htake : (cs ++ rest).takeWhile isAsciiWord = cs := by
        have hsplit := List.takeWhile_append_dropWhile (p := isAsciiWord) (l := cs ++ rest)
        rw [hdrop] at hsplit
        exact List.append_cancel_right hsplit
      rw [List.cons_append, takeName?, if_pos ((startsName_iff c).2 hname.1), htake, hdrop]

theorem assignment?_eq_some_iff (t key value : Text) :
    assignment? t = some (key, value) ↔
      IsName key ∧ ∃ gap rest, t = key ++ gap ++ '=' :: rest ∧ (∀ c ∈ gap, isBlank c = true) ∧ value = trim rest := by
  constructor
  · intro h
    unfold assignment? at h
    obtain ⟨⟨name, after⟩, hname, hmatch⟩ := Option.bind_eq_some_iff.1 h
    obtain ⟨rfl, hkey, -⟩ := (takeName?_eq_some_iff t name after).1 hname
    dsimp only at hmatch
    split at hmatch
    · rename_i rest hrest
      obtain ⟨rfl, rfl⟩ := Prod.mk.inj (Option.some.inj hmatch)
      obtain ⟨gap, hgap, hblank⟩ := exists_stripStart isBlank after
      refine ⟨hkey, gap, rest, ?_, hblank, rfl⟩
      rw [List.append_assoc, ← hrest]
      exact congrArg (name ++ ·) hgap
    · cases hmatch
  · rintro ⟨hkey, gap, rest, rfl, hgap, rfl⟩
    -- the gap, or the equals sign where there is none, ends the name
    have hhead : ∀ c ∈ (gap ++ '=' :: rest).head?, isAsciiWord c = false := by
      intro c hc
      cases gap with
      | nil => cases hc; decide
      | cons d ds =>
        obtain rfl : d = c := Option.some.inj hc
        by_contra hw
        have hword : NameChar d := (isAsciiWord_iff d).1 (by simpa using hw)
        have hblank := hgap d (by simp)
        rw [isBlank_of_nameChar hword] at hblank
        cases hblank
    have hname : takeName? (key ++ gap ++ '=' :: rest) = some (key, gap ++ '=' :: rest) :=
      (takeName?_eq_some_iff _ _ _).2 ⟨List.append_assoc _ _ _, hkey, hhead⟩
    have hstart : trimStart (gap ++ '=' :: rest) = '=' :: rest :=
      (stripStart_append_left isBlank gap _ hgap).trans (stripStart_of_head isBlank _ (by rintro c ⟨⟩; decide))
    unfold assignment?
    rw [hname]
    simp only [Option.bind_eq_bind, Option.bind_some, hstart]

/-! ## Classes of lines -/

theorem classify_of_ne_hash (line : Text) (c : Char) (cs : Text) (h : trim line = c :: cs) (hc : c ≠ '#') :
    classify line = match assignment? (c :: cs) with
      | some (key, value) => .assignment key (unquote value)
      | none => .junk := by
  unfold classify
  rw [h]
  split
  · rename_i hnil; cases hnil
  · rename_i rest heq
    exact absurd (List.cons.inj heq).1 hc
  · rename_i heq
    obtain ⟨rfl, rfl⟩ := List.cons.inj heq
    rfl

theorem classify_of_comment {line note : Text} (h : CommentLine line note) :
    classify line = .comment (if note = [] then none else some note) := by
  obtain ⟨rest, hline, rfl⟩ := h
  unfold classify noteOf
  rw [hline]
  simp

theorem AssignmentLine.ne_hash {line key rest : Text} (h : AssignmentLine line key rest) :
    ∃ c cs, trim line = c :: cs ∧ c ≠ '#' := by
  obtain ⟨hkey, gap, hline, -⟩ := h
  obtain ⟨c, cs, rfl⟩ := List.exists_cons_of_ne_nil hkey.ne_nil
  exact ⟨c, cs ++ gap ++ '=' :: rest, by simp [hline], ne_of_nameChar (hkey.all c (by simp)) (by decide)⟩

theorem classify_of_assignment {line key rest : Text} (h : AssignmentLine line key rest) :
    classify line = .assignment key (unquote (trim rest)) := by
  obtain ⟨c, cs, hcs, hc⟩ := h.ne_hash
  obtain ⟨hkey, gap, hline, hgap⟩ := h
  have hsome : assignment? (c :: cs) = some (key, trim rest) :=
    (assignment?_eq_some_iff _ _ _).2 ⟨hkey, gap, rest, by rw [← hcs, hline], hgap, rfl⟩
  rw [classify_of_ne_hash line c cs hcs hc, hsome]

theorem classify_blank_iff (line : Text) : classify line = .blank ↔ BlankLine line := by
  constructor
  · intro h
    unfold classify at h
    split at h
    · rename_i hnil; exact hnil
    · cases h
    · split at h <;> cases h
  · intro h
    unfold classify
    rw [show trim line = [] from h]

/-- **A comment is read as the grammar has it**: its note is what the line says, if it says anything. -/
theorem classify_comment_iff (line : Text) (note : Option Text) :
    classify line = .comment note ↔ ∃ text, CommentLine line text ∧ note = if text = [] then none else some text := by
  constructor
  · intro h
    unfold classify at h
    split at h
    · cases h
    · rename_i rest hline
      refine ⟨trim rest, ⟨rest, hline, rfl⟩, ?_⟩
      rw [← Line.comment.inj h, noteOf]
      simp
    · split at h <;> cases h
  · rintro ⟨text, hline, rfl⟩
    exact classify_of_comment hline

/-- **An assignment is read as the grammar has it**, with the key of the line and the value its rest stands for. -/
theorem classify_assignment_iff (line key value : Text) :
    classify line = .assignment key value ↔ ∃ rest, AssignmentLine line key rest ∧ Unquoted (trim rest) value := by
  constructor
  · intro h
    unfold classify at h
    split at h
    · cases h
    · cases h
    · rename_i c cs _ hline
      split at h
      · rename_i key' written hsome
        obtain ⟨rfl, rfl⟩ := Line.assignment.inj h
        obtain ⟨hkey, gap, rest, heq, hgap, rfl⟩ := (assignment?_eq_some_iff _ _ _).1 hsome
        exact ⟨rest, ⟨hkey, gap, by rw [hline, heq], hgap⟩, (unquote_iff _ _).1 rfl⟩
      · cases h
  · rintro ⟨rest, hline, hvalue⟩
    rw [classify_of_assignment hline, (unquote_iff _ _).2 hvalue]

theorem classify_junk_iff (line : Text) : classify line = .junk ↔ JunkLine line := by
  constructor
  · intro h
    refine ⟨fun hb => ?_, fun note hc => ?_, fun key rest ha => ?_⟩
    · rw [(classify_blank_iff line).2 hb] at h; cases h
    · rw [classify_of_comment hc] at h; cases h
    · rw [classify_of_assignment ha] at h; cases h
  · rintro ⟨hblank, hcomment, hassign⟩
    cases hclass : classify line with
    | blank => exact absurd ((classify_blank_iff line).1 hclass) hblank
    | comment note =>
      obtain ⟨text, htext, -⟩ := (classify_comment_iff line note).1 hclass
      exact absurd htext (hcomment text)
    | assignment key value =>
      obtain ⟨rest, hrest, -⟩ := (classify_assignment_iff line key value).1 hclass
      exact absurd hrest (hassign key rest)
    | junk => rfl

/-! ## Around the first equals sign -/

theorem trim_assigned {k v : Text} : trim (k ++ '=' :: v) = trimStart k ++ '=' :: trimEnd v :=
  strip_append_cons isBlank '=' (by decide) k v

/-- **The key of a line that assigns** is what stands before its first equals sign, without white space. -/
theorem assignmentLine_iff {k : Text} (hk : '=' ∉ k) (v key rest : Text) :
    AssignmentLine (k ++ '=' :: v) key rest ↔ IsName key ∧ key = trim k ∧ rest = trimEnd v := by
  unfold AssignmentLine
  rw [trim_assigned]
  constructor
  · rintro ⟨hkey, gap, hline, hgap⟩
    have hkeyEquals : '=' ∉ key ++ gap := by
      intro hmem
      rcases List.mem_append.1 hmem with hmem | hmem
      · exact ne_of_nameChar (hkey.all '=' hmem) (by decide) rfl
      · exact absurd (hgap '=' hmem) (by decide)
    have hstartEquals : '=' ∉ trimStart k := fun hmem => hk (List.dropWhile_subset isBlank hmem)
    obtain ⟨hstart, hrest⟩ : trimStart k = key ++ gap ∧ trimEnd v = rest := by
      rcases List.append_eq_append_iff.1 hline with ⟨mid, hmid, hcons⟩ | ⟨mid, hmid, hcons⟩
      · cases mid with
        | nil => exact ⟨by simpa using hmid.symm, (List.cons.inj hcons).2⟩
        | cons c mid =>
          obtain ⟨rfl, -⟩ := List.cons.inj hcons
          exact absurd (by rw [hmid]; simp) hkeyEquals
      · cases mid with
        | nil => exact ⟨by simpa using hmid, (List.cons.inj hcons).2.symm⟩
        | cons c mid =>
          obtain ⟨rfl, -⟩ := List.cons.inj hcons
          exact absurd (by rw [hmid]; simp) hstartEquals
    refine ⟨hkey, ?_, hrest.symm⟩
    calc key = trim key := (strip_of_bare isBlank key hkey.bare).symm
      _ = trim (key ++ gap) := (strip_append_right isBlank gap key hgap).symm
      _ = trim (trimStart k) := by rw [hstart]
      _ = trim k := strip_stripStart isBlank k
  · rintro ⟨hkey, rfl, rfl⟩
    obtain ⟨gap, hgap, hblank⟩ := exists_stripEnd isBlank (trimStart k)
    exact ⟨hkey, gap, congrArg (· ++ '=' :: trimEnd v) hgap, hblank⟩

theorem classify_of_name {k : Text} (hk : '=' ∉ k) (v : Text) (hname : IsName (trim k)) :
    classify (k ++ '=' :: v) = .assignment (trim k) (unquote (trim v)) := by
  rw [classify_of_assignment ((assignmentLine_iff hk v _ _).2 ⟨hname, rfl, rfl⟩),
    show trim (trimEnd v) = trim v from strip_stripEnd isBlank v]

theorem classify_of_not_name {k : Text} (hk : '=' ∉ k) (v : Text) (hname : ¬ IsName (trim k))
    (hhash : ∀ rest, trim k ≠ '#' :: rest) : classify (k ++ '=' :: v) = .junk := by
  refine (classify_junk_iff _).2 ⟨fun hblank => ?_, fun note hcomment => ?_, fun key rest hassign => ?_⟩
  · have hnil : trimStart k ++ '=' :: trimEnd v = [] := by rw [← trim_assigned]; exact hblank
    simp at hnil
  · obtain ⟨rest, hline, -⟩ := hcomment
    rw [trim_assigned] at hline
    cases hstart : trimStart k with
    | nil =>
      rw [hstart] at hline
      exact absurd (List.cons.inj hline).1 (by decide)
    | cons c cs =>
      rw [hstart] at hline
      obtain ⟨rfl, -⟩ := List.cons.inj hline
      refine hhash (trimEnd cs) ?_
      unfold trim strip
      rw [show stripStart isBlank k = [] ++ '#' :: cs from hstart, stripEnd_append_cons isBlank '#' (by decide)]
      rfl
  · obtain ⟨hkey, rfl, -⟩ := (assignmentLine_iff hk v key rest).1 hassign
    exact hname hkey

end EnvAudit

import EnvAudit.Proofs.EnvFile.Settled
/-!
# The fixes of a text as a script

What is reported of a text leads from it to the fixed text.  The rules that change a line do so one after the other,
each in its turn and on what the one before it left (`leads_applyRules`, `sublist_applyRules`).  No line is fixed back
to what it was: a line that comes out as it went in is settled, and no rule says anything of a settled line
(`fixLine_fst_eq_iff`).  The fixes of a text are those of its lines, line by line (`filter_fixesFrom`), so they tell for
each line whether and how it changes, and whether the text changes at all (`textScript_fixText`).
-/
namespace EnvAudit

variable {α : Type}

/-- Fixes from one line to another: each begins at what the one before it left, and none leaves what it began at. -/
inductive Leads : List α → List (Fix α) → List α → Prop
  | stay (line : List α) : Leads line [] line
  | fix {f : Fix α} {fs : List (Fix α)} {last : List α} (hchange : f.before ≠ f.fixed) (h : Leads f.fixed fs last) :
      Leads f.before (f :: fs) last

/-- The fixes of one line, from what it was to what it is. -/
structure LineScript (number : Int) (old : List α) (fixes : List (Fix α)) (new : List α) : Prop where
  number : ∀ f ∈ fixes, f.line = number
  leads : Leads old fixes new
  reasons : (fixes.map fun f => f.rule.reason).Sublist (FixRule.all.map FixRule.reason)
  distinct : (fixes.map fun f => f.rule.reason).Nodup
  changed : new = old ↔ fixes = []

variable [CharLike α] [DecidableEq α]

/-! ## One line -/

theorem apply_ne {r : FixRule} {line fixed : List α} (h : r.apply line = some fixed) : line ≠ fixed := by
  unfold FixRule.apply at h
  split at h
  · cases h
  split at h
  · cases h
  split at h
  · cases h
  · rename_i hne
    exact Option.some.inj h ▸ Ne.symm hne

theorem leads_applyRules (n : Int) : ∀ (rs : List FixRule) (line : List α),
    Leads line (applyRules n rs line).2 (applyRules n rs line).1
  | [], line => .stay line
  | r :: rs, line => by
    rw [applyRules]
    split
    · exact leads_applyRules n rs line
    · rename_i fixed hfixed
      exact .fix (f := ⟨n, line, fixed, r⟩) (apply_ne hfixed) (leads_applyRules n rs fixed)

theorem sublist_applyRules (n : Int) : ∀ (rs : List FixRule) (line : List α),
    ((applyRules n rs line).2.map Fix.rule).Sublist rs
  | [], _ => .slnil
  | r :: rs, line => by
    rw [applyRules]
    split
    · exact (sublist_applyRules n rs line).cons r
    · rename_i fixed _
      exact (sublist_applyRules n rs fixed).cons_cons r

theorem leads_fixLine (n : Int) (line : List α) : Leads line (fixLine n line).2 (fixLine n line).1 := by
  unfold fixLine
  split
  · exact leads_applyRules n FixRule.all line
  · exact .stay line

theorem sublist_fixLine (n : Int) (line : List α) : ((fixLine n line).2.map Fix.rule).Sublist FixRule.all := by
  unfold fixLine
  split
  · exact sublist_applyRules n FixRule.all line
  · exact List.nil_sublist _

/-- No two rules give one reason. -/
theorem nodup_reasons : (FixRule.all.map FixRule.reason).Nodup := by decide

variable [ExactView α]

/-- **No line is fixed back** to what it was. -/
theorem fixLine_fst_eq_iff (n : Int) {line : List α} (hline : OneLine line) :
    (fixLine n line).1 = line ↔ (fixLine n line).2 = [] := by
  refine ⟨fun hsame => ?_, fixLine_fst_of_nil⟩
  have hsettled := settledLine_fixLine n hline
  rw [hsame] at hsettled
  rw [fixLine_of_settled n hsettled hline]

theorem lineScript_fixLine (n : Int) {line : List α} (hline : OneLine line) :
    LineScript n line (fixLine n line).2 (fixLine n line).1 := by
  have hreasons : ((fixLine n line).2.map fun f => f.rule.reason).Sublist (FixRule.all.map FixRule.reason) := by
    have hrules := (sublist_fixLine n line).map FixRule.reason
    rwa [List.map_map] at hrules
  exact ⟨fun f hf => line_of_mem_fixLine hf, leads_fixLine n line, hreasons, hreasons.nodup nodup_reasons,
    fixLine_fst_eq_iff n hline⟩

/-! ## Line by line -/

omit [ExactView α]

/-- The fixes of lines that are counted from a number. -/
def fixesFrom (start : Nat) (ls : List (List α)) : List (Fix α) :=
  ((numbered start ls).map fun p => (fixLine (p.1 : Int) p.2).2).flatten

theorem fixText_snd (t : List α) : (fixText t).2 = fixesFrom 1 (splitOn newlineMark t) := by
  unfold fixText fixesFrom
  simp only [List.map_map]
  rfl

theorem fixesFrom_cons (start : Nat) (l : List α) (ls : List (List α)) :
    fixesFrom start (l :: ls) = (fixLine (start : Int) l).2 ++ fixesFrom (start + 1) ls := rfl

theorem line_of_mem_fixesFrom {f : Fix α} : ∀ {start : Nat} {ls : List (List α)}, f ∈ fixesFrom start ls →
    (start : Int) ≤ f.line ∧ f.line < start + ls.length
  | _, [], h => absurd h List.not_mem_nil
  | start, l :: ls, h => by
    rw [fixesFrom_cons] at h
    rw [List.length_cons]
    rcases List.mem_append.1 h with h | h
    · have hline := line_of_mem_fixLine h
      omega
    · have hrest := line_of_mem_fixesFrom h
      omega

/-- Earlier lines have their fixes first. -/
theorem pairwise_fixesFrom : ∀ (start : Nat) (ls : List (List α)),
    (fixesFrom start ls).Pairwise fun f g => f.line ≤ g.line
  | _, [] => .nil
  | start, l :: ls => by
    have hfirst : ∀ f ∈ (fixLine (start : Int) l).2, f.line = start := fun f hf => line_of_mem_fixLine hf
    rw [fixesFrom_cons, List.pairwise_append]
    refine ⟨?_, pairwise_fixesFrom (start + 1) ls, fun f hf g hg => ?_⟩
    · exact List.pairwise_of_forall_mem_list fun f hf g hg => Int.le_of_eq ((hfirst f hf).trans (hfirst g hg).symm)
    · have hlater := line_of_mem_fixesFrom hg
      rw [hfirst f hf]
      omega

/-- **The fixes that name a line** are the fixes of that line. -/
theorem filter_fixesFrom : ∀ (start : Nat) (ls : List (List α)) (i : Nat) (l : List α), ls[i]? = some l →
    (fixesFrom start ls).filter (fun f => f.line = (start : Int) + i) = (fixLine ((start : Int) + i) l).2
  | start, l :: ls, 0, _, rfl => by
    have hfirst : (fixLine (start : Int) l).2.filter (fun f => f.line = (start : Int)) = (fixLine (start : Int) l).2 :=
      List.filter_eq_self.2 fun f hf => decide_eq_true (line_of_mem_fixLine hf)
    have hrest : (fixesFrom (start + 1) ls).filter (fun f => f.line = (start : Int)) = [] :=
      List.filter_eq_nil_iff.2 fun f hf => by
        have hlater := line_of_mem_fixesFrom hf
        rw [decide_eq_true_eq]
        omega
    simp only [Int.natCast_zero, Int.add_zero]
    rw [fixesFrom_cons, List.filter_append, hfirst, hrest, List.append_nil]
  | start, l :: ls, i + 1, m, h => by
    have hnumber : (start : Int) + (i + 1 : Nat) = ((start + 1 : Nat) : Int) + i := by omega
    have hfirst : (fixLine (start : Int) l).2.filter (fun f => f.line = (start : Int) + (i + 1 : Nat)) = [] :=
      List.filter_eq_nil_iff.2 fun f hf => by
        have hline := line_of_mem_fixLine hf
        rw [decide_eq_true_eq]
        omega
    rw [fixesFrom_cons, List.filter_append, hfirst, List.nil_append, hnumber]
    exact filter_fixesFrom (start + 1) ls i m h

/-! ## Texts -/

/-- Fixes from one text to another: as many lines, those of earlier lines first, a script for each line. -/
structure TextScript (old : List α) (fixes : List (Fix α)) (new : List α) : Prop where
  length : (splitOn newlineMark new).length = (splitOn newlineMark old).length
  ascending : fixes.Pairwise fun f g => f.line ≤ g.line
  placed : ∀ f ∈ fixes, 1 ≤ f.line ∧ f.line ≤ (splitOn newlineMark old).length
  lines : ∀ (i : Nat) (l : List α), (splitOn newlineMark old)[i]? = some l →
    ∃ m, (splitOn newlineMark new)[i]? = some m ∧
      LineScript (i + 1) l (fixes.filter fun f => f.line = (i : Int) + 1) m
  changed : new = old ↔ fixes = []

variable [ExactView α]

theorem fixText_fst_eq_iff (t : List α) : (fixText t).1 = t ↔ (fixText t).2 = [] := by
  constructor
  · intro hsame
    have hsettled := settledLine_of_mem_fixText t
    rw [hsame] at hsettled
    rw [fixText_of_settledLines t hsettled]
  · intro hnone
    have hlines : splitOn newlineMark (fixText t).1 = splitOn newlineMark t := List.ext_getElem? fun i =>
      getElem?_splitOn_fixText_of_unnamed fun f hf => absurd (hnone ▸ hf) List.not_mem_nil
    rw [← joinWith_splitOn newlineMark (fixText t).1, hlines, joinWith_splitOn]

/-- **The fixes of a text** are a script from it to the fixed text. -/
theorem textScript_fixText (t : List α) : TextScript t (fixText t).2 (fixText t).1 := by
  refine ⟨length_splitOn_fixText t, ?_, fun f hf => ?_, fun i l hl => ?_, fixText_fst_eq_iff t⟩
  · rw [fixText_snd]
    exact pairwise_fixesFrom 1 _
  · rw [fixText_snd] at hf
    have hplace := line_of_mem_fixesFrom hf
    omega
  · refine ⟨(fixLine ((i : Int) + 1) l).1, by rw [getElem?_splitOn_fixText, hl]; rfl, ?_⟩
    have hfixes := filter_fixesFrom 1 (splitOn newlineMark t) i l hl
    rw [show ((1 : Nat) : Int) + i = (i : Int) + 1 by omega] at hfixes
    rw [fixText_snd, hfixes]
    exact lineScript_fixLine _ (oneLine_of_mem_splitOn t l (List.mem_of_getElem? hl))

/-- Two lines are fixed, one of them by three rules, and a byte that is no character stands in the other. -/
theorem textScript_fixText_keptByte :
    TextScript ("KEY = two words # note\nA= ".toList.map Glyph.char ++ [.raw 0xff])
      (fixText ("KEY = two words # note\nA= ".toList.map Glyph.char ++ [.raw 0xff])).2
      ("KEY=\"two words\"\nA=".toList.map Glyph.char ++ [.raw 0xff]) := by
  have hfixed : (fixText ("KEY = two words # note\nA= ".toList.map Glyph.char ++ [.raw 0xff])).1 =
      "KEY=\"two words\"\nA=".toList.map Glyph.char ++ [.raw 0xff] := by decide
  exact hfixed ▸ textScript_fixText _

end EnvAudit

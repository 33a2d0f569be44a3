import EnvAudit.Proofs.EnvFile.FixedValue
import EnvAudit.Proofs.Text.Classes
/-!
# Fixed files stay fixed

Each rule is applied once, and what one rule writes is never work for another.  A value is settled when no rule has
anything to say about it, and every fixed value is (`settledValue_fixedValue`): a rule brings about its own clause of
`SettledValue` and keeps the clauses of the rules before it.  So a fixed line is settled (`settledLine_fixLine`).  A
text of settled lines is left as it is, and no other text is (`fixText_eq_self_iff`), so fixing a fixed text changes
nothing and reports nothing (`fixText_fixText`).
-/
namespace EnvAudit

variable {α : Type} [CharLike α]

/-! ## What each rule leaves alone -/

def Started (v : List α) : Prop := ∀ u ∈ v.head?, looksBlank u = false

def Uncommented (v : List α) : Prop := startsQuoted v = true ∨ ∀ kept, ¬ CommentBehind v kept

def Unspaced (v : List α) : Prop := startsQuoted v = true ∨ (trimUnits v).any (looksLike ' ') = false

def Unnumbered (v : List α) : Prop :=
  ∀ q inner, trimUnits v = q :: inner ++ [q] → isQuoteMark q = true → isWholeNumber inner = false

/-- One clause for each rule, in the order of the rules. -/
structure SettledValue (v : List α) : Prop where
  started : Started v
  uncommented : Uncommented v
  unspaced : Unspaced v
  unnumbered : Unnumbered v

theorem Started.trimUnitsStart {v : List α} (h : Started v) : trimUnitsStart v = v := stripStart_of_head looksBlank v h

theorem Uncommented.withoutComment [ExactView α] {v : List α} (h : Uncommented v) (hline : OneLine v) :
    withoutComment v = v := by
  unfold EnvAudit.withoutComment
  split
  · rfl
  · rename_i hplain
    have hno := h.resolve_left hplain
    rcases dropComment?_spec v hline with ⟨kept, -, hcut, -⟩ | ⟨hnone, -⟩
    · exact absurd hcut (hno kept)
    · rw [hnone]; rfl

theorem Unspaced.withQuotes {v : List α} (h : Unspaced v) : withQuotes v = v := by
  unfold EnvAudit.withQuotes
  rcases h with h | h
  · rw [h]; rfl
  · rw [h, Bool.not_false, Bool.or_true]; rfl

theorem withoutNumberQuotes_of_ends [DecidableEq α] {v inner : List α} {q last : α}
    (hv : trimUnits v = q :: inner ++ [last]) :
    withoutNumberQuotes v = if isQuoteMark q && last = q && isWholeNumber inner then inner else v := by
  unfold withoutNumberQuotes
  cases hrest : inner ++ [last] with
  | nil => simp at hrest
  | cons r rest =>
    have hlast : (r :: rest).getLast? = some last := by rw [← hrest, List.getLast?_concat]
    have hinit : (r :: rest).dropLast = inner := by rw [← hrest, List.dropLast_concat]
    rw [hv, List.cons_append, hrest]
    simp only [hlast, hinit, Option.some_inj]

theorem Unnumbered.withoutNumberQuotes [DecidableEq α] {v : List α} (h : Unnumbered v) : withoutNumberQuotes v = v := by
  by_cases hends : ∃ q inner last, trimUnits v = q :: inner ++ [last]
  · obtain ⟨q, inner, last, hv⟩ := hends
    rw [withoutNumberQuotes_of_ends hv, if_neg]
    intro hnumber
    rw [Bool.and_eq_true, Bool.and_eq_true, decide_eq_true_eq] at hnumber
    obtain ⟨⟨hq, rfl⟩, hwhole⟩ := hnumber
    rw [h last inner hv hq] at hwhole
    cases hwhole
  · unfold EnvAudit.withoutNumberQuotes
    split
    · rename_i q r rest hv
      have hlast : (r :: rest).dropLast ++ [(r :: rest).getLast (by simp)] = r :: rest :=
        List.dropLast_append_getLast _
      exact absurd ⟨q, _, _, by rw [hv, List.cons_append, hlast]⟩ hends
    · rfl

/-! ## What each rule brings about -/

theorem started_trimUnitsStart (v : List α) : Started (trimUnitsStart v) := head?_stripStart looksBlank v

theorem uncommented_withoutComment [ExactView α] {v : List α} (hline : OneLine v) : Uncommented (withoutComment v) := by
  unfold withoutComment
  split
  · rename_i hquoted
    exact Or.inl hquoted
  · rcases dropComment?_spec v hline with ⟨kept, hkept, ⟨gap, rest, hv, -⟩, hleast⟩ | ⟨hnone, hno⟩
    · refine Or.inr ?_
      rw [hkept, Option.getD_some]
      rintro other ⟨gap', rest', hother, hgap', hblank'⟩
      -- a comment in what is kept would be an earlier one of the value
      have hearlier : CommentBehind v other :=
        ⟨gap', rest' ++ gap ++ hashMark :: rest, by rw [hv, hother]; simp, hgap', hblank'⟩
      have hle := hleast other hearlier
      rw [hother, List.length_append, List.length_append, List.length_cons] at hle
      omega
    · rw [hnone]
      exact Or.inr hno

theorem started_withoutComment [ExactView α] {v : List α} (h : Started v) (hline : OneLine v) :
    Started (withoutComment v) := by
  unfold withoutComment
  split
  · exact h
  · rcases dropComment?_spec v hline with ⟨kept, hkept, hcut⟩ | ⟨hnone, -⟩
    · obtain ⟨-, hhead, -⟩ := hcut.bare h
      rw [hkept, Option.getD_some]
      unfold Started
      rw [← hhead]
      exact h
    · rw [hnone]
      exact h

theorem startsQuoted_quoted (inner : List α) : startsQuoted (quoteMark :: inner ++ [quoteMark]) = true := by
  have hquote : looksBlank (quoteMark : α) = false := looksBlank_ofChar '"'
  have hbare : Bare looksBlank (quoteMark :: inner ++ [quoteMark] : List α) :=
    ⟨fun u hu => by cases hu; exact hquote, fun u hu => by rw [List.getLast?_append] at hu; cases hu; exact hquote⟩
  have hmark : isQuoteMark (quoteMark : α) = true := by
    unfold isQuoteMark quoteMark
    rw [CharLike.view_ofChar]
    rfl
  unfold startsQuoted trimUnits
  rw [strip_of_bare looksBlank _ hbare]
  exact hmark

/-- Quotes that come satisfy every clause that the rules before could have brought about. -/
theorem withQuotes_cases (v : List α) :
    (withQuotes v = v ∧ Unspaced v) ∨ (Started (withQuotes v) ∧ startsQuoted (withQuotes v) = true) := by
  unfold withQuotes
  split
  · rename_i h
    rw [Bool.or_eq_true, Bool.not_eq_true'] at h
    exact Or.inl ⟨rfl, h⟩
  · exact Or.inr ⟨fun u hu => by cases hu; exact looksBlank_ofChar '"', startsQuoted_quoted _⟩

theorem withoutNumberQuotes_cases [DecidableEq α] (v : List α) :
    Unnumbered v ∨ isWholeNumber (withoutNumberQuotes v) = true := by
  by_cases h : Unnumbered v
  · exact Or.inl h
  · refine Or.inr ?_
    unfold Unnumbered at h
    push Not at h
    obtain ⟨q, inner, hv, hq, hwhole⟩ := h
    have hwhole : isWholeNumber inner = true := by simpa using hwhole
    rw [withoutNumberQuotes_of_ends hv, if_pos (by simp [hq, hwhole])]
    exact hwhole

/-- Digits are no white space, no quote and no hash sign, so no rule has anything to say about a number. -/
theorem settledValue_of_wholeNumber {v : List α} (h : isWholeNumber v = true) (hline : OneLine v) : SettledValue v := by
  have hdigits := isDigit_of_isWholeNumber h hline
  have hother : ∀ u ∈ v, ∀ c, isDigit c = false → CharLike.view u ≠ c := by
    intro u hu c hc hview
    have hdigit := hdigits u hu
    rw [hview, hc] at hdigit
    cases hdigit
  have htrim : ∀ u ∈ trimUnits v, u ∈ v := fun u hu => mem_of_mem_strip hu
  constructor
  · exact fun u hu => isBlank_of_isDigit (hdigits u (List.mem_of_mem_head? hu))
  · refine Or.inr ?_
    rintro kept ⟨gap, rest, hv, -⟩
    exact hother hashMark (by rw [hv]; simp) '#' (by decide) (CharLike.view_ofChar '#')
  · refine Or.inr (List.any_eq_false.2 fun u hu hspace => ?_)
    exact hother u (htrim u hu) ' ' (by decide) (of_decide_eq_true hspace)
  · intro q inner hv hq
    have hmem : q ∈ v := htrim q (by rw [hv]; simp)
    unfold isQuoteMark isQuote at hq
    rw [Bool.or_eq_true, decide_eq_true_eq, decide_eq_true_eq] at hq
    rcases hq with hview | hview
    · exact absurd hview (hother q hmem '"' (by decide))
    · exact absurd hview (hother q hmem '\'' (by decide))

/-- **Every fixed value is settled.** -/
theorem settledValue_fixedValue [ExactView α] [DecidableEq α] {v : List α} (hline : OneLine v) :
    SettledValue (fixedValue v) := by
  have hstart : OneLine (trimUnitsStart v) := oneLine_trimUnitsStart hline
  have hquoted : OneLine (withQuotes (withoutComment (trimUnitsStart v))) :=
    oneLine_withQuotes (oneLine_withoutComment hstart)
  unfold fixedValue
  rcases withoutNumberQuotes_cases (withQuotes (withoutComment (trimUnitsStart v))) with hnumber | hwhole
  · rw [hnumber.withoutNumberQuotes]
    rcases withQuotes_cases (withoutComment (trimUnitsStart v)) with ⟨hsame, hunspaced⟩ | ⟨hstarted, hbegins⟩
    · rw [hsame] at hnumber ⊢
      exact ⟨started_withoutComment (started_trimUnitsStart v) hstart, uncommented_withoutComment hstart, hunspaced,
        hnumber⟩
    · exact ⟨hstarted, Or.inl hbegins, Or.inl hbegins, hnumber⟩
  · exact settledValue_of_wholeNumber hwhole (oneLine_withoutNumberQuotes hquoted)

/-! ## Lines and texts -/

/-- A line that assigns something has a bare key and a settled value. -/
def SettledLine (line : List α) : Prop :=
  isFixable line = true → ∃ k v, line = assigned (k, v) ∧ NoEquals k ∧ trimUnits k = k ∧ SettledValue v

section Lines

variable [DecidableEq α] [ExactView α]

theorem settle_of_settled (r : FixRule) {k v : List α} (hk : trimUnits k = k) (hv : SettledValue v)
    (hline : OneLine v) : r.settle (k, v) = (k, v) := by
  cases r with
  | equalsSpacing => rw [settle_equalsSpacing, hk, hv.started.trimUnitsStart]
  | inlineComment => rw [settle_inlineComment, hv.uncommented.withoutComment hline]
  | unquotedSpaces => rw [settle_unquotedSpaces, hv.unspaced.withQuotes]
  | quotedNumber => rw [settle_quotedNumber, hv.unnumbered.withoutNumberQuotes]

theorem applyRules_of_settled (n : Int) {k v : List α} (hnone : NoEquals k) (hk : trimUnits k = k) (hv : SettledValue v)
    (hline : OneLine v) : ∀ rs : List FixRule, applyRules n rs (assigned (k, v)) = (assigned (k, v), [])
  | [] => rfl
  | r :: rs => by
    rw [applyRules, apply_assigned r (k, v) hnone, settle_of_settled r hk hv hline, if_pos rfl]
    exact applyRules_of_settled n hnone hk hv hline rs

theorem fixLine_of_settled (n : Int) {line : List α} (h : SettledLine line) (hline : OneLine line) :
    fixLine n line = (line, []) := by
  cases hfix : isFixable line with
  | false => exact fixLine_of_not_fixable n line hfix
  | true =>
    obtain ⟨k, v, rfl, hnone, hk, hv⟩ := h hfix
    unfold fixLine
    rw [if_pos hfix]
    exact applyRules_of_settled n hnone hk hv (oneLine_assigned_iff.1 hline).2 FixRule.all

/-- **A fixed line is settled.** -/
theorem settledLine_fixLine (n : Int) {line : List α} (hline : OneLine line) : SettledLine (fixLine n line).1 := by
  cases hfix : isFixable line with
  | false =>
    rw [fixLine_of_not_fixable n line hfix]
    exact fun h => absurd (hfix.symm.trans h) Bool.false_ne_true
  | true =>
    obtain ⟨k, v, rfl, hk⟩ := exists_assigned line ((isFixable_iff line).1 hfix).2
    rw [fixLine_fst n k v hk hfix]
    exact fun _ => ⟨trimUnits k, fixedValue v, rfl, noEquals_trimUnits hk, strip_strip looksBlank k,
      settledValue_fixedValue (oneLine_assigned_iff.1 hline).2⟩

theorem settledLine_of_mem_fixText (t : List α) : ∀ line ∈ splitOn newlineMark (fixText t).1, SettledLine line := by
  rw [splitOn_fixText]
  intro line hline
  obtain ⟨⟨n, raw⟩, hraw, rfl⟩ := List.mem_map.1 hline
  exact settledLine_fixLine n (oneLine_of_mem_splitOn t raw (mem_of_mem_numbered hraw))

theorem fixText_of_settledLines (t : List α) (h : ∀ line ∈ splitOn newlineMark t, SettledLine line) :
    fixText t = (t, []) := by
  have hkept : ∀ p ∈ numbered 1 (splitOn newlineMark t), fixLine (p.1 : Int) p.2 = (p.2, []) := by
    rintro ⟨n, line⟩ hp
    have hline := mem_of_mem_numbered hp
    exact fixLine_of_settled n (h line hline) (oneLine_of_mem_splitOn t line hline)
  unfold fixText
  simp only [List.map_congr_left hkept, List.map_map]
  refine Prod.ext ?_ ?_
  · calc joinWith [newlineMark] ((numbered 1 (splitOn newlineMark t)).map Prod.snd)
        = joinWith [newlineMark] (splitOn newlineMark t) := by rw [map_snd_numbered]
      _ = t := joinWith_splitOn newlineMark t
  · refine List.flatten_eq_nil_iff.2 fun fixes hfixes => ?_
    obtain ⟨p, -, hnil⟩ := List.mem_map.1 hfixes
    exact hnil.symm

/-- **A text is left as it is exactly when all its lines are settled.** -/
theorem fixText_eq_self_iff (t : List α) :
    fixText t = (t, []) ↔ ∀ line ∈ splitOn newlineMark t, SettledLine line := by
  refine ⟨fun h => ?_, fixText_of_settledLines t⟩
  have hfixed := settledLine_of_mem_fixText t
  rwa [h] at hfixed

/-- **Fixing a text once settles all its lines**, so fixing it again changes nothing and reports nothing. -/
theorem fixText_fixText (t : List α) :
    (∀ line ∈ splitOn newlineMark (fixText t).1, SettledLine line) ∧ fixText (fixText t).1 = ((fixText t).1, []) := by
  have hlines := settledLine_of_mem_fixText t
  exact ⟨hlines, (fixText_eq_self_iff (fixText t).1).2 hlines⟩

/-- Three rules have their say in one line, and the byte behind the comment mark is no character. -/
theorem fixText_fixText_keptByte :
    fixText (fixText ("KEY = two words #".toList.map Glyph.char ++ [Glyph.raw 0xff])).1 =
      ("KEY=\"two words\"".toList.map Glyph.char, []) :=
  (fixText_fixText _).2.trans (by decide)

end Lines

end EnvAudit

import EnvAudit.EnvFile.Fix
import EnvAudit.Proofs.Text.Strip
/-!
# What fixing makes of a line

The four rules see a line as a key and a value.  The first strips the key and the start of the value and the other
three change the value alone, each by a function of its own, so a fixed line is its stripped key, the equals sign and
`fixedValue` of what stood behind it (`fixLine_fst`).  Every fix names the line it is of, a line without a fix is left
as it is, and all that a rule can bring to a line is a quote mark (`mem_fixLine`).

All of it holds of any units whose view is exact: what shows as a character other than the replacement is that
character.
-/
namespace EnvAudit

class ExactView (α : Type) [CharLike α] : Prop where
  eq_ofChar : ∀ (u : α) (c : Char), CharLike.view u = c → c ≠ replacement → u = CharLike.ofChar c

instance : ExactView Char := ⟨fun _ _ h _ => h⟩

instance : ExactView Glyph := ⟨fun u c h hc => by
  cases u with
  | char d => exact congrArg Glyph.char h
  | raw b => exact absurd h.symm hc⟩

variable {α : Type} [CharLike α]

theorem looksLike_ofChar (c d : Char) : looksLike c (CharLike.ofChar d : α) = decide (d = c) := by
  unfold looksLike
  rw [CharLike.view_ofChar]

theorem looksBlank_ofChar (c : Char) : looksBlank (CharLike.ofChar c : α) = isBlank c := by
  unfold looksBlank
  rw [CharLike.view_ofChar]

theorem eq_ofChar_of_looksLike [ExactView α] {c : Char} {u : α} (h : looksLike c u = true) (hc : c ≠ replacement) :
    u = CharLike.ofChar c := ExactView.eq_ofChar u c (of_decide_eq_true h) hc

/-! ## Keys and values -/

def NoEquals (l : List α) : Prop := ∀ u ∈ l, looksLike '=' u = false

def assigned (kv : List α × List α) : List α := kv.1 ++ equalsMark :: kv.2

theorem splitAssignment_assigned : ∀ (k v : List α), NoEquals k → splitAssignment (assigned (k, v)) = some (k, v)
  | [], v, _ => by
    unfold assigned equalsMark
    rw [List.nil_append, splitAssignment, looksLike_ofChar]
    rfl
  | u :: k, v, h => by
    have hu : looksLike '=' u = false := h u (by simp)
    have ih := splitAssignment_assigned k v (fun x hx => h x (by simp [hx]))
    unfold assigned at ih ⊢
    rw [List.cons_append, splitAssignment, hu, ih]
    rfl

theorem exists_assigned [ExactView α] : ∀ (line : List α), line.any (looksLike '=') = true →
    ∃ k v, line = assigned (k, v) ∧ NoEquals k
  | [], h => by cases h
  | u :: us, h => by
    by_cases hu : looksLike '=' u = true
    · refine ⟨[], us, ?_, fun x hx => by cases hx⟩
      rw [eq_ofChar_of_looksLike hu (by decide)]
      rfl
    · have hus : us.any (looksLike '=') = true := by simpa [hu] using h
      obtain ⟨k, v, rfl, hk⟩ := exists_assigned us hus
      refine ⟨u :: k, v, rfl, fun x hx => ?_⟩
      rcases List.mem_cons.1 hx with rfl | hx
      · simpa using hu
      · exact hk x hx

theorem noEquals_trimUnits {k : List α} (h : NoEquals k) : NoEquals (trimUnits k) :=
  fun u hu => h u (mem_of_mem_strip hu)

/-- Only lines that assign something and are no comment are looked at. -/
theorem isFixable_iff (line : List α) :
    isFixable line = true ↔
      (∃ u us, trimUnits line = u :: us ∧ looksLike '#' u = false) ∧ line.any (looksLike '=') = true := by
  unfold isFixable
  cases trimUnits line with
  | nil => simp
  | cons u us => simp

/-! ## Rules on keys and values -/

section Rules

variable [DecidableEq α]

/-- The key and value that a rule leaves. -/
def FixRule.settle (r : FixRule) (kv : List α × List α) : List α × List α := (r.amend kv.1 kv.2).getD kv

theorem apply_assigned (r : FixRule) (kv : List α × List α) (h : NoEquals kv.1) :
    r.apply (assigned kv) = if assigned (r.settle kv) = assigned kv then none else some (assigned (r.settle kv)) := by
  obtain ⟨k, v⟩ := kv
  unfold FixRule.apply FixRule.settle
  rw [splitAssignment_assigned k v h]
  simp only
  cases r.amend k v with
  | none => rw [Option.getD_none, if_pos rfl]
  | some kv' => rfl

theorem noEquals_settle (r : FixRule) (kv : List α × List α) (h : NoEquals kv.1) : NoEquals (r.settle kv).1 := by
  obtain ⟨k, v⟩ := kv
  have hk : (r.settle (k, v)).1 = k ∨ (r.settle (k, v)).1 = trimUnits k := by
    unfold FixRule.settle
    cases r with
    | equalsSpacing =>
      simp only [FixRule.amend]
      split
      · exact Or.inr rfl
      · exact Or.inl rfl
    | inlineComment =>
      simp only [FixRule.amend]
      split
      · exact Or.inl rfl
      · cases dropComment? v <;> exact Or.inl rfl
    | unquotedSpaces =>
      simp only [FixRule.amend]
      split <;> exact Or.inl rfl
    | quotedNumber =>
      simp only [FixRule.amend]
      split
      · split <;> exact Or.inl rfl
      · exact Or.inl rfl
  rcases hk with hk | hk
  · rw [hk]; exact h
  · rw [hk]; exact noEquals_trimUnits h

/-- **The rules in order, on the line, are the rules in order on its key and value.** -/
theorem applyRules_assigned (n : Int) : ∀ (rs : List FixRule) (kv : List α × List α), NoEquals kv.1 →
    (applyRules n rs (assigned kv)).1 = assigned (rs.foldl (fun kv r => r.settle kv) kv)
  | [], _, _ => rfl
  | r :: rs, kv, h => by
    rw [applyRules, apply_assigned r kv h, List.foldl_cons, ← applyRules_assigned n rs _ (noEquals_settle r kv h)]
    by_cases hsame : assigned (r.settle kv) = assigned kv
    · rw [if_pos hsame, hsame]
    · rw [if_neg hsame]

/-! ## Values -/

def withoutComment (v : List α) : List α := if startsQuoted v then v else (dropComment? v).getD v

def withQuotes (v : List α) : List α :=
  if startsQuoted v || !(trimUnits v).any (looksLike ' ') then v else quoteMark :: trimUnits v ++ [quoteMark]

def withoutNumberQuotes (v : List α) : List α :=
  match trimUnits v with
  | q :: r :: rest =>
    if isQuoteMark q && (r :: rest).getLast? = some q && isWholeNumber (r :: rest).dropLast then (r :: rest).dropLast
    else v
  | _ => v

def fixedValue (v : List α) : List α := withoutNumberQuotes (withQuotes (withoutComment (trimUnitsStart v)))

theorem settle_equalsSpacing (k v : List α) :
    FixRule.equalsSpacing.settle (k, v) = (trimUnits k, trimUnitsStart v) := by
  unfold FixRule.settle
  simp only [FixRule.amend]
  split
  · rfl
  · rename_i h
    have hboth : k = trimUnits k ∧ v = trimUnitsStart v := by
      simpa only [Bool.or_eq_true, decide_eq_true_eq, not_or, ne_eq, not_not] using h
    rw [Option.getD_none, ← hboth.1, ← hboth.2]

theorem settle_inlineComment (k v : List α) : FixRule.inlineComment.settle (k, v) = (k, withoutComment v) := by
  unfold FixRule.settle withoutComment
  simp only [FixRule.amend]
  split
  · rfl
  · cases dropComment? v <;> rfl

theorem settle_unquotedSpaces (k v : List α) : FixRule.unquotedSpaces.settle (k, v) = (k, withQuotes v) := by
  unfold FixRule.settle withQuotes
  simp only [FixRule.amend]
  split <;> rfl

theorem settle_quotedNumber (k v : List α) : FixRule.quotedNumber.settle (k, v) = (k, withoutNumberQuotes v) := by
  unfold FixRule.settle withoutNumberQuotes
  simp only [FixRule.amend]
  rcases trimUnits v with _ | ⟨q, _ | ⟨r, rest⟩⟩
  · rfl
  · rfl
  · dsimp only
    split <;> rfl

/-- **A fixed line** is its stripped key, the equals sign and its fixed value. -/
theorem fixLine_fst (n : Int) (k v : List α) (hk : NoEquals k) (hfix : isFixable (assigned (k, v)) = true) :
    (fixLine n (assigned (k, v))).1 = assigned (trimUnits k, fixedValue v) := by
  unfold fixLine
  rw [if_pos hfix, applyRules_assigned n _ _ hk]
  unfold FixRule.all fixedValue
  simp only [List.foldl_cons, List.foldl_nil, settle_equalsSpacing, settle_inlineComment, settle_unquotedSpaces,
    settle_quotedNumber]

theorem fixLine_of_not_fixable (n : Int) (line : List α) (h : isFixable line = false) :
    fixLine n line = (line, []) := by
  unfold fixLine
  rw [if_neg (by simp [h])]

/-! ## Fixes -/

theorem line_of_mem_applyRules {n : Int} {f : Fix α} : ∀ {rs : List FixRule} {line : List α},
    f ∈ (applyRules n rs line).2 → f.line = n
  | [], _, h => absurd h List.not_mem_nil
  | r :: rs, line, h => by
    rw [applyRules] at h
    split at h
    · exact line_of_mem_applyRules h
    · rcases List.mem_cons.1 h with rfl | h
      · rfl
      · exact line_of_mem_applyRules h

/-- Every fix of a line names the line. -/
theorem line_of_mem_fixLine {n : Int} {line : List α} {f : Fix α} (h : f ∈ (fixLine n line).2) : f.line = n := by
  unfold fixLine at h
  split at h
  · exact line_of_mem_applyRules h
  · exact absurd h List.not_mem_nil

theorem applyRules_fst_of_nil {n : Int} : ∀ {rs : List FixRule} {line : List α}, (applyRules n rs line).2 = [] →
    (applyRules n rs line).1 = line
  | [], _, _ => rfl
  | r :: rs, line, h => by
    rw [applyRules] at h ⊢
    split at h
    · exact applyRules_fst_of_nil h
    · cases h

/-- A line without a fix is left as it is. -/
theorem fixLine_fst_of_nil {n : Int} {line : List α} (h : (fixLine n line).2 = []) : (fixLine n line).1 = line := by
  unfold fixLine at h ⊢
  by_cases hfix : isFixable line = true
  · rw [if_pos hfix] at h ⊢
    exact applyRules_fst_of_nil h
  · rw [if_neg hfix]

end Rules

/-! ## Units

The rules take units away and bring no other than a quote mark. -/

theorem endsLine_subset : ∀ {l rest : List α}, endsLine l = some rest → rest ⊆ l
  | [], _, h => Option.some.inj h ▸ List.Subset.refl []
  | [u], _, h => by
    rw [endsLine] at h
    split at h
    · obtain rfl := Option.some.inj h
      exact List.Subset.refl [u]
    · obtain rfl := Option.some.inj h
      exact List.nil_subset [u]
  | u :: v :: us, _, h => by
    rw [endsLine] at h
    · split at h
      · cases h
      · exact List.Subset.trans (endsLine_subset h) (List.subset_cons_self u _)
    · exact fun hnil => by cases hnil

theorem afterComment?_subset {l rest : List α} (h : afterComment? l = some rest) : rest ⊆ l := by
  cases l with
  | nil => cases h
  | cons u us =>
    have hbehind : (u :: us).dropWhile looksBlank ⊆ u :: us := List.dropWhile_subset looksBlank
    rw [afterComment?] at h
    split at h
    · revert hbehind h
      cases (u :: us).dropWhile looksBlank with
      | nil => exact fun _ h => by cases h
      | cons x xs =>
        dsimp only
        intro hbehind h
        split at h
        · exact List.Subset.trans (endsLine_subset h) (List.Subset.trans (List.subset_cons_self x xs) hbehind)
        · cases h
    · cases h

theorem dropComment?_cons_of_some {u : α} {us rest : List α} (h : afterComment? (u :: us) = some rest) :
    dropComment? (u :: us) = some rest := by
  unfold dropComment?
  rw [h]

theorem dropComment?_cons_of_none {u : α} {us : List α} (h : afterComment? (u :: us) = none) :
    dropComment? (u :: us) = (dropComment? us).map (u :: ·) := by
  conv => lhs; unfold dropComment?
  rw [h]

theorem dropComment?_subset : ∀ {l rest : List α}, dropComment? l = some rest → rest ⊆ l
  | [], _, h => by cases h
  | u :: us, rest, h => by
    cases hafter : afterComment? (u :: us) with
    | some kept =>
      rw [dropComment?_cons_of_some hafter] at h
      obtain rfl := Option.some.inj h
      exact afterComment?_subset hafter
    | none =>
      rw [dropComment?_cons_of_none hafter] at h
      obtain ⟨kept, hkept, rfl⟩ := Option.map_eq_some_iff.1 h
      exact List.cons_subset_cons u (dropComment?_subset hkept)

theorem withoutComment_subset (v : List α) : withoutComment v ⊆ v := by
  unfold withoutComment
  split
  · exact List.Subset.refl v
  · cases hdrop : dropComment? v with
    | none => exact List.Subset.refl v
    | some kept => exact dropComment?_subset hdrop

theorem withoutNumberQuotes_subset [DecidableEq α] (v : List α) : withoutNumberQuotes v ⊆ v := by
  unfold withoutNumberQuotes
  have htrim : trimUnits v ⊆ v := fun _ hu => mem_of_mem_strip hu
  revert htrim
  rcases trimUnits v with _ | ⟨q, _ | ⟨r, rest⟩⟩
  · exact fun _ => List.Subset.refl v
  · exact fun _ => List.Subset.refl v
  · intro htrim
    dsimp only
    split
    · exact fun u hu => htrim (List.mem_cons_of_mem q (List.dropLast_subset _ hu))
    · exact List.Subset.refl v

theorem mem_withQuotes {v : List α} {u : α} (h : u ∈ withQuotes v) : u ∈ v ∨ u = quoteMark := by
  unfold withQuotes at h
  split at h
  · exact Or.inl h
  · rcases List.mem_append.1 h with h | h
    · rcases List.mem_cons.1 h with rfl | h
      · exact Or.inr rfl
      · exact Or.inl (mem_of_mem_strip h)
    · exact Or.inr (List.mem_singleton.1 h)

theorem mem_fixedValue [DecidableEq α] {v : List α} {u : α} (h : u ∈ fixedValue v) : u ∈ v ∨ u = quoteMark :=
  (mem_withQuotes (withoutNumberQuotes_subset _ h)).imp_left fun hmem =>
    List.dropWhile_subset looksBlank (withoutComment_subset _ hmem)

/-- **A fixed line has the units of the line** and no other than a quote mark. -/
theorem mem_fixLine [DecidableEq α] [ExactView α] {n : Int} {line : List α} {u : α} (h : u ∈ (fixLine n line).1) :
    u ∈ line ∨ u = quoteMark := by
  cases hfix : isFixable line with
  | false => exact Or.inl (by rwa [fixLine_of_not_fixable n line hfix] at h)
  | true =>
    obtain ⟨k, v, rfl, hk⟩ := exists_assigned line ((isFixable_iff line).1 hfix).2
    rw [fixLine_fst n k v hk hfix] at h
    unfold assigned at h ⊢
    dsimp only at h ⊢
    rw [List.mem_append, List.mem_cons] at h ⊢
    rcases h with h | h | h
    · exact Or.inl (Or.inl (mem_of_mem_strip h))
    · exact Or.inl (Or.inr (Or.inl h))
    · exact (mem_fixedValue h).imp_left fun h => Or.inr (Or.inr h)

end EnvAudit

import EnvAudit.Text.Basic
/-!
# Pieces between separators

Splitting takes a text apart at every separator, so no piece holds one (`not_mem_of_mem_splitOn`), and pieces without
one come back from the text that they are joined to (`splitOn_joinWith`).  Cutting takes it apart at one place, where
the mark first occurs (`cutOn_eq_some_iff`).
-/
namespace EnvAudit

variable {α : Type}

theorem mem_joinWith_of_mem {sep : List α} {x : α} : ∀ {ps : List (List α)} {p : List α}, p ∈ ps → x ∈ p →
    x ∈ joinWith sep ps
  | [q], p, hp, hx => List.mem_singleton.1 hp ▸ hx
  | q :: r :: ps, p, hp, hx => by
    rw [joinWith_cons sep q (List.cons_ne_nil r ps)]
    rcases List.mem_cons.1 hp with rfl | hp
    · exact List.mem_append_left _ (List.mem_append_left _ hx)
    · exact List.mem_append_right _ (mem_joinWith_of_mem hp hx)

theorem mem_joinWith {sep : List α} {x : α} : ∀ {ps : List (List α)}, x ∈ joinWith sep ps →
    x ∈ sep ∨ ∃ p ∈ ps, x ∈ p
  | [], h => by cases h
  | [p], h => Or.inr ⟨p, by simp, h⟩
  | p :: q :: ps, h => by
    rw [joinWith_cons sep p (List.cons_ne_nil q ps), List.mem_append, List.mem_append] at h
    rcases h with (h | h) | h
    · exact Or.inr ⟨p, by simp, h⟩
    · exact Or.inl h
    · rcases mem_joinWith h with h | ⟨part, hpart, h⟩
      · exact Or.inl h
      · exact Or.inr ⟨part, by simp [hpart], h⟩

theorem isPrefix_joinWith_append (sep : List α) (qs : List (List α)) : ∀ ps : List (List α),
    joinWith sep ps <+: joinWith sep (ps ++ qs)
  | [] => List.nil_prefix
  | [p] => by
    cases qs with
    | nil => exact List.prefix_refl _
    | cons q qs => exact ⟨sep ++ joinWith sep (q :: qs), by rw [← List.append_assoc]; rfl⟩
  | p :: q :: ps => by
    have hrest := isPrefix_joinWith_append sep qs (q :: ps)
    rw [List.cons_append, joinWith_cons sep p (List.cons_ne_nil q ps), joinWith_cons sep p (by simp)]
    exact (List.prefix_append_right_inj _).2 hrest

variable [DecidableEq α]

theorem splitOn_of_not_mem (sep : α) : ∀ (p : List α), sep ∉ p → splitOn sep p = [p]
  | [], _ => rfl
  | c :: cs, h => by
    have hc : c ≠ sep := fun hc => h (by simp [hc])
    have hcs : sep ∉ cs := fun hm => h (by simp [hm])
    rw [splitOn, if_neg hc, splitOn_of_not_mem sep cs hcs]

theorem splitOn_append_sep (sep : α) : ∀ (p rest : List α), sep ∉ p →
    splitOn sep (p ++ sep :: rest) = p :: splitOn sep rest
  | [], rest, _ => by simp [splitOn]
  | c :: cs, rest, h => by
    have hc : c ≠ sep := fun hc => h (by simp [hc])
    have hcs : sep ∉ cs := fun hm => h (by simp [hm])
    rw [List.cons_append, splitOn, if_neg hc, splitOn_append_sep sep cs rest hcs]

/-- Each side of a separator is split on its own. -/
theorem splitOn_append_cons (sep : α) : ∀ (l m : List α), splitOn sep (l ++ sep :: m) = splitOn sep l ++ splitOn sep m
  | [], m => by simp [splitOn]
  | c :: cs, m => by
    have ih := splitOn_append_cons sep cs m
    rw [List.cons_append, splitOn, splitOn, ih]
    by_cases hc : c = sep
    · rw [if_pos hc, if_pos hc, List.cons_append]
    · rw [if_neg hc, if_neg hc]
      cases hs : splitOn sep cs with
      | nil => exact absurd hs (splitOn_ne_nil sep cs)
      | cons p ps => rfl

/-- There is one piece more than there are separators. -/
theorem length_splitOn (sep : α) : ∀ l : List α, (splitOn sep l).length = l.count sep + 1
  | [] => rfl
  | c :: cs => by
    have ih := length_splitOn sep cs
    rw [splitOn, List.count_cons]
    by_cases hc : c = sep
    · rw [if_pos hc, List.length_cons, ih, if_pos (beq_iff_eq.2 hc)]
    · rw [if_neg hc, if_neg (by rwa [beq_iff_eq])]
      cases hs : splitOn sep cs with
      | nil => exact absurd hs (splitOn_ne_nil sep cs)
      | cons p ps =>
        rw [hs] at ih
        exact ih

theorem splitOn_joinWith (sep : α) : ∀ (ps : List (List α)), ps ≠ [] → (∀ p ∈ ps, sep ∉ p) →
    splitOn sep (joinWith [sep] ps) = ps
  | [], hne, _ => absurd rfl hne
  | [p], _, h => splitOn_of_not_mem sep p (h p (by simp))
  | p :: q :: ps, _, h => by
    have hrest : ∀ r ∈ q :: ps, sep ∉ r := fun r hr => h r (List.mem_cons_of_mem p hr)
    rw [joinWith_cons [sep] p (List.cons_ne_nil q ps), List.append_assoc, List.singleton_append,
      splitOn_append_sep sep p _ (h p (by simp)), splitOn_joinWith sep (q :: ps) (by simp) hrest]

theorem not_mem_of_mem_splitOn (sep : α) : ∀ (l p : List α), p ∈ splitOn sep l → sep ∉ p
  | [], p, hp => by
    rw [splitOn, List.mem_singleton] at hp
    simp [hp]
  | c :: cs, p, hp => by
    have ih := not_mem_of_mem_splitOn sep cs
    rw [splitOn] at hp
    split at hp
    · rcases List.mem_cons.1 hp with rfl | hp
      · simp
      · exact ih p hp
    · rename_i hc
      cases hs : splitOn sep cs with
      | nil => exact absurd hs (splitOn_ne_nil sep cs)
      | cons q qs =>
        rw [hs] at hp ih
        rcases List.mem_cons.1 hp with rfl | hp
        · intro hm
          rcases List.mem_cons.1 hm with heq | hm
          · exact hc heq.symm
          · exact ih q (by simp) hm
        · exact ih p (List.mem_cons_of_mem q hp)

theorem exists_mem_splitOn {sep x : α} {l : List α} (hx : x ∈ l) (hsep : x ≠ sep) : ∃ p ∈ splitOn sep l, x ∈ p := by
  rw [← joinWith_splitOn sep l] at hx
  exact (mem_joinWith hx).resolve_left fun h => hsep (List.mem_singleton.1 h)

theorem mem_of_mem_splitOn {sep x : α} {l p : List α} (hp : p ∈ splitOn sep l) (hx : x ∈ p) : x ∈ l := by
  rw [← joinWith_splitOn sep l]
  exact mem_joinWith_of_mem hp hx

/-! ## Numbered pieces -/

theorem getElem?_numbered {β : Type} : ∀ (start : Nat) (l : List β) (i : Nat),
    (numbered start l)[i]? = l[i]?.map fun x => (start + i, x)
  | _, [], _ => rfl
  | _, _ :: _, 0 => rfl
  | start, _ :: xs, i + 1 => by
    rw [numbered, List.getElem?_cons_succ, List.getElem?_cons_succ, getElem?_numbered (start + 1) xs i,
      Nat.add_right_comm]
    rfl

/-! ## Cutting at a mark -/

/-- The parts of a text around the first occurrence of a mark. -/
structure FirstCut (mark t before after : List α) : Prop where
  parts : t = before ++ mark ++ after
  first : ∀ a b, t = a ++ mark ++ b → before.length ≤ a.length

omit [DecidableEq α] in
theorem firstCut_of_lead (mark after : List α) : FirstCut mark (mark ++ after) [] after :=
  ⟨rfl, fun _ _ _ => Nat.zero_le _⟩

omit [DecidableEq α] in
/-- Where a text does not begin with the mark, it is first found behind the first unit. -/
theorem firstCut_cons_iff {mark t before after : List α} {c : α} (h : ¬ mark <+: c :: t) :
    FirstCut mark (c :: t) before after ↔ ∃ rest, before = c :: rest ∧ FirstCut mark t rest after := by
  constructor
  · rintro ⟨hparts, hfirst⟩
    cases before with
    | nil => exact absurd ⟨after, hparts.symm⟩ h
    | cons d rest =>
      obtain ⟨rfl, rfl⟩ := List.cons.inj hparts
      refine ⟨rest, rfl, rfl, fun a b ht => ?_⟩
      exact Nat.le_of_succ_le_succ (hfirst (c :: a) b (congrArg (c :: ·) ht))
  · rintro ⟨rest, rfl, rfl, hfirst⟩
    refine ⟨rfl, fun a b ht => ?_⟩
    cases a with
    | nil => exact absurd ⟨b, ht.symm⟩ h
    | cons d a => exact Nat.succ_le_succ (hfirst a b (List.cons.inj ht).2)

/-- **Cutting** is at the first occurrence of the mark. -/
theorem cutOn_eq_some_iff {mark : List α} : ∀ {t before after : List α},
    cutOn mark t = some (before, after) ↔ FirstCut mark t before after
  | [], before, after => by
    rw [cutOn]
    cases mark with
    | nil =>
      constructor
      · rintro ⟨⟩
        exact firstCut_of_lead [] []
      · rintro ⟨hparts, -⟩
        obtain ⟨hbefore, rfl⟩ := List.append_eq_nil_iff.1 hparts.symm
        rw [List.append_nil] at hbefore
        rw [hbefore]
        rfl
    | cons m ms => exact iff_of_false nofun fun h => by simpa using h.parts
  | c :: t, before, after => by
    rw [cutOn]
    cases hafter : after? mark (c :: t) with
    | some rest =>
      have ht := after?_eq_some_iff.1 hafter
      dsimp only
      rw [ht]
      constructor
      · rintro ⟨⟩
        exact firstCut_of_lead mark _
      · rintro ⟨hparts, hfirst⟩
        have hbefore : before = [] := List.eq_nil_of_length_eq_zero (Nat.le_zero.1 (hfirst [] rest rfl))
        rw [hbefore] at hparts ⊢
        rw [List.append_cancel_left hparts]
    | none =>
      rw [firstCut_cons_iff (after?_eq_none_iff.1 hafter)]
      dsimp only
      rw [Option.map_eq_some_iff]
      constructor
      · rintro ⟨⟨rest, after'⟩, hcut, hsame⟩
        obtain ⟨rfl, rfl⟩ := Prod.mk.inj hsame
        exact ⟨rest, rfl, cutOn_eq_some_iff.1 hcut⟩
      · rintro ⟨rest, rfl, hrest⟩
        exact ⟨_, cutOn_eq_some_iff.2 hrest, rfl⟩

theorem eq_append_of_cutOn {mark t a b : List α} (h : cutOn mark t = some (a, b)) : t = a ++ mark ++ b :=
  (cutOn_eq_some_iff.1 h).parts

theorem cutOn_of_not_mem {mark t : List α} {c : α} (hmark : c ∈ mark) (ht : c ∉ t) : cutOn mark t = none := by
  cases hcut : cutOn mark t with
  | none => rfl
  | some p =>
    refine absurd ?_ ht
    rw [eq_append_of_cutOn hcut]
    simp [hmark]

end EnvAudit

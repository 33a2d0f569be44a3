import EnvAudit.Proofs.EnvFile.FixedLine
import EnvAudit.Proofs.Text.Split
/-!
# What fixing makes of a value

A comment stands behind a value where white space is followed by a hash sign.  Of all places where one does,
`dropComment?` takes the first (`dropComment?_spec`), so what it keeps ends without white space.

No rule brings a newline into a line (`oneLine_fixLine`), so a fixed text has the lines of the text it came from, each
of them fixed (`splitOn_fixText`), and a line that no fix names is as it was (`getElem?_splitOn_fixText_of_unnamed`).
-/
namespace EnvAudit

variable {α : Type} [CharLike α]

/-! ## One line -/

def OneLine (l : List α) : Prop := ∀ u ∈ l, looksLike '\n' u = false

theorem OneLine.of_subset {l m : List α} (h : OneLine l) (hm : ∀ u ∈ m, u ∈ l) : OneLine m :=
  fun u hu => h u (hm u hu)

theorem OneLine.tail {u : α} {us : List α} (h : OneLine (u :: us)) : OneLine us :=
  h.of_subset fun _ hx => List.mem_cons_of_mem u hx

theorem OneLine.cons {u : α} {us : List α} (hu : looksLike '\n' u = false) (hus : OneLine us) : OneLine (u :: us) := by
  intro x hx
  rcases List.mem_cons.1 hx with rfl | hx
  · exact hu
  · exact hus x hx

theorem OneLine.append {l m : List α} (hl : OneLine l) (hm : OneLine m) : OneLine (l ++ m) := by
  intro u hu
  rcases List.mem_append.1 hu with hu | hu
  · exact hl u hu
  · exact hm u hu

theorem oneLine_assigned_iff {k v : List α} : OneLine (assigned (k, v)) ↔ OneLine k ∧ OneLine v := by
  have hequals : looksLike '\n' (equalsMark : α) = false := looksLike_ofChar '\n' '='
  constructor
  · exact fun h => ⟨h.of_subset fun u hu => by simp [assigned, hu], h.of_subset fun u hu => by simp [assigned, hu]⟩
  · exact fun ⟨hk, hv⟩ => hk.append (hv.cons hequals)

theorem oneLine_trimUnits {v : List α} (h : OneLine v) : OneLine (trimUnits v) :=
  h.of_subset fun _ hu => mem_of_mem_strip hu

theorem oneLine_trimUnitsStart {v : List α} (h : OneLine v) : OneLine (trimUnitsStart v) :=
  h.of_subset fun _ hu => List.dropWhile_subset looksBlank hu

theorem OneLine.of_quoted {l m : List α} (h : OneLine l) (hm : ∀ u ∈ m, u ∈ l ∨ u = quoteMark) : OneLine m := by
  intro u hu
  rcases hm u hu with hmem | rfl
  · exact h u hmem
  · exact looksLike_ofChar '\n' '"'

theorem oneLine_withQuotes {v : List α} (h : OneLine v) : OneLine (withQuotes v) := h.of_quoted fun _ => mem_withQuotes

theorem oneLine_withoutNumberQuotes [DecidableEq α] {v : List α} (h : OneLine v) : OneLine (withoutNumberQuotes v) :=
  h.of_subset fun _ hu => withoutNumberQuotes_subset v hu

theorem oneLine_withoutComment {v : List α} (h : OneLine v) : OneLine (withoutComment v) :=
  h.of_subset fun _ hu => withoutComment_subset v hu

theorem oneLine_iff [ExactView α] (l : List α) : OneLine l ↔ newlineMark ∉ l := by
  constructor
  · intro h hm
    have hn := h _ hm
    unfold newlineMark at hn
    rw [looksLike_ofChar] at hn
    cases hn
  · intro h u hu
    by_contra hn
    have heq : u = newlineMark := eq_ofChar_of_looksLike (c := '\n') (by simpa using hn) (by decide)
    exact h (heq ▸ hu)

theorem isDigit_of_isWholeNumber {t : List α} (h : isWholeNumber t = true) (hline : OneLine t) :
    ∀ u ∈ t, isDigit (CharLike.view u) = true := by
  cases t with
  | nil => cases h
  | cons u us =>
    unfold isWholeNumber at h
    rw [Bool.and_eq_true] at h
    obtain ⟨hfirst, hrest⟩ := h
    have hdrop : us.dropWhile (fun u => isDigit (CharLike.view u)) = [] := by
      have hsub : ∀ x ∈ us.dropWhile (fun u => isDigit (CharLike.view u)), looksLike '\n' x = false :=
        fun x hx => hline x (List.mem_cons_of_mem u (List.dropWhile_subset _ hx))
      revert hrest hsub
      rcases us.dropWhile (fun u => isDigit (CharLike.view u)) with _ | ⟨v, _ | ⟨w, ws⟩⟩
      · exact fun _ _ => rfl
      · intro hv hsub
        dsimp only at hv
        rw [hsub v (by simp)] at hv
        cases hv
      · exact fun hv _ => by cases hv
    intro x hx
    rcases List.mem_cons.1 hx with rfl | hx
    · have hcode : 49 ≤ (CharLike.view x).toNat ∧ (CharLike.view x).toNat ≤ 57 := by
        rw [Bool.and_eq_true, decide_eq_true_eq, decide_eq_true_eq] at hfirst
        exact hfirst
      refine isDigit_of_isAsciiDigit ?_
      unfold isAsciiDigit
      simp only [Bool.and_eq_true, decide_eq_true_eq]
      omega
    · exact List.dropWhile_eq_nil_iff.1 hdrop x hx

theorem endsLine_of_oneLine : ∀ (l : List α), OneLine l → endsLine l = some []
  | [], _ => rfl
  | [u], h => by rw [endsLine, h u (by simp)]; rfl
  | u :: v :: us, h => by
    rw [endsLine, h u (by simp)]
    · exact endsLine_of_oneLine (v :: us) h.tail
    · exact fun hn => by cases hn

/-! ## Comments -/

def hashMark : α := CharLike.ofChar '#'

/-- White space and a hash sign stand behind `kept`. -/
def CommentBehind (value kept : List α) : Prop :=
  ∃ gap rest, value = kept ++ gap ++ hashMark :: rest ∧ gap ≠ [] ∧ ∀ u ∈ gap, looksBlank u = true

/-- What stands before the first comment. -/
def CutAtComment (value kept : List α) : Prop :=
  CommentBehind value kept ∧ ∀ other, CommentBehind value other → kept.length ≤ other.length

theorem looksBlank_hashMark : looksBlank (hashMark : α) = false := looksBlank_ofChar '#'

theorem looksLike_hashMark : looksLike '#' (hashMark : α) = true := looksLike_ofChar '#' '#'

theorem commentBehind_cons_iff (u x : α) (us kept : List α) :
    CommentBehind (u :: us) (x :: kept) ↔ u = x ∧ CommentBehind us kept := by
  constructor
  · rintro ⟨gap, rest, h, hgap, hblank⟩
    obtain ⟨rfl, hus⟩ := List.cons.inj h
    exact ⟨rfl, gap, rest, hus, hgap, hblank⟩
  · rintro ⟨rfl, gap, rest, rfl, hgap, hblank⟩
    exact ⟨gap, rest, rfl, hgap, hblank⟩

theorem not_commentBehind_nil (kept : List α) : ¬ CommentBehind [] kept := by
  rintro ⟨gap, rest, h, -⟩
  simp at h

/-- White space at the end hides no comment and shows none. -/
theorem commentBehind_append_blank (value gone kept : List α) (hgone : ∀ u ∈ gone, looksBlank u = true) :
    CommentBehind (value ++ gone) kept ↔ CommentBehind value kept := by
  constructor
  · rintro ⟨gap, rest, h, hgap, hblank⟩
    rcases List.append_eq_append_iff.1 h with ⟨mid, -, hmid⟩ | ⟨mid, hvalue, hmid⟩
    · have hhash := hgone hashMark (by rw [hmid]; simp)
      rw [looksBlank_hashMark] at hhash
      cases hhash
    · cases mid with
      | nil =>
        have hhash := hgone hashMark (by rw [← List.nil_append gone, ← hmid]; simp)
        rw [looksBlank_hashMark] at hhash
        cases hhash
      | cons m mid =>
        obtain ⟨rfl, -⟩ := List.cons.inj hmid
        exact ⟨gap, mid, hvalue, hgap, hblank⟩
  · rintro ⟨gap, rest, rfl, hgap, hblank⟩
    exact ⟨gap, rest ++ gone, by simp, hgap, hblank⟩

theorem cutAtComment_append_blank (value gone kept : List α) (hgone : ∀ u ∈ gone, looksBlank u = true) :
    CutAtComment (value ++ gone) kept ↔ CutAtComment value kept := by
  unfold CutAtComment
  simp only [commentBehind_append_blank value gone _ hgone]

/-- A cut value begins as the value does, and the white space before the comment is gone. -/
theorem CutAtComment.bare {value kept : List α} (h : CutAtComment value kept)
    (hhead : ∀ u ∈ value.head?, looksBlank u = false) : kept ≠ [] ∧ value.head? = kept.head? ∧ Bare looksBlank kept := by
  obtain ⟨⟨gap, rest, hvalue, hgap, hblank⟩, hleast⟩ := h
  have hne : kept ≠ [] := by
    rintro rfl
    obtain ⟨g, gs, rfl⟩ := List.exists_cons_of_ne_nil hgap
    have hg := hhead g (by rw [hvalue]; rfl)
    rw [hblank g (by simp)] at hg
    cases hg
  obtain ⟨k, ks, rfl⟩ := List.exists_cons_of_ne_nil hne
  refine ⟨hne, by rw [hvalue]; rfl, ⟨fun u hu => hhead u (by rw [hvalue]; exact hu), fun u hu => ?_⟩⟩
  -- a blank last unit would belong to the gap, and the cut come earlier
  by_contra hb
  obtain ⟨init, hinit⟩ := List.getLast?_eq_some_iff.1 (Option.mem_def.1 hu)
  have hcut : CommentBehind value init := by
    refine ⟨u :: gap, rest, by rw [hvalue, hinit]; simp, List.cons_ne_nil u gap, fun x hx => ?_⟩
    rcases List.mem_cons.1 hx with rfl | hx
    · simpa using hb
    · exact hblank x hx
  have hlen := hleast init hcut
  rw [hinit, List.length_append, List.length_singleton] at hlen
  omega

section Dropping

variable [ExactView α]

theorem afterComment?_spec (l : List α) (h : OneLine l) :
    (afterComment? l = some [] ∧ CommentBehind l []) ∨ (afterComment? l = none ∧ ¬ CommentBehind l []) := by
  cases l with
  | nil => exact Or.inr ⟨rfl, not_commentBehind_nil []⟩
  | cons u us =>
    by_cases hu : looksBlank u = true
    · have hsplit := List.takeWhile_append_dropWhile (p := looksBlank) (l := u :: us)
      have htake : (u :: us).takeWhile looksBlank ≠ [] := by rw [List.takeWhile_cons_of_pos hu]; simp
      rw [afterComment?, if_pos hu]
      -- a comment here has the run of white space as its gap
      have hbehind : CommentBehind (u :: us) [] ↔ ∃ rest, (u :: us).dropWhile looksBlank = hashMark :: rest := by
        constructor
        · rintro ⟨gap, rest, hl, -, hblank⟩
          refine ⟨rest, ?_⟩
          rw [hl, List.nil_append, List.dropWhile_append_of_pos hblank,
            List.dropWhile_cons_of_neg (by rw [looksBlank_hashMark]; simp)]
        · rintro ⟨rest, hdrop⟩
          rw [hdrop] at hsplit
          exact ⟨(u :: us).takeWhile looksBlank, rest, hsplit.symm, htake, fun x hx => List.mem_takeWhile_imp hx⟩
      rw [hbehind]
      cases hdrop : (u :: us).dropWhile looksBlank with
      | nil => exact Or.inr ⟨rfl, by simp⟩
      | cons x rest =>
        by_cases hx : looksLike '#' x = true
        · have hrest : OneLine rest :=
            h.of_subset fun y hy => by rw [← hsplit, hdrop]; exact List.mem_append_right _ (List.mem_cons_of_mem x hy)
          refine Or.inl ⟨?_, rest, by rw [eq_ofChar_of_looksLike hx (by decide)]; rfl⟩
          simp only [hx, if_true]
          exact endsLine_of_oneLine rest hrest
        · refine Or.inr ⟨by simp [hx], ?_⟩
          rintro ⟨rest', heq⟩
          rw [(List.cons.inj heq).1] at hx
          exact hx looksLike_hashMark
    · refine Or.inr ⟨by rw [afterComment?, if_neg hu], ?_⟩
      rintro ⟨gap, rest, hl, hgap, hblank⟩
      obtain ⟨g, gs, rfl⟩ := List.exists_cons_of_ne_nil hgap
      obtain ⟨rfl, -⟩ := List.cons.inj hl
      exact hu (hblank u (by simp))

/-- **The comment that goes is the first**, if there is one. -/
theorem dropComment?_spec : ∀ (l : List α), OneLine l →
    (∃ kept, dropComment? l = some kept ∧ CutAtComment l kept) ∨
      (dropComment? l = none ∧ ∀ kept, ¬ CommentBehind l kept)
  | [], _ => Or.inr ⟨rfl, not_commentBehind_nil⟩
  | u :: us, h => by
    rcases afterComment?_spec (u :: us) h with ⟨hafter, hbehind⟩ | ⟨hafter, hbehind⟩
    · exact Or.inl ⟨[], dropComment?_cons_of_some hafter, hbehind, fun other _ => Nat.zero_le _⟩
    · rw [dropComment?_cons_of_none hafter]
      rcases dropComment?_spec us h.tail with ⟨kept, hkept, hcut, hleast⟩ | ⟨hnone, hno⟩
      · refine Or.inl ⟨u :: kept, by rw [hkept]; rfl, (commentBehind_cons_iff u u us kept).2 ⟨rfl, hcut⟩, ?_⟩
        intro other hother
        cases other with
        | nil => exact absurd hother hbehind
        | cons x other =>
          exact Nat.succ_le_succ (hleast other ((commentBehind_cons_iff u x us other).1 hother).2)
      · refine Or.inr ⟨by rw [hnone]; rfl, fun kept hkept => ?_⟩
        cases kept with
        | nil => exact hbehind hkept
        | cons x kept => exact hno kept ((commentBehind_cons_iff u x us kept).1 hkept).2

end Dropping

/-! ## Lines of a text -/

section Lines

variable [DecidableEq α]

/-- The fixes of a text are those of its lines. -/
theorem mem_fixText_iff {t : List α} {f : Fix α} : f ∈ (fixText t).2 ↔
    ∃ (i : Nat) (line : List α), (splitOn newlineMark t)[i]? = some line ∧ f ∈ (fixLine ((i : Int) + 1) line).2 := by
  have hnumber : ∀ i : Nat, ((1 + i : Nat) : Int) = (i : Int) + 1 := fun i => by omega
  unfold fixText
  simp only [List.map_map, List.mem_flatten, List.mem_map, Function.comp_apply]
  constructor
  · rintro ⟨_, ⟨⟨n, line⟩, hmem, rfl⟩, hf⟩
    obtain ⟨i, hi⟩ := List.getElem?_of_mem hmem
    rw [getElem?_numbered] at hi
    obtain ⟨line', hline, heq⟩ := Option.map_eq_some_iff.1 hi
    obtain ⟨rfl, rfl⟩ := Prod.mk.inj heq
    exact ⟨i, line', hline, by rwa [← hnumber]⟩
  · rintro ⟨i, line, hline, hf⟩
    have hi : (numbered 1 (splitOn newlineMark t))[i]? = some (1 + i, line) := by
      rw [getElem?_numbered, hline]
      rfl
    exact ⟨_, ⟨_, List.mem_of_getElem? hi, rfl⟩, by rwa [hnumber]⟩

variable [ExactView α]

/-- **A line stays one line.** -/
theorem oneLine_fixLine (n : Int) {line : List α} (h : OneLine line) : OneLine (fixLine n line).1 :=
  h.of_quoted fun _ => mem_fixLine

theorem oneLine_of_mem_splitOn (t : List α) : ∀ line ∈ splitOn newlineMark t, OneLine line :=
  fun line hline => (oneLine_iff line).2 (not_mem_of_mem_splitOn newlineMark t line hline)

/-- **The lines of a fixed text are the lines of the text, fixed.** -/
theorem splitOn_fixText (t : List α) :
    splitOn newlineMark (fixText t).1 =
      (numbered 1 (splitOn newlineMark t)).map fun (n, line) => (fixLine (n : Int) line).1 := by
  have hne : (numbered 1 (splitOn newlineMark t)).map (fun p => (fixLine (p.1 : Int) p.2).1) ≠ [] := by
    cases hs : splitOn newlineMark t with
    | nil => exact absurd hs (splitOn_ne_nil _ t)
    | cons l ls => exact List.cons_ne_nil _ _
  have hfixed : ∀ l ∈ (numbered 1 (splitOn newlineMark t)).map (fun p => (fixLine (p.1 : Int) p.2).1),
      newlineMark ∉ l := by
    intro l hl
    obtain ⟨⟨n, line⟩, hline, rfl⟩ := List.mem_map.1 hl
    exact (oneLine_iff _).1 (oneLine_fixLine n (oneLine_of_mem_splitOn t line (mem_of_mem_numbered hline)))
  unfold fixText
  simp only [List.map_map]
  exact splitOn_joinWith newlineMark _ hne hfixed

/-- **A fixed text has the units of the text** and no other than quote marks and newlines. -/
theorem mem_fixText {t : List α} {u : α} (h : u ∈ (fixText t).1) : u ∈ t ∨ u = quoteMark ∨ u = newlineMark := by
  by_cases hu : u = newlineMark
  · exact .inr (.inr hu)
  obtain ⟨line, hline, hmem⟩ := exists_mem_splitOn h hu
  rw [splitOn_fixText] at hline
  obtain ⟨⟨n, old⟩, hold, rfl⟩ := List.mem_map.1 hline
  rcases mem_fixLine hmem with hunit | hquote
  · exact .inl (mem_of_mem_splitOn (mem_of_mem_numbered hold) hunit)
  · exact .inr (.inl hquote)

theorem length_splitOn_fixText (t : List α) :
    (splitOn newlineMark (fixText t).1).length = (splitOn newlineMark t).length := by
  rw [splitOn_fixText, List.length_map, ← List.length_map Prod.snd, map_snd_numbered]

theorem getElem?_splitOn_fixText (t : List α) (i : Nat) : (splitOn newlineMark (fixText t).1)[i]? =
    (splitOn newlineMark t)[i]?.map fun line => (fixLine ((i : Int) + 1) line).1 := by
  have hnumber : ((1 + i : Nat) : Int) = (i : Int) + 1 := by omega
  rw [splitOn_fixText, List.getElem?_map, getElem?_numbered, Option.map_map]
  unfold Function.comp
  simp only [hnumber]

/-- **A line that no fix names** is left as it is. -/
theorem getElem?_splitOn_fixText_of_unnamed {t : List α} {i : Nat} (h : ∀ f ∈ (fixText t).2, f.line ≠ (i : Int) + 1) :
    (splitOn newlineMark (fixText t).1)[i]? = (splitOn newlineMark t)[i]? := by
  rw [getElem?_splitOn_fixText]
  cases hline : (splitOn newlineMark t)[i]? with
  | none => rfl
  | some line =>
    have hnone : (fixLine ((i : Int) + 1) line).2 = [] := List.eq_nil_iff_forall_not_mem.2 fun f hf =>
      h f (mem_fixText_iff.2 ⟨i, line, hline, hf⟩) (line_of_mem_fixLine hf)
    exact congrArg some (fixLine_fst_of_nil hnone)

end Lines

end EnvAudit

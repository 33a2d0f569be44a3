import EnvAudit.Text.Basic
import Mathlib.Data.List.DropRight
import Mathlib.Data.List.TakeWhile
/-!
# What stripping leaves

A stripped list is the middle of the list it came from: all that is gone on either side could be dropped, and what is
left neither begins nor ends with something that can be (`strip_eq_iff`).  Where a list holds something that stays,
the two sides of it are stripped apart (`strip_append_cons`).
-/
namespace EnvAudit

variable {α : Type}

/-- Neither end of the list can be dropped. -/
structure Bare (p : α → Bool) (l : List α) : Prop where
  head : ∀ x ∈ l.head?, p x = false
  last : ∀ x ∈ l.getLast?, p x = false

theorem stripEnd_eq_reverse (p : α → Bool) (l : List α) : stripEnd p l = (stripStart p l.reverse).reverse := rfl

theorem stripStart_of_head (p : α → Bool) : ∀ (l : List α), (∀ x ∈ l.head?, p x = false) → stripStart p l = l
  | [], _ => rfl
  | x :: xs, h => by
    have hx : p x = false := h x rfl
    unfold stripStart
    rw [List.dropWhile_cons, if_neg (by simp [hx])]

theorem stripEnd_of_last (p : α → Bool) (l : List α) (h : ∀ x ∈ l.getLast?, p x = false) : stripEnd p l = l := by
  rw [stripEnd_eq_reverse, stripStart_of_head p l.reverse (by rwa [List.head?_reverse]), List.reverse_reverse]

theorem strip_of_bare (p : α → Bool) (l : List α) (h : Bare p l) : strip p l = l := by
  unfold strip
  rw [stripStart_of_head p l h.head, stripEnd_of_last p l h.last]

/-! ## What goes -/

theorem exists_stripStart (p : α → Bool) (l : List α) :
    ∃ gone, l = gone ++ stripStart p l ∧ ∀ x ∈ gone, p x = true :=
  ⟨l.takeWhile p, (List.takeWhile_append_dropWhile).symm, fun _ hx => List.mem_takeWhile_imp hx⟩

theorem exists_stripEnd (p : α → Bool) (l : List α) :
    ∃ gone, l = stripEnd p l ++ gone ∧ ∀ x ∈ gone, p x = true := by
  obtain ⟨gone, hl, hp⟩ := exists_stripStart p l.reverse
  refine ⟨gone.reverse, ?_, fun x hx => hp x (List.mem_reverse.1 hx)⟩
  rw [stripEnd_eq_reverse, ← List.reverse_append, ← hl, List.reverse_reverse]

theorem stripStart_append_left (p : α → Bool) (gone l : List α) (h : ∀ x ∈ gone, p x = true) :
    stripStart p (gone ++ l) = stripStart p l := List.dropWhile_append_of_pos h

theorem stripEnd_append_right (p : α → Bool) (gone l : List α) (h : ∀ x ∈ gone, p x = true) :
    stripEnd p (l ++ gone) = stripEnd p l := by
  rw [stripEnd_eq_reverse, List.reverse_append, stripStart_append_left p gone.reverse l.reverse
    (fun x hx => h x (List.mem_reverse.1 hx)), stripEnd_eq_reverse]

theorem stripStart_eq_nil (p : α → Bool) (l : List α) : stripStart p l = [] ↔ ∀ x ∈ l, p x = true :=
  List.dropWhile_eq_nil_iff

theorem strip_append_left (p : α → Bool) (gone l : List α) (h : ∀ x ∈ gone, p x = true) :
    strip p (gone ++ l) = strip p l := by
  unfold strip
  rw [stripStart_append_left p gone l h]

theorem strip_append_right (p : α → Bool) (gone l : List α) (h : ∀ x ∈ gone, p x = true) :
    strip p (l ++ gone) = strip p l := by
  unfold strip
  by_cases hl : ∀ x ∈ l, p x = true
  · rw [stripStart_append_left p l gone hl, (stripStart_eq_nil p l).2 hl, (stripStart_eq_nil p gone).2 h]
  · have hne : stripStart p l ≠ [] := fun hn => hl ((stripStart_eq_nil p l).1 hn)
    have hs : stripStart p (l ++ gone) = stripStart p l ++ gone := by
      unfold stripStart at hne ⊢
      rw [List.dropWhile_append, if_neg (by simpa using hne)]
    rw [hs, stripEnd_append_right p gone _ h]

theorem strip_stripStart (p : α → Bool) (l : List α) : strip p (stripStart p l) = strip p l := by
  obtain ⟨gone, hl, hp⟩ := exists_stripStart p l
  conv => rhs; rw [hl, strip_append_left p gone _ hp]

theorem strip_stripEnd (p : α → Bool) (l : List α) : strip p (stripEnd p l) = strip p l := by
  obtain ⟨gone, hl, hp⟩ := exists_stripEnd p l
  conv => rhs; rw [hl, strip_append_right p gone _ hp]

/-! ## What stays -/

theorem head?_stripStart (p : α → Bool) (l : List α) : ∀ x ∈ (stripStart p l).head?, p x = false := by
  intro x hx
  have h := List.head?_dropWhile_not p l
  unfold stripStart at hx
  rw [Option.mem_def.1 hx] at h
  simpa using h

theorem getLast?_stripEnd (p : α → Bool) (l : List α) : ∀ x ∈ (stripEnd p l).getLast?, p x = false := by
  intro x hx
  rw [stripEnd_eq_reverse, List.getLast?_reverse] at hx
  exact head?_stripStart p l.reverse x hx

theorem bare_strip (p : α → Bool) (l : List α) : Bare p (strip p l) := by
  refine ⟨?_, getLast?_stripEnd p _⟩
  intro x hx
  -- what is left of a list begins as the list does
  obtain ⟨gone, hl, -⟩ := exists_stripEnd p (stripStart p l)
  have hne : (strip p l).head? = some x := hx
  refine head?_stripStart p l x ?_
  rw [hl]
  unfold strip at hne
  simp [hne]

/-- **A stripped list is the one middle part that is bare** among all that differ by what can be dropped. -/
theorem strip_eq_iff (p : α → Bool) (l m : List α) :
    strip p l = m ↔ Bare p m ∧ ∃ a b, l = a ++ m ++ b ∧ (∀ x ∈ a, p x = true) ∧ ∀ x ∈ b, p x = true := by
  constructor
  · rintro rfl
    obtain ⟨a, ha, hpa⟩ := exists_stripStart p l
    obtain ⟨b, hb, hpb⟩ := exists_stripEnd p (stripStart p l)
    refine ⟨bare_strip p l, a, b, ?_, hpa, hpb⟩
    unfold strip
    rw [List.append_assoc, ← hb]
    exact ha
  · rintro ⟨hm, a, b, rfl, hpa, hpb⟩
    rw [strip_append_right p b _ hpb, strip_append_left p a _ hpa, strip_of_bare p m hm]

theorem mem_of_mem_strip {p : α → Bool} {l : List α} {x : α} (h : x ∈ strip p l) : x ∈ l := by
  obtain ⟨-, a, b, hl, -⟩ := (strip_eq_iff p l (strip p l)).1 rfl
  rw [hl]
  simp [h]

theorem strip_isInfix (p : α → Bool) (l : List α) : strip p l <:+: l := by
  obtain ⟨-, a, b, hl, -⟩ := (strip_eq_iff p l (strip p l)).1 rfl
  exact ⟨a, b, hl.symm⟩

theorem strip_strip (p : α → Bool) (l : List α) : strip p (strip p l) = strip p l :=
  strip_of_bare p _ (bare_strip p l)

/-! ## Around something that stays -/

theorem stripStart_append_cons (p : α → Bool) (c : α) (hc : p c = false) : ∀ (k v : List α),
    stripStart p (k ++ c :: v) = stripStart p k ++ c :: v
  | [], v => stripStart_of_head p (c :: v) (by rintro x ⟨⟩; exact hc)
  | x :: k, v => by
    have ih := stripStart_append_cons p c hc k v
    unfold stripStart at ih ⊢
    rw [List.cons_append, List.dropWhile_cons, List.dropWhile_cons]
    split
    · exact ih
    · rfl

theorem stripEnd_append_cons (p : α → Bool) (c : α) (hc : p c = false) (k v : List α) :
    stripEnd p (k ++ c :: v) = k ++ c :: stripEnd p v := by
  have h : (k ++ c :: v).reverse = v.reverse ++ c :: k.reverse := by simp
  rw [stripEnd_eq_reverse, h, stripStart_append_cons p c hc, stripEnd_eq_reverse]
  simp

theorem strip_append_cons (p : α → Bool) (c : α) (hc : p c = false) (k v : List α) :
    strip p (k ++ c :: v) = stripStart p k ++ c :: stripEnd p v := by
  unfold strip
  rw [stripStart_append_cons p c hc, stripEnd_append_cons p c hc]

end EnvAudit

import Mathlib.Data.List.Forall2
import Mathlib.Data.List.Induction
/-!
# Walks along a list

Reading an env file and scanning a log are walks of one kind: they go along the lines with a state, and each line may
change the state and give at most one result.  Here is what holds of every such walk.  It can be taken in parts
(`Walks.append`), and its results belong to places of the list in ascending order, one result for each place whose
step gives one (`onePerPlace_walk`).

A state that remembers something is described by what it was last set by: `Latest p l x` says that `x` is the last
entry of `l` with `p`.  Where the state is a function of what stands before, the results are those of the entries,
each read with the entries before it (`walks_withEarlier`).  And what is looked up in a table is what was last put under
its key (`find?_put`).
-/
namespace EnvAudit

variable {α β σ : Type}

def walk (step : σ → α → σ × Option β) : σ → List α → List β
  | _, [] => []
  | s, x :: xs => (step s x).2.toList ++ walk step (step s x).1 xs

/-- The state behind the list. -/
def walkEnd (step : σ → α → σ × Option β) : σ → List α → σ
  | s, [] => s
  | s, x :: xs => walkEnd step (step s x).1 xs

theorem walk_append (step : σ → α → σ × Option β) : ∀ (s : σ) (l m : List α),
    walk step s (l ++ m) = walk step s l ++ walk step (walkEnd step s l) m
  | _, [], _ => rfl
  | s, x :: l, m => by
    rw [List.cons_append, walk, walk, walkEnd, walk_append step _ l m, List.append_assoc]

theorem walkEnd_append (step : σ → α → σ × Option β) : ∀ (s : σ) (l m : List α),
    walkEnd step s (l ++ m) = walkEnd step (walkEnd step s l) m
  | _, [], _ => rfl
  | s, x :: l, m => by rw [List.cons_append, walkEnd, walkEnd, walkEnd_append step _ l m]

theorem walkEnd_concat (step : σ → α → σ × Option β) (s : σ) (l : List α) (x : α) :
    walkEnd step s (l ++ [x]) = (step (walkEnd step s l) x).1 := by
  rw [walkEnd_append]; rfl

theorem walk_map {γ : Type} (step : σ → α → σ × Option β) (f : γ → α) : ∀ (s : σ) (l : List γ),
    walk step s (l.map f) = walk (fun s x => step s (f x)) s l
  | _, [] => rfl
  | s, x :: l => by rw [List.map_cons, walk, walk, walk_map step f _ l]

/-- **A property that every step keeps holds behind every list.** -/
theorem walkEnd_induct (step : σ → α → σ × Option β) (s : σ) (Inv : List α → σ → Prop) (hnil : Inv [] s)
    (hstep : ∀ l t x, Inv l t → Inv (l ++ [x]) (step t x).1) (l : List α) : Inv l (walkEnd step s l) := by
  induction l using List.reverseRecOn with
  | nil => exact hnil
  | append_singleton l x ih =>
    rw [walkEnd_concat]
    exact hstep l _ x ih

/-! ## Walks in parts

The results of a part and the state behind it are told together, so that parts put one behind the other need no more
than the state between them. -/

/-- From `s`, the walk along `l` gives `out` and comes to `t`. -/
structure Walks (step : σ → α → σ × Option β) (s : σ) (l : List α) (out : List β) (t : σ) : Prop where
  results : walk step s l = out
  state : walkEnd step s l = t

theorem Walks.append {step : σ → α → σ × Option β} {s t u : σ} {l m : List α} {out out' : List β}
    (h : Walks step s l out t) (h' : Walks step t m out' u) : Walks step s (l ++ m) (out ++ out') u := by
  constructor
  · rw [walk_append, h.results, h.state, h'.results]
  · rw [walkEnd_append, h.state, h'.state]

theorem Walks.cons {step : σ → α → σ × Option β} {s t u : σ} {x : α} {l : List α} {r : Option β} {out : List β}
    (hx : step s x = (t, r)) (h : Walks step t l out u) : Walks step s (x :: l) (r.toList ++ out) u := by
  constructor
  · rw [walk, hx, h.results]
  · rw [walkEnd, hx, h.state]

theorem walks_of_still {step : σ → α → σ × Option β} {s : σ} : ∀ (l : List α), (∀ x ∈ l, step s x = (s, none)) →
    Walks step s l [] s
  | [], _ => ⟨rfl, rfl⟩
  | x :: l, h => (walks_of_still l fun y hy => h y (by simp [hy])).cons (h x (by simp))

/-! ## Entries with what stands before them -/

/-- The results of the entries of a list, each read with the entries before it. -/
def withEarlier (f : List α → α → Option β) (l : List α) : List β :=
  walk (fun earlier x => (earlier ++ [x], f earlier x)) [] l

theorem withEarlier_eq_filterMap (f : List α → α → Option β) (g : α → Option β) (l : List α)
    (h : ∀ before x after, l = before ++ x :: after → f before x = g x) : withEarlier f l = l.filterMap g := by
  have hfrom : ∀ (m earlier : List α), l = earlier ++ m →
      walk (fun earlier x => (earlier ++ [x], f earlier x)) earlier m = m.filterMap g := by
    intro m
    induction m with
    | nil => exact fun _ _ => rfl
    | cons x m ih =>
      intro earlier hl
      have hrest := ih (earlier ++ [x]) (by rw [hl, List.append_assoc, List.singleton_append])
      rw [walk, hrest, h earlier x m hl, List.filterMap_cons]
      cases g x <;> rfl
  exact hfrom l [] rfl

/-- **A walk whose state tells no more than what stands before** gives the results of the entries, read so. -/
theorem walks_withEarlier {γ : Type} {step : σ → γ → σ × Option β} (f : List α → α → Option β) (state : List α → σ)
    (write : α → γ) (h : ∀ earlier x, step (state earlier) (write x) = (state (earlier ++ [x]), f earlier x))
    (l : List α) : Walks step (state []) (l.map write) (withEarlier f l) (state l) := by
  have hfrom : ∀ (m earlier : List α), Walks step (state earlier) (m.map write)
      (walk (fun earlier x => (earlier ++ [x], f earlier x)) earlier m) (state (earlier ++ m)) := by
    intro m
    induction m with
    | nil =>
      intro earlier
      rw [List.append_nil]
      exact ⟨rfl, rfl⟩
    | cons x m ih =>
      intro earlier
      have hrest := ih (earlier ++ [x])
      rw [List.append_assoc, List.singleton_append] at hrest
      exact hrest.cons (h earlier x)
  exact hfrom l []

/-! ## Results by place -/

/-- There is one entry of `out` for each place with `P`, in ascending order of the places, and `R` relates the two. -/
def OnePerPlace (P : Nat → Prop) (R : Nat → β → Prop) (out : List β) : Prop :=
  ∃ places : List Nat, places.Pairwise (· < ·) ∧ (∀ i, i ∈ places ↔ P i) ∧ List.Forall₂ R places out

theorem OnePerPlace.congr {P Q : Nat → Prop} {R S : Nat → β → Prop} {out : List β} (h : OnePerPlace P R out)
    (hP : ∀ i, P i ↔ Q i) (hR : ∀ i b, R i b → S i b) : OnePerPlace Q S out := by
  obtain ⟨places, hsorted, hmem, hall⟩ := h
  exact ⟨places, hsorted, fun i => (hmem i).trans (hP i), hall.imp fun i b => hR i b⟩

theorem OnePerPlace.exists_of_place {P : Nat → Prop} {R : Nat → β → Prop} {out : List β} (h : OnePerPlace P R out)
    {i : Nat} (hi : P i) : ∃ b ∈ out, R i b := by
  obtain ⟨places, -, hmem, hall⟩ := h
  have hplace : i ∈ places := (hmem i).2 hi
  clear hmem
  induction hall with
  | nil => cases hplace
  | cons hhead _ ih =>
    rcases List.mem_cons.1 hplace with rfl | hplace
    · exact ⟨_, List.mem_cons_self, hhead⟩
    · obtain ⟨b, hb, hrel⟩ := ih hplace
      exact ⟨b, List.mem_cons_of_mem _ hb, hrel⟩

/-- The places of a list, moved behind a new first entry. -/
theorem OnePerPlace.shift {P Q : Nat → Prop} {R S : Nat → β → Prop} {out : List β} (h : OnePerPlace P R out)
    (hP : ∀ i, P i ↔ Q (i + 1)) (hR : ∀ i b, R i b → S (i + 1) b) (h0 : ¬ Q 0) : OnePerPlace Q S out := by
  obtain ⟨places, hsorted, hmem, hall⟩ := h
  refine ⟨places.map (· + 1), ?_, ?_, ?_⟩
  · exact List.pairwise_map.2 (hsorted.imp (fun hij => Nat.succ_lt_succ hij))
  · intro i
    rw [List.mem_map]
    cases i with
    | zero => exact ⟨fun ⟨j, _, hj⟩ => absurd hj (Nat.succ_ne_zero j), fun h => absurd h h0⟩
    | succ i =>
      rw [← hP i, ← hmem i]
      exact ⟨fun ⟨j, hj, he⟩ => by rw [← Nat.succ.inj he]; exact hj, fun hi => ⟨i, hi, rfl⟩⟩
  · exact List.forall₂_map_left_iff.2 (hall.imp fun i b => hR i b)

theorem OnePerPlace.cons {P Q : Nat → Prop} {R S : Nat → β → Prop} {out : List β} (h : OnePerPlace P R out)
    (hP : ∀ i, P i ↔ Q (i + 1)) (hR : ∀ i b, R i b → S (i + 1) b) (b : β) (h0 : Q 0) (hb : S 0 b) :
    OnePerPlace Q S (b :: out) := by
  have htail : OnePerPlace (fun i => Q i ∧ i ≠ 0) S out :=
    h.shift (fun i => (hP i).trans ⟨fun hq => ⟨hq, Nat.succ_ne_zero i⟩, And.left⟩) hR (fun hq => hq.2 rfl)
  obtain ⟨places, hsorted, hmem, hall⟩ := htail
  refine ⟨0 :: places, List.Pairwise.cons (fun i hi => ?_) hsorted, fun i => ?_, List.Forall₂.cons hb hall⟩
  · exact Nat.pos_of_ne_zero ((hmem i).1 hi).2
  · rw [List.mem_cons, hmem i]
    by_cases hi : i = 0
    · subst hi; simp [h0]
    · simp [hi]

/-- What the step at a place gives, at the state behind what stands before it. -/
def ResultAt (step : σ → α → σ × Option β) (s : σ) (l : List α) (i : Nat) (b : β) : Prop :=
  ∃ x, l[i]? = some x ∧ (step (walkEnd step s (l.take i)) x).2 = some b

theorem resultAt_cons_zero (step : σ → α → σ × Option β) (s : σ) (x : α) (l : List α) (b : β) :
    ResultAt step s (x :: l) 0 b ↔ (step s x).2 = some b := by
  simp [ResultAt, walkEnd]

theorem resultAt_cons_succ (step : σ → α → σ × Option β) (s : σ) (x : α) (l : List α) (i : Nat) (b : β) :
    ResultAt step s (x :: l) (i + 1) b ↔ ResultAt step (step s x).1 l i b := Iff.rfl

theorem exists_resultAt_of_mem (step : σ → α → σ × Option β) : ∀ (s : σ) (l : List α) (b : β),
    b ∈ walk step s l → ∃ i, ResultAt step s l i b
  | _, [], _, h => absurd h List.not_mem_nil
  | s, x :: l, b, h => by
    rw [walk, List.mem_append, Option.mem_toList] at h
    rcases h with h | h
    · exact ⟨0, (resultAt_cons_zero step s x l b).2 h⟩
    · obtain ⟨i, hi⟩ := exists_resultAt_of_mem step _ l b h
      exact ⟨i + 1, (resultAt_cons_succ step s x l i b).2 hi⟩

/-- A part of the list gives the results that come first. -/
theorem walk_take_prefix (step : σ → α → σ × Option β) (s : σ) (l : List α) (i : Nat) :
    walk step s (l.take i) <+: walk step s l := by
  conv => rhs; rw [← List.take_append_drop i l, walk_append]
  exact List.prefix_append _ _

theorem ResultAt.walk_take_succ {step : σ → α → σ × Option β} {s : σ} {l : List α} {i : Nat} {b : β}
    (h : ResultAt step s l i b) : walk step s (l.take (i + 1)) = walk step s (l.take i) ++ [b] := by
  obtain ⟨x, hx, hb⟩ := h
  rw [List.take_add_one, hx, Option.toList_some, walk_append, walk, hb]
  rfl

theorem mem_walk_iff {step : σ → α → σ × Option β} {s : σ} {l : List α} {b : β} :
    b ∈ walk step s l ↔ ∃ i, ResultAt step s l i b := by
  constructor
  · exact exists_resultAt_of_mem step s l b
  · rintro ⟨i, hi⟩
    have hpart : walk step s (l.take (i + 1)) <+: walk step s l := walk_take_prefix step s l (i + 1)
    apply hpart.subset
    rw [hi.walk_take_succ]
    exact List.mem_concat_self

/-- **The results of a walk, place by place.** -/
theorem onePerPlace_walk (step : σ → α → σ × Option β) : ∀ (s : σ) (l : List α),
    OnePerPlace (fun i => ∃ b, ResultAt step s l i b) (ResultAt step s l) (walk step s l)
  | _, [] => ⟨[], List.Pairwise.nil, by simp [ResultAt], List.Forall₂.nil⟩
  | s, x :: l => by
    have ih := onePerPlace_walk step (step s x).1 l
    have hplace : ∀ i, (∃ b, ResultAt step (step s x).1 l i b) ↔ ∃ b, ResultAt step s (x :: l) (i + 1) b :=
      fun _ => Iff.rfl
    rw [walk]
    cases hx : (step s x).2 with
    | none =>
      refine ih.shift hplace (fun _ _ => id) ?_
      rintro ⟨b, hb⟩
      rw [resultAt_cons_zero, hx] at hb
      cases hb
    | some b =>
      have hb : ResultAt step s (x :: l) 0 b := (resultAt_cons_zero step s x l b).2 hx
      exact ih.cons hplace (fun _ _ => id) b ⟨b, hb⟩ hb

/-- What the entry at a place gives, read with the entries before it. -/
def GivenAt (f : List α → α → Option β) (l : List α) (i : Nat) (b : β) : Prop :=
  ∃ x, l[i]? = some x ∧ f (l.take i) x = some b

theorem walkEnd_earlier (f : List α → α → Option β) : ∀ (earlier l : List α),
    walkEnd (fun earlier x => (earlier ++ [x], f earlier x)) earlier l = earlier ++ l
  | earlier, [] => (List.append_nil earlier).symm
  | earlier, x :: l => by
    rw [walkEnd, walkEnd_earlier f, List.append_assoc, List.singleton_append]

theorem onePerPlace_withEarlier (f : List α → α → Option β) (l : List α) :
    OnePerPlace (fun i => ∃ b, GivenAt f l i b) (GivenAt f l) (withEarlier f l) := by
  have hgiven : ∀ i b, ResultAt (fun earlier x => (earlier ++ [x], f earlier x)) [] l i b ↔ GivenAt f l i b := by
    intro i b
    unfold ResultAt GivenAt
    rw [walkEnd_earlier, List.nil_append]
  exact (onePerPlace_walk _ [] l).congr (fun i => exists_congr (hgiven i)) fun i b => (hgiven i b).1

theorem onePerPlace_filterMap (g : α → Option β) (l : List α) :
    OnePerPlace (fun i => ∃ b, GivenAt (fun _ => g) l i b) (GivenAt (fun _ => g) l) (l.filterMap g) := by
  rw [← withEarlier_eq_filterMap (fun _ => g) g l fun _ _ _ _ => rfl]
  exact onePerPlace_withEarlier _ l

/-- Where what an entry gives splits into whether it gives anything and what that is. -/
theorem OnePerPlace.given {f : List α → α → Option β} {P : List α → α → Prop} {R : α → β → Prop} {l : List α}
    {out : List β} (h : OnePerPlace (fun i => ∃ b, GivenAt f l i b) (GivenAt f l) out)
    (hf : ∀ earlier x b, f earlier x = some b ↔ P earlier x ∧ R x b) (hR : ∀ x, ∃ b, R x b) :
    OnePerPlace (fun i => ∃ x, l[i]? = some x ∧ P (l.take i) x) (fun i b => ∃ x, l[i]? = some x ∧ R x b) out := by
  refine h.congr (fun i => ?_) ?_
  · constructor
    · rintro ⟨b, x, hx, hb⟩
      exact ⟨x, hx, ((hf _ x b).1 hb).1⟩
    · rintro ⟨x, hx, hP⟩
      obtain ⟨b, hb⟩ := hR x
      exact ⟨b, x, hx, (hf _ x b).2 ⟨hP, hb⟩⟩
  · rintro i b ⟨x, hx, hb⟩
    exact ⟨x, hx, ((hf _ x b).1 hb).2⟩

/-! ## What was set last -/

/-- The last entry of a list that satisfies `p`. -/
def Latest (p : α → Prop) (l : List α) (x : α) : Prop :=
  ∃ before after, l = before ++ x :: after ∧ p x ∧ ∀ y ∈ after, ¬ p y

/-- An entry of a list with one more at its end is that one or an entry of the list. -/
theorem concat_eq_append_cons_iff {l before after : List α} {x y : α} : l ++ [y] = before ++ x :: after ↔
    before = l ∧ x = y ∧ after = [] ∨ ∃ rest, after = rest ++ [y] ∧ l = before ++ x :: rest := by
  constructor
  · intro h
    rcases List.eq_nil_or_concat after with rfl | ⟨rest, z, rfl⟩
    · obtain ⟨hbefore, hx⟩ := List.append_inj' h rfl
      exact .inl ⟨hbefore.symm, (List.singleton_inj.1 hx).symm, rfl⟩
    · rw [List.concat_eq_append, ← List.cons_append, ← List.append_assoc] at h
      obtain ⟨hl, hz⟩ := List.append_inj' h rfl
      exact .inr ⟨rest, by rw [List.concat_eq_append, List.singleton_inj.1 hz], hl⟩
  · rintro (⟨rfl, rfl, rfl⟩ | ⟨rest, rfl, rfl⟩)
    · rfl
    · rw [List.append_assoc, List.cons_append]

theorem not_latest_nil (p : α → Prop) (x : α) : ¬ Latest p [] x := by
  rintro ⟨before, after, h, -⟩
  cases before <;> cases h

/-- An entry that satisfies `p` is the last one from then on. -/
theorem latest_concat_of_pos (p : α → Prop) (l : List α) (x : α) {y : α} (hy : p y) :
    Latest p (l ++ [y]) x ↔ x = y := by
  constructor
  · rintro ⟨before, after, h, -, hafter⟩
    rcases concat_eq_append_cons_iff.1 h with ⟨-, hx, -⟩ | ⟨rest, rfl, -⟩
    · exact hx
    · exact absurd hy (hafter y (by simp))
  · rintro rfl
    exact ⟨l, [], rfl, hy, by simp⟩

theorem latest_concat_of_neg (p : α → Prop) (l : List α) (x : α) {y : α} (hy : ¬ p y) :
    Latest p (l ++ [y]) x ↔ Latest p l x := by
  constructor
  · rintro ⟨before, after, h, hx, hafter⟩
    rcases concat_eq_append_cons_iff.1 h with ⟨-, rfl, -⟩ | ⟨rest, rfl, hl⟩
    · exact absurd hx hy
    · exact ⟨before, rest, hl, hx, fun w hw => hafter w (by simp [hw])⟩
  · rintro ⟨before, after, rfl, hx, hafter⟩
    refine ⟨before, after ++ [y], by simp, hx, fun w hw => ?_⟩
    rcases List.mem_append.1 hw with hw | hw
    · exact hafter w hw
    · rw [List.mem_singleton.1 hw]; exact hy

/-! ## Tables

A table is a list of keys with their values.  What is put under a key takes the place of what was there. -/

variable [DecidableEq α] {k : α} {v : β}

theorem find?_put (put : List (α × β) → List (α × β)) (hnil : put [] = [(k, v)])
    (hcons : ∀ e es, put (e :: es) = if e.1 = k then (k, v) :: es else e :: put es) (q : α) : ∀ es : List (α × β),
    ((put es).find? fun e => e.1 = q).map (·.2) = if k = q then some v else (es.find? fun e => e.1 = q).map (·.2)
  | [] => by
    rw [hnil]
    by_cases hq : k = q <;> simp [hq]
  | e :: es => by
    rw [hcons]
    by_cases he : e.1 = k
    · rw [if_pos he]
      by_cases hq : k = q <;> simp [hq, he]
    · rw [if_neg he, List.find?_cons, List.find?_cons]
      by_cases heq : e.1 = q
      · have hq : k ≠ q := fun hq => he (heq.trans hq.symm)
        simp [heq, hq]
      · simp only [heq, decide_false]
        exact find?_put put hnil hcons q es

end EnvAudit

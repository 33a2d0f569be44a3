import EnvAudit.Proofs.Pattern.Language
import EnvAudit.Proofs.Text.Mark
/-!
# Where a pattern occurs

Searching misses nothing: where a text of a plain pattern's language stands, the pattern occurs (`occursIn_iff`).  The
matcher tries texts in an order of its own and may take another one, but it gives up only when no text leads to a place
that its continuation takes (`handsOn_run`).  A plain pattern looks at no text around a match, so it occurs in every
text that holds one in which it occurs (`occursIn_of_isInfix`), and nothing occurs over a character that no match can
hold (`occursIn_append_cons_iff`).
-/
namespace EnvAudit

/-! ## Places behind a text -/

theorem Reaches.of_append {L M : Text → Prop} {c d : Cursor}
    (h : Reaches (fun t => ∃ a b, t = a ++ b ∧ L a ∧ M b) c d) : ∃ e, Reaches L c e ∧ Reaches M e d := by
  obtain ⟨m, ⟨a, b, rfl, ha, hb⟩, hafter, hbefore, htaken⟩ := h
  refine ⟨⟨a.reverse ++ c.before, b ++ d.after, c.taken⟩, ⟨a, ha, ?_, rfl, rfl⟩, ⟨b, hb, rfl, ?_, htaken⟩⟩
  · rw [hafter, List.append_assoc]
  · rw [hbefore, List.reverse_append, List.append_assoc]

theorem Reaches.eq_or_shorter {L : Text → Prop} {c d : Cursor} (h : Reaches L c d) :
    c = d ∨ d.after.length < c.after.length := by
  obtain ⟨m, -, hafter, hbefore, htaken⟩ := h
  cases m with
  | nil =>
    obtain ⟨before, after, taken⟩ := d
    obtain rfl : after = c.after := hafter.symm
    obtain rfl : before = c.before := hbefore
    obtain rfl : taken = c.taken := htaken
    exact Or.inl rfl
  | cons x m =>
    right
    rw [hafter, List.length_append, List.length_cons]
    omega

theorem Reaches.length_le {L : Text → Prop} {c d : Cursor} (h : Reaches L c d) : d.after.length ≤ c.after.length := by
  rcases h.eq_or_shorter with rfl | h
  · exact Nat.le_refl _
  · exact Nat.le_of_lt h

/-! ## Searching misses nothing -/

/-- A way to go on misses nothing of a language when it succeeds wherever some text of it leads to success. -/
def HandsOn (L : Text → Prop) (body : Resume → Resume) : Prop :=
  ∀ k c d, Reaches L c d → (k d).isSome = true → (body k c).isSome = true

/-- There are rounds enough for `n` more, or for all that can still be required or can still move. -/
def RoundsLeft (least count : Nat) (c : Cursor) (bound n : Nat) : Prop :=
  n ≤ bound ∨ (least - count) + c.after.length ≤ bound

theorem isSome_or_left {α : Type} {a b : Option α} (h : a.isSome = true) : (a.or b).isSome = true := by
  rw [Option.isSome_or, h, Bool.true_or]

theorem isSome_or_right {α : Type} {a b : Option α} (h : b.isSome = true) : (a.or b).isSome = true := by
  rw [Option.isSome_or, h, Bool.or_true]

/-- The induction is on the rounds that the text takes.  A round that is not required and takes nothing is left out,
because the matcher would not go on behind it. -/
theorem rounds_isSome {L : Text → Prop} {body : Resume → Resume} (hbody : HandsOn L body) {least : Nat}
    {most : Option Nat} (isLazy : Bool) {k : Resume} {d : Cursor} (hk : (k d).isSome = true) :
    ∀ (n bound count : Nat) (last : Option Nat) (c : Cursor), Reaches (Times L n) c d → least ≤ count + n →
      (∀ m ∈ most, count + n ≤ m) → (∀ l ∈ last, c.after.length < l) → RoundsLeft least count c bound n →
        (rounds body least most isLazy k bound count last c).isSome = true
  | 0, bound, count, last, c, hcd, hleast, _, _, _ => by
    obtain rfl : c = d := by
      obtain ⟨m, hm, hafter, hbefore, htaken⟩ := hcd
      obtain rfl : m = [] := hm
      cases c; cases d
      simp_all
    cases bound with
    | zero => exact hk
    | succ bound =>
      simp only [rounds]
      rw [if_neg (by omega)]
      split
      · exact isSome_or_left hk
      · exact isSome_or_right hk
  | n + 1, 0, count, last, c, hcd, hleast, hmost, hlast, hleft => by
    have hshort : c.after.length = 0 := by
      rcases hleft with h | h
      · omega
      · omega
    rcases hcd.eq_or_shorter with rfl | h
    · exact hk
    · omega
  | n + 1, bound + 1, count, last, c, hcd, hleast, hmost, hlast, hleft => by
    obtain ⟨e, hce, hed⟩ := Reaches.of_append hcd
    have hshorter := hce.length_le
    simp only [rounds]
    by_cases hcount : count < least
    · rw [if_pos hcount]
      refine hbody _ c e hce (rounds_isSome hbody isLazy hk n bound (count + 1) last e hed (by omega)
        (fun m hm => by have := hmost m hm; omega) (fun l hl => Nat.lt_of_le_of_lt hshorter (hlast l hl)) ?_)
      rcases hleft with h | h
      · exact Or.inl (by omega)
      · exact Or.inr (by omega)
    · rcases hce.eq_or_shorter with rfl | hmoves
      · have hskip := rounds_isSome hbody isLazy hk n (bound + 1) count last c hed (by omega)
          (fun m hm => by have := hmost m hm; omega) hlast (hleft.imp (fun h => by omega) id)
        simp only [rounds] at hskip
        exact hskip
      · rw [if_neg hcount]
        have hgo : (most.all (count < ·) && last ≠ some c.after.length) = true := by
          rw [Bool.and_eq_true, decide_eq_true_eq]
          refine ⟨?_, fun hsame => Nat.lt_irrefl _ (hlast _ hsame)⟩
          rw [Option.all_eq_true]
          intro m hm
          have := hmost m hm
          exact decide_eq_true (by omega)
        have hnext : (rounds body least most isLazy k bound (count + 1) (some c.after.length) e).isSome = true :=
          rounds_isSome hbody isLazy hk n bound (count + 1) _ e hed (by omega)
            (fun m hm => by have := hmost m hm; omega) (fun l hl => Option.some.inj hl ▸ hmoves)
            (hleft.imp (fun h => by omega) (fun h => by omega))
        have hmore := hbody _ c e hce hnext
        rw [if_pos hgo]
        split
        · exact isSome_or_right hmore
        · exact isSome_or_left hmore

/-- **A plain pattern succeeds wherever a text that it takes leads to success.** -/
theorem handsOn_run (p : Pattern) (hp : p.isPlain = true) : HandsOn p.Takes p.run := by
  induction p with
  | empty =>
    intro k c d h hk
    obtain ⟨m, rfl, hafter, hbefore, htaken⟩ := h
    cases c; cases d
    simp_all [Pattern.run]
  | one cls =>
    intro k c d h hk
    obtain ⟨m, ⟨x, rfl, hx⟩, hafter, hbefore, htaken⟩ := h
    have hd : c.step x d.after = d := by
      cases d
      simp_all [Cursor.step]
    simp only [Pattern.run, hafter, List.singleton_append]
    rw [if_pos hx, hd]
    exact hk
  | seq p q ihp ihq =>
    rw [Pattern.isPlain, Bool.and_eq_true] at hp
    intro k c d h hk
    obtain ⟨e, hce, hed⟩ := Reaches.of_append h
    exact ihp hp.1 (q.run k) c e hce (ihq hp.2 k e d hed hk)
  | alt p q ihp ihq =>
    rw [Pattern.isPlain, Bool.and_eq_true] at hp
    intro k c d h hk
    obtain ⟨m, hm | hm, hplace⟩ := h
    · exact isSome_or_left (ihp hp.1 k c d ⟨m, hm, hplace⟩ hk)
    · exact isSome_or_right (ihq hp.2 k c d ⟨m, hm, hplace⟩ hk)
  | repeated p least most greed ih =>
    rw [Pattern.isPlain, Bool.and_eq_true, Bool.and_eq_true, decide_eq_true_eq] at hp
    obtain ⟨⟨hplain, -⟩, hgreed⟩ := hp
    intro k c d h hk
    obtain ⟨m, ⟨n, hleast, hmost, htimes⟩, hplace⟩ := h
    have hleft : RoundsLeft least 0 c (roundBound least most c) n := by
      cases most with
      | none =>
        rw [roundBound]
        exact Or.inr (by omega)
      | some most =>
        have hn := hmost most rfl
        rw [roundBound]
        exact Or.inl (by omega)
    have hrounds : ∀ isLazy, (rounds p.run least most isLazy k (roundBound least most c) 0 none c).isSome = true :=
      fun isLazy => rounds_isSome (ih hplain) isLazy hk n _ 0 none c ⟨m, htimes, hplace⟩ (by omega)
        (fun b hb => by have := hmost b hb; omega) (fun l hl => absurd hl (Option.not_mem_none l)) hleft
    cases greed with
    | greedy => exact hrounds false
    | lazy => exact hrounds true
    | possessive => exact absurd rfl hgreed
  | _ => cases hp

theorem searchFrom_of_takes {p : Pattern} (hp : p.isPlain = true) {m : Text} (hm : p.Takes m) (b : Text) :
    ∀ (a before : Text), p.searchFrom before (a ++ m ++ b) = true
  | [], before => by
    have hrun : (p.run some ⟨before, m ++ b, []⟩).isSome = true :=
      handsOn_run p hp some _ ⟨m.reverse ++ before, b, []⟩ ⟨m, hm, rfl, rfl, rfl⟩ rfl
    rw [List.nil_append]
    cases hmb : m ++ b with
    | nil => rwa [hmb] at hrun
    | cons c cs =>
      rw [hmb] at hrun
      rw [Pattern.searchFrom, hrun, Bool.true_or]
  | c :: a, before => by
    rw [List.cons_append, List.cons_append, Pattern.searchFrom, searchFrom_of_takes hp hm b a (c :: before),
      Bool.or_true]

/-- **A plain pattern occurs exactly where a text of its language stands.** -/
theorem occursIn_iff {p : Pattern} (hp : p.isPlain = true) {t : Text} :
    p.occursIn t = true ↔ ∃ a m b, t = a ++ m ++ b ∧ p.Takes m := by
  constructor
  · exact exists_takes_of_occursIn hp
  · rintro ⟨a, m, b, rfl, hm⟩
    exact searchFrom_of_takes hp hm b a []

/-- What stands around a text does not hide what occurs in it. -/
theorem occursIn_of_isInfix {p : Pattern} (hp : p.isPlain = true) {s t : Text} (hst : s <:+: t)
    (h : p.occursIn s = true) : p.occursIn t = true := by
  obtain ⟨before, after, rfl⟩ := hst
  obtain ⟨a, m, b, rfl, hm⟩ := (occursIn_iff hp).1 h
  refine (occursIn_iff hp).2 ⟨before ++ a, m, b ++ after, ?_, hm⟩
  simp only [List.append_assoc]

/-- A pattern occurs where a text of its language is a part. -/
theorem occursIn_iff_exists_isInfix {p : Pattern} (hp : p.isPlain = true) {t : Text} :
    p.occursIn t = true ↔ ∃ m, m <:+: t ∧ p.Takes m := by
  rw [occursIn_iff hp]
  constructor
  · rintro ⟨a, m, b, rfl, hm⟩
    exact ⟨m, ⟨a, b, rfl⟩, hm⟩
  · rintro ⟨m, ⟨a, b, rfl⟩, hm⟩
    exact ⟨a, m, b, rfl, hm⟩

/-- **A character that no match can hold** parts two texts: nothing occurs over it. -/
theorem occursIn_append_cons_iff {p : Pattern} (hp : p.isPlain = true) {P : Char → Bool} (hwithin : p.within P = true)
    {c : Char} (hc : P c = false) (u w : Text) :
    p.occursIn (u ++ c :: w) = true ↔ p.occursIn u = true ∨ p.occursIn w = true := by
  have hnone : ∀ {m : Text}, p.Takes m → c ∉ m := fun hm hmem => by
    have hP := forall_of_takes hwithin hm c hmem
    rw [hc] at hP
    cases hP
  simp only [occursIn_iff_exists_isInfix hp]
  constructor
  · rintro ⟨m, hinfix, hm⟩
    rcases (isInfix_append_cons_iff_of_not_mem (hnone hm)).1 hinfix with hu | hw
    · exact Or.inl ⟨m, hu, hm⟩
    · exact Or.inr ⟨m, hw, hm⟩
  · rintro (⟨m, hu, hm⟩ | ⟨m, hw, hm⟩)
    · exact ⟨m, (isInfix_append_cons_iff_of_not_mem (hnone hm)).2 (Or.inl hu), hm⟩
    · exact ⟨m, (isInfix_append_cons_iff_of_not_mem (hnone hm)).2 (Or.inr hw), hm⟩

end EnvAudit

import EnvAudit.Pattern.Match
import Mathlib.Data.List.Basic
/-!
# The language of a pattern

A pattern built of classes, sequences, alternatives and repetitions alone asks nothing of the text around a match, so
it has a language: the texts it takes (`Pattern.Takes`).  Searching keeps to it: where such a pattern occurs, a text of
its language stands (`exists_takes_of_occursIn`).

What all texts of a language have in common can often be told from the tree.  `Pattern.insists` finds that every one of
them holds a character of some class (`exists_mem_of_takes`), and `Pattern.within` that none holds any other
(`forall_of_takes`).
-/
namespace EnvAudit

/-! ## Languages -/

/-- So many texts of a language, one behind the other. -/
def Times (L : Text → Prop) : Nat → Text → Prop
  | 0, t => t = []
  | n + 1, t => ∃ a b, t = a ++ b ∧ L a ∧ Times L n b

def Pattern.Takes : Pattern → Text → Prop
  | .empty, t => t = []
  | .one k, t => ∃ c, t = [c] ∧ k.has c = true
  | .seq p q, t => ∃ a b, t = a ++ b ∧ p.Takes a ∧ q.Takes b
  | .alt p q, t => p.Takes t ∨ q.Takes t
  | .repeated p least most _, t => ∃ n, least ≤ n ∧ (∀ m ∈ most, n ≤ m) ∧ Times p.Takes n t
  | _, _ => False

/-- Classes, sequences, alternatives, and repetitions that can be taken back. -/
def Pattern.isPlain : Pattern → Bool
  | .empty => true
  | .one _ => true
  | .seq p q => p.isPlain && q.isPlain
  | .alt p q => p.isPlain && q.isPlain
  | .repeated p least most greed => p.isPlain && most.all (least ≤ ·) && greed ≠ .possessive
  | _ => false

/-! ## Searching keeps to the language -/

/-- From one cursor to another over a text of the language. -/
def Reaches (L : Text → Prop) (c d : Cursor) : Prop :=
  ∃ m, L m ∧ c.after = m ++ d.after ∧ d.before = m.reverse ++ c.before ∧ d.taken = c.taken

theorem Reaches.mono {L M : Text → Prop} {c d : Cursor} (h : Reaches L c d) (hLM : ∀ t, L t → M t) : Reaches M c d := by
  obtain ⟨m, hm, hplace⟩ := h
  exact ⟨m, hLM m hm, hplace⟩

theorem reaches_self {L : Text → Prop} (h : L []) (c : Cursor) : Reaches L c c := ⟨[], h, rfl, rfl, rfl⟩

theorem Reaches.trans {L M : Text → Prop} {c d e : Cursor} (h : Reaches L c d) (h' : Reaches M d e) :
    Reaches (fun t => ∃ a b, t = a ++ b ∧ L a ∧ M b) c e := by
  obtain ⟨a, ha, hafter, hbefore, htaken⟩ := h
  obtain ⟨b, hb, hafter', hbefore', htaken'⟩ := h'
  refine ⟨a ++ b, ⟨a, b, rfl, ha, hb⟩, ?_, ?_, htaken'.trans htaken⟩
  · rw [hafter, hafter', List.append_assoc]
  · rw [hbefore', hbefore, List.reverse_append, List.append_assoc]

/-- A way to go on keeps to a language when all it hands on lies behind a text of that language. -/
def KeepsTo (L : Text → Prop) (body : Resume → Resume) : Prop :=
  ∀ k c d, body k c = some d → ∃ e, Reaches L c e ∧ k e = some d

/-- The counts a repetition may still come to. -/
def Rounds (L : Text → Prop) (least : Nat) (most : Option Nat) (count : Nat) (t : Text) : Prop :=
  ∃ n, least ≤ count + n ∧ (∀ m ∈ most, count + n ≤ m) ∧ Times L n t

theorem Rounds.of_next {L : Text → Prop} {least count : Nat} {most : Option Nat} {t : Text}
    (h : ∃ a b, t = a ++ b ∧ L a ∧ Rounds L least most (count + 1) b) : Rounds L least most count t := by
  obtain ⟨a, b, rfl, ha, n, hleast, hmost, hb⟩ := h
  refine ⟨n + 1, by omega, fun m hm => ?_, a, b, rfl, ha, hb⟩
  have := hmost m hm
  omega

theorem keepsTo_rounds {L : Text → Prop} {body : Resume → Resume} (hbody : KeepsTo L body) {least : Nat}
    {most : Option Nat} (hcounts : ∀ m ∈ most, least ≤ m) (isLazy : Bool) :
    ∀ (bound count : Nat) (last : Option Nat), least ≤ count + bound → (∀ m ∈ most, count ≤ m) →
      KeepsTo (Rounds L least most count) (fun k => rounds body least most isLazy k bound count last)
  | 0, count, last, hleast, hmost => fun k c d h => ⟨c, reaches_self ⟨0, hleast, hmost, rfl⟩ c, h⟩
  | bound + 1, count, last, hleast, hmost => by
    have hstop : ¬ count < least → Rounds L least most count [] := fun hc => ⟨0, by omega, hmost, rfl⟩
    have hnext : (∀ m ∈ most, count + 1 ≤ m) → ∀ last k c d,
        body (rounds body least most isLazy k bound (count + 1) last) c = some d →
          ∃ e, Reaches (Rounds L least most count) c e ∧ k e = some d := by
      intro hmost' last' k c d h
      obtain ⟨e, hce, he⟩ := hbody _ c d h
      obtain ⟨f, hef, hf⟩ := keepsTo_rounds hbody hcounts isLazy bound (count + 1) last' (by omega) hmost' k e d he
      exact ⟨f, (hce.trans hef).mono fun _ => Rounds.of_next, hf⟩
    intro k c d h
    simp only [rounds] at h
    split at h
    · rename_i hcount
      exact hnext (fun m hm => Nat.le_trans hcount (hcounts m hm)) last k c d h
    · rename_i hcount
      have hmore : (if most.all (count < ·) && last ≠ some c.after.length then
          body (rounds body least most isLazy k bound (count + 1) (some c.after.length)) c else none) = some d →
          ∃ e, Reaches (Rounds L least most count) c e ∧ k e = some d := by
        intro hsome
        split at hsome
        · rename_i hgo
          rw [Bool.and_eq_true] at hgo
          refine hnext (fun m hm => ?_) _ k c d hsome
          rw [Option.mem_def.1 hm] at hgo
          exact of_decide_eq_true hgo.1
        · cases hsome
      have hhere : k c = some d → ∃ e, Reaches (Rounds L least most count) c e ∧ k e = some d :=
        fun hk => ⟨c, reaches_self (hstop hcount) c, hk⟩
      split at h
      · rcases Option.or_eq_some_iff.1 h with hk | ⟨-, hsome⟩
        · exact hhere hk
        · exact hmore hsome
      · rcases Option.or_eq_some_iff.1 h with hsome | ⟨-, hk⟩
        · exact hmore hsome
        · exact hhere hk

/-- **A plain pattern hands on only what lies behind a text it takes.** -/
theorem keepsTo_run (p : Pattern) (hp : p.isPlain = true) : KeepsTo p.Takes p.run := by
  induction p with
  | empty => exact fun k c d h => ⟨c, reaches_self (show Pattern.empty.Takes [] from rfl) c, h⟩
  | one cls =>
    intro k c d h
    simp only [Pattern.run] at h
    split at h
    · cases h
    · rename_i x rest hafter
      split at h
      · rename_i hx
        exact ⟨c.step x rest, ⟨[x], ⟨x, rfl, hx⟩, hafter, rfl, rfl⟩, h⟩
      · cases h
  | seq p q ihp ihq =>
    rw [Pattern.isPlain, Bool.and_eq_true] at hp
    intro k c d h
    obtain ⟨e, hce, he⟩ := ihp hp.1 _ c d h
    obtain ⟨f, hef, hf⟩ := ihq hp.2 k e d he
    exact ⟨f, hce.trans hef, hf⟩
  | alt p q ihp ihq =>
    rw [Pattern.isPlain, Bool.and_eq_true] at hp
    intro k c d h
    rcases Option.or_eq_some_iff.1 h with h | ⟨-, h⟩
    · obtain ⟨e, hce, he⟩ := ihp hp.1 k c d h
      exact ⟨e, hce.mono fun _ => Or.inl, he⟩
    · obtain ⟨e, hce, he⟩ := ihq hp.2 k c d h
      exact ⟨e, hce.mono fun _ => Or.inr, he⟩
  | repeated p least most greed ih =>
    rw [Pattern.isPlain, Bool.and_eq_true, Bool.and_eq_true, decide_eq_true_eq] at hp
    obtain ⟨⟨hplain, hcounts⟩, hgreed⟩ := hp
    have hcounts : ∀ m ∈ most, least ≤ m := fun m hm => by
      rw [Option.mem_def.1 hm] at hcounts
      exact of_decide_eq_true hcounts
    have hbound : ∀ c, least ≤ 0 + roundBound least most c := by
      intro c
      unfold roundBound
      split <;> omega
    have hrounds : ∀ isLazy k c d, rounds p.run least most isLazy k (roundBound least most c) 0 none c = some d →
        ∃ e, Reaches (Pattern.repeated p least most greed).Takes c e ∧ k e = some d := by
      intro isLazy k c d h
      obtain ⟨e, hce, he⟩ :=
        keepsTo_rounds (ih hplain) hcounts isLazy _ 0 none (hbound c) (fun m _ => Nat.zero_le m) k c d h
      refine ⟨e, hce.mono fun t ht => ?_, he⟩
      obtain ⟨n, hleast, hmost, htimes⟩ := ht
      rw [Nat.zero_add] at hleast
      exact ⟨n, hleast, fun m hm => by have := hmost m hm; omega, htimes⟩
    intro k c d h
    cases greed with
    | greedy => exact hrounds false k c d h
    | lazy => exact hrounds true k c d h
    | possessive => exact absurd rfl hgreed
  | _ => cases hp

theorem exists_takes_of_searchFrom {p : Pattern} (hp : p.isPlain = true) : ∀ (t before : Text),
    p.searchFrom before t = true → ∃ a m b, t = a ++ m ++ b ∧ p.Takes m
  | [], before, h => by
    obtain ⟨d, hd⟩ := Option.isSome_iff_exists.1 h
    obtain ⟨e, ⟨m, hm, hafter, -⟩, -⟩ := keepsTo_run p hp some _ d hd
    exact ⟨[], m, e.after, hafter, hm⟩
  | c :: cs, before, h => by
    rw [Pattern.searchFrom, Bool.or_eq_true] at h
    rcases h with h | h
    · obtain ⟨d, hd⟩ := Option.isSome_iff_exists.1 h
      obtain ⟨e, ⟨m, hm, hafter, -⟩, -⟩ := keepsTo_run p hp some _ d hd
      exact ⟨[], m, e.after, hafter, hm⟩
    · obtain ⟨a, m, b, rfl, hm⟩ := exists_takes_of_searchFrom hp cs (c :: before) h
      exact ⟨c :: a, m, b, rfl, hm⟩

/-- **Where a plain pattern occurs, a text of its language stands.** -/
theorem exists_takes_of_occursIn {p : Pattern} (hp : p.isPlain = true) {t : Text} (h : p.occursIn t = true) :
    ∃ a m b, t = a ++ m ++ b ∧ p.Takes m := exists_takes_of_searchFrom hp t [] h

/-! ## What a pattern insists on -/

def ClassItem.within (P : Char → Bool) : ClassItem → Bool
  | .single a => P a
  | .range a b => (List.range (b.toNat + 1 - a.toNat)).all fun i => P (Char.ofNat (a.toNat + i))
  | .category _ _ _ => false

def CharClass.within (P : Char → Bool) (k : CharClass) : Bool :=
  !k.negated && k.folding = .exact && k.items.all (·.within P)

/-- Every text of the language holds a character with `P`, as far as the tree shows. -/
def Pattern.insists (P : Char → Bool) : Pattern → Bool
  | .one k => k.within P
  | .seq p q => p.insists P || q.insists P
  | .alt p q => p.insists P && q.insists P
  | .repeated p least _ _ => 0 < least && p.insists P
  | _ => false

theorem ClassItem.of_within {P : Char → Bool} {i : ClassItem} (hi : i.within P = true) {c : Char}
    (h : i.hasExactly c = true) : P c = true := by
  cases i with
  | single a =>
    rw [show c = a from of_decide_eq_true h]
    exact hi
  | range a b =>
    rw [ClassItem.hasExactly, Bool.and_eq_true, decide_eq_true_eq, decide_eq_true_eq] at h
    have hlow : a.toNat ≤ c.toNat := h.1
    have hhigh : c.toNat ≤ b.toNat := h.2
    have hc := List.all_eq_true.1 hi (c.toNat - a.toNat) (List.mem_range.2 (by omega))
    rwa [Nat.add_sub_cancel' hlow, Char.ofNat_toNat] at hc
  | category k asciiOnly negated => cases hi

theorem CharClass.of_within {P : Char → Bool} {k : CharClass} (hk : k.within P = true) {c : Char}
    (h : k.has c = true) : P c = true := by
  unfold CharClass.within at hk
  rw [Bool.and_eq_true, Bool.and_eq_true, Bool.not_eq_true', decide_eq_true_eq] at hk
  obtain ⟨⟨hnegated, hfolding⟩, hitems⟩ := hk
  unfold CharClass.has at h
  rw [hnegated, hfolding, Bool.bne_false] at h
  obtain ⟨i, hi, hc⟩ := List.any_eq_true.1 h
  exact ClassItem.of_within (List.all_eq_true.1 hitems i hi) hc

/-- **Every text of the language holds what the pattern insists on.** -/
theorem exists_mem_of_takes {P : Char → Bool} : ∀ {p : Pattern} {t : Text}, p.insists P = true → p.Takes t →
    ∃ c ∈ t, P c = true
  | .one k, t, hp, ⟨c, ht, hc⟩ => ⟨c, by simp [ht], CharClass.of_within hp hc⟩
  | .seq p q, t, hp, ⟨a, b, ht, ha, hb⟩ => by
    rw [Pattern.insists, Bool.or_eq_true] at hp
    rcases hp with hp | hq
    · obtain ⟨c, hc, hP⟩ := exists_mem_of_takes hp ha
      exact ⟨c, by simp [ht, hc], hP⟩
    · obtain ⟨c, hc, hP⟩ := exists_mem_of_takes hq hb
      exact ⟨c, by simp [ht, hc], hP⟩
  | .alt p q, t, hp, ht => by
    rw [Pattern.insists, Bool.and_eq_true] at hp
    rcases ht with ht | ht
    · exact exists_mem_of_takes hp.1 ht
    · exact exists_mem_of_takes hp.2 ht
  | .repeated p least most greed, t, hp, ⟨n, hleast, _, htimes⟩ => by
    rw [Pattern.insists, Bool.and_eq_true, decide_eq_true_eq] at hp
    -- there is a first round, because one is required
    cases n with
    | zero => exact absurd hp.1 (Nat.not_lt.2 hleast)
    | succ n =>
      obtain ⟨a, b, ht, ha, -⟩ := htimes
      obtain ⟨c, hc, hP⟩ := exists_mem_of_takes hp.2 ha
      exact ⟨c, by simp [ht, hc], hP⟩

/-! ## What a pattern keeps within -/

/-- No text of the language holds a character without `P`, as far as the tree shows. -/
def Pattern.within (P : Char → Bool) : Pattern → Bool
  | .empty => true
  | .one k => k.within P
  | .seq p q => p.within P && q.within P
  | .alt p q => p.within P && q.within P
  | .repeated p _ _ _ => p.within P
  | _ => false

theorem forall_of_times {P : Char → Bool} {L : Text → Prop} (hL : ∀ t, L t → ∀ c ∈ t, P c = true) :
    ∀ {n : Nat} {t : Text}, Times L n t → ∀ c ∈ t, P c = true
  | 0, _, rfl => nofun
  | _ + 1, _, ⟨a, b, rfl, ha, hb⟩ => by
    intro c hc
    rcases List.mem_append.1 hc with hc | hc
    · exact hL a ha c hc
    · exact forall_of_times hL hb c hc

/-- **No text of the language** leaves what the pattern keeps within. -/
theorem forall_of_takes {P : Char → Bool} : ∀ {p : Pattern} {t : Text}, p.within P = true → p.Takes t →
    ∀ c ∈ t, P c = true
  | .empty, _, _, rfl => nofun
  | .one k, _, hp, ⟨c, rfl, hc⟩ => by
    intro d hd
    rw [List.mem_singleton.1 hd]
    exact CharClass.of_within hp hc
  | .seq p q, _, hp, ⟨a, b, rfl, ha, hb⟩ => by
    rw [Pattern.within, Bool.and_eq_true] at hp
    intro c hc
    rcases List.mem_append.1 hc with hc | hc
    · exact forall_of_takes hp.1 ha c hc
    · exact forall_of_takes hp.2 hb c hc
  | .alt p q, _, hp, ht => by
    rw [Pattern.within, Bool.and_eq_true] at hp
    rcases ht with ht | ht
    · exact forall_of_takes hp.1 ht
    · exact forall_of_takes hp.2 ht
  | .repeated p least most greed, _, hp, ⟨n, _, _, htimes⟩ =>
    forall_of_times (fun _ ha => forall_of_takes (p := p) hp ha) htimes

end EnvAudit

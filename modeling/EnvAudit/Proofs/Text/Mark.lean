import EnvAudit.Proofs.Text.Utf8
/-!
# Marks in texts

A mark occurs in a text if it is a part of it (`occursIn_eq_true_iff`).  Reading a file as text changes nothing but its
line terminators, so a mark without any is a part of the text that is read exactly if it is a part of what the bytes
spell (`isInfix_unifyNewlines_iff`).
-/
namespace EnvAudit

theorem occursIn_eq_true_iff {α : Type} [DecidableEq α] {mark : List α} : ∀ {t : List α},
    occursIn mark t = true ↔ mark <:+: t
  | [] => by
    unfold occursIn
    rw [cutOn, List.infix_nil]
    cases mark with
    | nil => exact iff_of_true rfl rfl
    | cons c cs => exact iff_of_false Bool.false_ne_true (List.cons_ne_nil c cs)
  | c :: cs => by
    have ih := @occursIn_eq_true_iff α _ mark cs
    unfold occursIn at ih ⊢
    rw [cutOn, List.infix_cons_iff]
    cases hafter : after? mark (c :: cs) with
    | some rest => exact iff_of_true rfl (Or.inl ⟨rest, (after?_eq_some_iff.1 hafter).symm⟩)
    | none =>
      change Option.isSome (Option.map _ _) = true ↔ _
      rw [Option.isSome_map, ih]
      exact (or_iff_right (after?_eq_none_iff.1 hafter)).symm

/-! ## Line terminators -/

theorem unifyNewlines_cons {c : Char} (hc : c ≠ '\r') (t : Text) : unifyNewlines (c :: t) = c :: unifyNewlines t :=
  unifyNewlines_cons_of_view hc t

theorem unifyNewlines_append_of_not_mem {p : Text} (h : '\r' ∉ p) (t : Text) :
    unifyNewlines (p ++ t) = p ++ unifyNewlines t :=
  unifyNewlines_append_of_view (fun c hc (hview : c = '\r') => h (hview ▸ hc)) t

theorem exists_unifyNewlines_return (t : Text) : ∃ rest, (t = rest ∨ t = '\n' :: rest) ∧
    unifyNewlines ('\r' :: t) = '\n' :: unifyNewlines rest := by
  obtain ⟨n, rest, hn, htail, hunified⟩ := exists_unifyNewlines_of_view (show CharLike.view '\r' = '\r' from rfl) t
  obtain rfl : n = '\n' := hn
  exact ⟨rest, htail, hunified⟩

/-- What a character that is read was written as. -/
theorem exists_of_unifyNewlines_cons {t u : Text} {c : Char} (h : unifyNewlines t = c :: u) : ∃ d rest, t = d ++ rest ∧
    unifyNewlines rest = u ∧ (d = [c] ∨ c = '\n' ∧ (d = ['\r'] ∨ d = ['\r', '\n'])) := by
  cases t with
  | nil => cases h
  | cons x t =>
    by_cases hx : x = '\r'
    · subst hx
      obtain ⟨rest, htail, hunified⟩ := exists_unifyNewlines_return t
      obtain ⟨rfl, rfl⟩ := List.cons.inj (hunified.symm.trans h)
      rcases htail with rfl | rfl
      · exact ⟨['\r'], _, rfl, rfl, .inr ⟨rfl, .inl rfl⟩⟩
      · exact ⟨['\r', '\n'], rest, rfl, rfl, .inr ⟨rfl, .inr rfl⟩⟩
    · rw [unifyNewlines_cons hx] at h
      obtain ⟨rfl, rfl⟩ := List.cons.inj h
      exact ⟨[x], t, rfl, rfl, .inl rfl⟩

/-- A part without line terminators is written as it is read. -/
theorem exists_of_unifyNewlines_append {u : Text} : ∀ {p t : Text}, '\n' ∉ p → unifyNewlines t = p ++ u →
    ∃ rest, t = p ++ rest ∧ unifyNewlines rest = u
  | [], t, _, h => ⟨t, rfl, h⟩
  | c :: p, t, hp, h => by
    obtain ⟨d, rest, rfl, hrest, rfl | ⟨rfl, -⟩⟩ := exists_of_unifyNewlines_cons h
    · obtain ⟨rest', rfl, hu⟩ := exists_of_unifyNewlines_append (fun hmem => hp (List.mem_cons_of_mem c hmem)) hrest
      exact ⟨rest', rfl, hu⟩
    · exact absurd List.mem_cons_self hp

theorem isInfix_cons_iff_of_not_mem {α : Type} {mark t : List α} {c : α} (hc : c ∉ mark) :
    mark <:+: c :: t ↔ mark <:+: t := by
  rw [List.infix_cons_iff]
  refine or_iff_right_of_imp fun hlead => ?_
  cases mark with
  | nil => exact List.nil_infix
  | cons m ms => exact absurd (List.cons_prefix_cons.1 hlead).1 fun hm => hc (hm ▸ List.mem_cons_self)

/-- A part of a text that lacks one of its characters stands on one side of it. -/
theorem isInfix_append_cons_iff_of_not_mem {α : Type} {mark s t : List α} {c : α} (hc : c ∉ mark) :
    mark <:+: s ++ c :: t ↔ mark <:+: s ∨ mark <:+: t := by
  rw [List.infix_append_iff, isInfix_cons_iff_of_not_mem hc]
  constructor
  · rintro (hs | ht | ⟨m, n, rfl, hm, hn⟩)
    · exact Or.inl hs
    · exact Or.inr ht
    · -- whatever reached over the end of the first part would begin with the character
      cases n with
      | nil =>
        rw [List.append_nil]
        exact Or.inl hm.isInfix
      | cons d n =>
        obtain ⟨rfl, -⟩ := List.cons_prefix_cons.1 hn
        exact absurd (List.mem_append_right m List.mem_cons_self) hc
  · rintro (hs | ht)
    · exact Or.inl hs
    · exact Or.inr (Or.inl ht)

section Terminators

variable {mark : Text} (hnewline : '\n' ∉ mark) (hreturn : '\r' ∉ mark)

theorem isPrefix_unifyNewlines_iff : ∀ {mark t : Text}, '\n' ∉ mark → '\r' ∉ mark →
    (mark <+: unifyNewlines t ↔ mark <+: t)
  | [], _, _, _ => iff_of_true List.nil_prefix List.nil_prefix
  | _ :: _, [], _, _ => Iff.rfl
  | m :: ms, c :: t, hnewline, hreturn => by
    by_cases hc : c = '\r'
    · subst hc
      obtain ⟨rest, -, hunified⟩ := exists_unifyNewlines_return t
      rw [hunified, List.cons_prefix_cons, List.cons_prefix_cons]
      exact iff_of_false (fun h => hnewline (h.1 ▸ List.mem_cons_self)) fun h => hreturn (h.1 ▸ List.mem_cons_self)
    · rw [unifyNewlines_cons hc, List.cons_prefix_cons, List.cons_prefix_cons,
        isPrefix_unifyNewlines_iff (fun h => hnewline (List.mem_cons_of_mem m h)) fun h =>
          hreturn (List.mem_cons_of_mem m h)]

include hnewline hreturn

/-- **A mark without line terminators** is read where it is written. -/
theorem isInfix_unifyNewlines_iff (t : Text) : mark <:+: unifyNewlines t ↔ mark <:+: t := by
  match t with
  | [] => exact Iff.rfl
  | c :: t =>
    by_cases hc : c = '\r'
    · subst hc
      obtain ⟨rest, htail, hunified⟩ := exists_unifyNewlines_return t
      rw [hunified, isInfix_cons_iff_of_not_mem hnewline, isInfix_cons_iff_of_not_mem hreturn,
        isInfix_unifyNewlines_iff rest]
      rcases htail with rfl | rfl
      · exact Iff.rfl
      · exact (isInfix_cons_iff_of_not_mem hnewline).symm
    · rw [unifyNewlines_cons hc, List.infix_cons_iff, List.infix_cons_iff, isInfix_unifyNewlines_iff t,
        ← unifyNewlines_cons hc, isPrefix_unifyNewlines_iff hnewline hreturn]
  termination_by t.length
  decreasing_by
    · rcases htail with rfl | rfl <;> simp +arith
    · simp

end Terminators

/-! ## Bytes -/

/-- A file that is UTF-8 spells its text. -/
theorem encode_of_decodeStrict {bs : Bytes} {t : Text} (h : decodeStrict bs = some t) : encode t = bs := by
  have hspelled : ∀ {ps : List Piece} {t : Text}, ps.mapM Piece.char? = some t → ps.flatMap Piece.bytes = encode t := by
    intro ps
    induction ps with
    | nil =>
      intro t ht
      obtain rfl := Option.some.inj ht
      rfl
    | cons p ps ih =>
      intro t ht
      rw [List.mapM_cons] at ht
      obtain ⟨c, hc, ht⟩ := Option.bind_eq_some_iff.1 ht
      obtain ⟨u, hu, ht⟩ := Option.bind_eq_some_iff.1 ht
      obtain rfl := Option.some.inj ht
      cases p with
      | stray s => cases hc
      | char d =>
        obtain rfl := Option.some.inj hc
        rw [List.flatMap_cons, ih hu]
        rfl
  rw [← hspelled h, flatMap_bytes_pieces]

theorem encode_isInfix {s t : Text} (h : s <:+: t) : encode s <:+: encode t := by
  obtain ⟨before, after, rfl⟩ := h
  unfold encode
  rw [List.flatMap_append, List.flatMap_append]
  exact ⟨_, _, rfl⟩

end EnvAudit

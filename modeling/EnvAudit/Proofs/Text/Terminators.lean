import EnvAudit.Proofs.Text.Kept
import EnvAudit.Proofs.Text.Mark
/-!
# Line terminators of a file

A line ends with a newline, a carriage return, or the two together.  Which bytes end a line can be told before the file
is decoded: decoding the bytes and reading line terminators as newlines can be done in either order
(`unifyNewlines_decodeLossy`).  So what is read has as many newlines as the file has line terminators
(`count_newline_decodeLossy`, `count_unifiedBytes`), whatever its other bytes are, and around a newline that does not
belong to a carriage return the file is read in parts (`unifiedBytes_append_newline`).
-/
namespace EnvAudit

/-- How many lines end, a carriage return and the newline behind it taken together. -/
def terminators : Bytes → Nat
  | [] => 0
  | [b] => if b = 13 ∨ b = 10 then 1 else 0
  | b :: c :: rest =>
    if b = 13 ∧ c = 10 then terminators rest + 1
    else terminators (c :: rest) + if b = 13 ∨ b = 10 then 1 else 0

/-! ## On the bytes -/

theorem unifiedBytes_append_newline : ∀ {xs : Bytes}, xs.getLast? ≠ some 13 → ∀ ys,
    unifiedBytes (xs ++ 10 :: ys) = unifiedBytes xs ++ 10 :: unifiedBytes ys
  | [], _, ys => unifiedBytes_cons (by decide) ys
  | [b], h, ys => by
    have hb : b ≠ 13 := fun hb => h (congrArg some hb)
    rw [List.singleton_append, unifiedBytes_cons hb, unifiedBytes_cons (by decide), unifiedBytes, if_neg hb]
    rfl
  | b :: c :: rest, h, ys => by
    have hrest : (c :: rest).getLast? ≠ some 13 := by rwa [List.getLast?_cons_cons] at h
    have ih := unifiedBytes_append_newline hrest ys
    rw [List.cons_append] at ih
    rw [List.cons_append, List.cons_append, unifiedBytes, unifiedBytes, ih]
    by_cases hb : b = 13
    · rw [if_pos hb, if_pos hb]
      by_cases hc : c = 10
      · have hlast : rest.getLast? ≠ some 13 := by
          intro hlast
          rw [List.getLast?_cons, hlast] at hrest
          exact hrest rfl
        rw [if_pos hc, if_pos hc, unifiedBytes_append_newline hlast ys]
        rfl
      · rw [if_neg hc, if_neg hc]
        rfl
    · rw [if_neg hb, if_neg hb]
      rfl

/-- **Every line terminator** is one newline. -/
theorem count_unifiedBytes : ∀ bs, (unifiedBytes bs).count 10 = terminators bs
  | [] => rfl
  | [b] => by
    unfold unifiedBytes terminators
    by_cases hb : b = 13
    · rw [if_pos hb, if_pos (.inl hb)]
      rfl
    · rw [if_neg hb, List.count_singleton]
      simp only [hb, false_or, beq_iff_eq]
  | b :: c :: rest => by
    have hmore := count_unifiedBytes (c :: rest)
    unfold unifiedBytes terminators
    by_cases hb : b = 13
    · by_cases hc : c = 10
      · rw [if_pos hb, if_pos hc, if_pos ⟨hb, hc⟩, List.count_cons_self, count_unifiedBytes rest]
      · rw [if_pos hb, if_neg hc, if_neg fun h => hc h.2, if_pos (.inl hb), List.count_cons_self, hmore]
    · rw [if_neg hb, if_neg fun h => hb h.1, List.count_cons, hmore]
      simp only [hb, false_or, beq_iff_eq]

example : terminators (encode "a\r\nb\r\rc\n".toList) = 4 := by decide

/-! ## In what is decoded -/

theorem count_newline_decodeLossy (bs : Bytes) : (decodeLossy bs).count '\n' = bs.count 10 := by
  by_cases h : 10 ∈ bs
  · obtain ⟨xs, ys, hbs, hfirst⟩ := List.eq_append_cons_of_mem h
    have hlength : ys.length < bs.length := by simp +arith [hbs]
    have hbefore : '\n' ∉ decodeLossy xs := fun hmem => hfirst (newline_mem_of_mem_decodeLossy hmem)
    rw [hbs, decodeLossy_append_newline, List.count_append, List.count_append, List.count_cons_self,
      List.count_cons_self, List.count_eq_zero_of_not_mem hbefore, List.count_eq_zero_of_not_mem hfirst,
      count_newline_decodeLossy ys]
  · rw [List.count_eq_zero_of_not_mem h,
      List.count_eq_zero_of_not_mem fun hmem => h (newline_mem_of_mem_decodeLossy hmem)]
  termination_by bs.length

theorem head?_decodeLossy_ne_newline {bs : Bytes} (h : bs.head? ≠ some 10) : (decodeLossy bs).head? ≠ some '\n' := by
  intro hhead
  have hbytes := flatMap_bytes_pieces bs
  unfold decodeLossy at hhead
  cases hpieces : pieces bs with
  | nil => rw [hpieces] at hhead; cases hhead
  | cons p ps =>
    rw [hpieces] at hhead hbytes
    cases p with
    | char c =>
      obtain rfl : c = '\n' := Option.some.inj hhead
      exact h (hbytes ▸ rfl)
    | stray s => exact absurd (Option.some.inj hhead) (show ¬ replacement = '\n' by decide)

theorem return_mem_of_mem_decodeLossy {bs : Bytes} (h : '\r' ∈ decodeLossy bs) : 13 ∈ bs :=
  mem_of_mem_decodeLossy (by decide) h

theorem unifyNewlines_return {t : Text} (h : t.head? ≠ some '\n') :
    unifyNewlines ('\r' :: t) = '\n' :: unifyNewlines t := by
  obtain ⟨rest, rfl | rfl, hunified⟩ := exists_unifyNewlines_return t
  · exact hunified
  · exact absurd rfl h

/-- **Decoding** and reading line terminators as newlines, in either order. -/
theorem unifyNewlines_decodeLossy (bs : Bytes) : unifyNewlines (decodeLossy bs) = decodeLossy (unifiedBytes bs) := by
  by_cases h : 13 ∈ bs
  · obtain ⟨xs, ys, hbs, hfirst⟩ := List.eq_append_cons_of_mem h
    have hbefore : '\r' ∉ decodeLossy xs := fun hmem => hfirst (return_mem_of_mem_decodeLossy hmem)
    have hreturn : decodeLossy (xs ++ 13 :: ys) = decodeLossy xs ++ '\r' :: decodeLossy ys :=
      decodeLossy_append_ascii (by decide) xs ys
    rw [hbs, hreturn, unifyNewlines_append_of_not_mem hbefore, unifiedBytes_append hfirst]
    by_cases hhead : ys.head? = some 10
    · obtain ⟨rest, rfl⟩ := List.head?_eq_some_iff.1 hhead
      have hlength : rest.length < bs.length := by simp +arith [hbs]
      have hpair : decodeLossy (10 :: rest) = '\n' :: decodeLossy rest := decodeLossy_append_newline [] rest
      have hbytes : unifiedBytes (13 :: 10 :: rest) = 10 :: unifiedBytes rest := rfl
      have htext : ∀ t : Text, unifyNewlines ('\r' :: '\n' :: t) = '\n' :: unifyNewlines t := fun _ => rfl
      rw [hpair, hbytes, htext, decodeLossy_append_newline, unifyNewlines_decodeLossy rest]
    · have hlength : ys.length < bs.length := by simp +arith [hbs]
      rw [unifiedBytes_return hhead, unifyNewlines_return (head?_decodeLossy_ne_newline hhead),
        decodeLossy_append_newline, unifyNewlines_decodeLossy ys]
  · have hdecoded : '\r' ∉ decodeLossy bs := fun hmem => h (return_mem_of_mem_decodeLossy hmem)
    rw [unifyNewlines_of_not_mem hdecoded, (unifiedBytes_eq_self_iff bs).2 h]
  termination_by bs.length

end EnvAudit

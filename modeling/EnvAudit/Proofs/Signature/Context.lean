import EnvAudit.Proofs.Signature.Rank
import Mathlib.Data.ENat.Lattice
/-!
# What stands around a credential

A value that a bundled signature knows is known wherever it stands, so putting texts together never raises a rank
(`rank_le_of_isInfix`).  No signature goes over a character beyond `isSignatureChar`: two texts with such a character
between them rank as the better of the two (`rank_append_cons`).  And whatever stands around them, forty characters of
the base64 alphabet in a row are known (`rank_ne_top_of_base64`).
-/
namespace EnvAudit

/-- The place of the first bundled signature that knows a value, beyond every place if none does. -/
def rank (value : Text) : ENat := (rank? bundledTable value).elim ⊤ fun i => i

theorem rank_of_some {value : Text} {i : Nat} (h : rank? bundledTable value = some i) : rank value = i := by
  unfold rank
  rw [h, Option.elim_some]

theorem rank_of_none {value : Text} (h : rank? bundledTable value = none) : rank value = ⊤ := by
  unfold rank
  rw [h, Option.elim_none]

/-! ## Entries that know a value -/

theorem exists_entry_of_rank {table : List Signature} {value : Text} {i : Nat} (h : rank? table value = some i) :
    ∃ s, table[i]? = some s ∧ s.matches value = true := by
  obtain ⟨hi, hmatches, -⟩ := List.findIdx?_eq_some_iff_getElem.1 h
  exact ⟨table[i], List.getElem?_eq_getElem hi, hmatches⟩

theorem exists_rank_le_of_entry {table : List Signature} {value : Text} {i : Nat} {s : Signature}
    (hs : table[i]? = some s) (h : s.matches value = true) : ∃ j ≤ i, rank? table value = some j := by
  obtain ⟨hi, rfl⟩ := List.getElem?_eq_some_iff.1 hs
  cases hrank : rank? table value with
  | none =>
    have hnone := List.findIdx?_eq_none_iff.1 hrank table[i] (List.getElem_mem hi)
    rw [h] at hnone
    cases hnone
  | some j =>
    obtain ⟨_, _, hfirst⟩ := List.findIdx?_eq_some_iff_getElem.1 hrank
    refine ⟨j, Nat.le_of_not_lt fun hij => ?_, rfl⟩
    exact hfirst i hij h

/-- A rank is at most the place of any entry that knows the value. -/
theorem rank_le_of_entry {value : Text} {i : Nat} {s : Signature} (hs : bundledTable[i]? = some s)
    (h : s.matches value = true) : rank value ≤ i := by
  obtain ⟨j, hji, hrank⟩ := exists_rank_le_of_entry hs h
  rw [rank_of_some hrank]
  exact Nat.cast_le.2 hji

/-! ## Texts put together -/

theorem rank_le_of_isInfix {part whole : Text} (h : part <:+: whole) : rank whole ≤ rank part := by
  cases hpart : rank? bundledTable part with
  | none =>
    rw [rank_of_none hpart]
    exact le_top
  | some i =>
    obtain ⟨s, hs, hmatches⟩ := exists_entry_of_rank hpart
    have hplain := (bundledTable_plain s (List.mem_of_getElem? hs)).1
    rw [rank_of_some hpart]
    exact rank_le_of_entry hs (occursIn_of_isInfix hplain h hmatches)

theorem rank_append_le (u w : Text) : rank (u ++ w) ≤ min (rank u) (rank w) :=
  le_min (rank_le_of_isInfix (List.infix_append' [] u w)) (rank_le_of_isInfix ⟨u, [], List.append_nil _⟩)

/-- **A character that no signature knows** parts two texts. -/
theorem rank_append_cons {c : Char} (hc : isSignatureChar c = false) (u w : Text) :
    rank (u ++ c :: w) = min (rank u) (rank w) := by
  apply le_antisymm
  · exact le_min (rank_le_of_isInfix (List.infix_append' [] u _)) (rank_le_of_isInfix ⟨u ++ [c], [], by simp⟩)
  · cases hwhole : rank? bundledTable (u ++ c :: w) with
    | none =>
      rw [rank_of_none hwhole]
      exact le_top
    | some i =>
      obtain ⟨s, hs, hmatches⟩ := exists_entry_of_rank hwhole
      have hmem := List.mem_of_getElem? hs
      have hplain := (bundledTable_plain s hmem).1
      rw [rank_of_some hwhole]
      rcases (occursIn_append_cons_iff hplain (bundledTable_within s hmem) hc u w).1 hmatches with hu | hw
      · exact min_le_of_left_le (rank_le_of_entry hs hu)
      · exact min_le_of_right_le (rank_le_of_entry hs hw)

/-! ## Base64 -/

/-- The characters that the last signature asks for, and how many of them. -/
def base64Items : List ClassItem :=
  [.range 'A' 'Z', .range 'a' 'z', .range '0' '9', .single '/', .single '+', .single '=']

def base64Length : Nat := 40

theorem exists_base64_entry : ∃ s, bundledTable[17]? = some s ∧
    s.pattern = .repeated (.one ⟨base64Items, false, .exact⟩) base64Length (some base64Length) .greedy :=
  ⟨_, rfl, by decide +kernel⟩

theorem has_base64Items {c : Char} (h : isBase64Char c = true) :
    CharClass.has ⟨base64Items, false, .exact⟩ c = true := by
  have hlower : ∀ a b : Char, (a ≤ c && c ≤ b) = (decide (a.toNat ≤ c.toNat) && decide (c.toNat ≤ b.toNat)) :=
    fun _ _ => rfl
  simp only [isBase64Char, isAsciiLetter, isAsciiUpper, isAsciiLower, isAsciiDigit, Bool.or_eq_true] at h
  simp only [CharClass.has, base64Items, List.any_cons, List.any_nil, ClassItem.has, ClassItem.hasExactly, hlower,
    Bool.bne_false, Bool.or_false, Bool.or_eq_true]
  tauto

/-- So many texts of one character each. -/
theorem times_of_forall {k : CharClass} : ∀ {t : Text}, (∀ c ∈ t, k.has c = true) →
    Times (Pattern.one k).Takes t.length t
  | [], _ => rfl
  | c :: t, h => ⟨[c], t, rfl, ⟨c, rfl, h c List.mem_cons_self⟩,
      times_of_forall fun d hd => h d (List.mem_cons_of_mem c hd)⟩

/-- **Forty characters of the base64 alphabet** are known. -/
theorem rank_ne_top_of_base64 {part value : Text} (hpart : part <:+: value) (hlength : part.length = base64Length)
    (hchars : ∀ c ∈ part, isBase64Char c = true) : rank value ≠ ⊤ := by
  obtain ⟨s, hs, hpattern⟩ := exists_base64_entry
  have htakes : s.pattern.Takes part := by
    have htimes := times_of_forall fun c hc => has_base64Items (hchars c hc)
    rw [hpattern]
    exact ⟨part.length, Nat.le_of_eq hlength.symm, fun m hm => Option.some.inj hm ▸ Nat.le_of_eq hlength, htimes⟩
  have hplain := (bundledTable_plain s (List.mem_of_getElem? hs)).1
  have hmatches : s.matches value = true := (occursIn_iff_exists_isInfix hplain).2 ⟨part, hpart, htakes⟩
  exact ne_top_of_le_ne_top (ENat.natCast_ne_top 17) (rank_le_of_entry hs hmatches)

/-! ## All of it -/

/-- **Bundled signatures in context.**  A text never ranks behind its parts; across a character that stands in no
credential it ranks as the better of them; and forty characters of the base64 alphabet are always known. -/
theorem rank_in_context :
    (∀ u w : Text, rank (u ++ w) ≤ min (rank u) (rank w)) ∧
      (∀ (u w : Text) (c : Char), isSignatureChar c = false → rank (u ++ c :: w) = min (rank u) (rank w)) ∧
      ∀ value part : Text, part <:+: value → part.length = base64Length → (∀ c ∈ part, isBase64Char c = true) →
        rank value ≠ ⊤ :=
  ⟨rank_append_le, fun u w _ hc => rank_append_cons hc u w, fun _ _ => rank_ne_top_of_base64⟩

/-- Two lines, the second with forty characters in a row. -/
theorem rank_in_context_of_lines :
    let line : Text := List.replicate base64Length 'A'
    let whole : Text := "id".toList ++ '\n' :: line
    rank whole = min (rank "id".toList) (rank line) ∧ rank whole ≠ ⊤ := by
  obtain ⟨-, hparted, hknown⟩ := rank_in_context
  refine ⟨hparted _ _ _ (by decide), hknown _ _ ⟨"id\n".toList, [], rfl⟩ List.length_replicate ?_⟩
  intro c hc
  rw [List.eq_of_mem_replicate hc]
  decide

end EnvAudit

import EnvAudit.Proofs.Text.Kept
/-!
# Units that are read back

What is written for a list of units is not always read back as these units: kept bytes that come to stand side by side
can spell a character.  A file is decoded in parts around each of its characters, so only stretches of kept bytes are at
risk: units are read back exactly if the parts before and behind any one character are (`readBack_append_char_iff`).
Text that a file was read as is read back, also once its line terminators are newlines (`ReadBack.unifyNewlines`).
-/
namespace EnvAudit

/-- What is written for these units is read as the same units. -/
def ReadBack (t : List Glyph) : Prop := decodeKeeping (encodeGlyphs t) = t

theorem readBack_decodeKeeping (bs : Bytes) : ReadBack (decodeKeeping bs) :=
  congrArg decodeKeeping (encodeGlyphs_decodeKeeping bs)

/-! ## In parts -/

theorem encodeGlyphs_append (s t : List Glyph) : encodeGlyphs (s ++ t) = encodeGlyphs s ++ encodeGlyphs t :=
  List.flatMap_append

theorem decodeKeeping_around_char (s t : List Glyph) (c : Char) :
    decodeKeeping (encodeGlyphs (s ++ .char c :: t)) =
      decodeKeeping (encodeGlyphs s) ++ .char c :: decodeKeeping (encodeGlyphs t) := by
  have hpieces : pieces (encodeGlyphs (s ++ .char c :: t)) =
      pieces (encodeGlyphs s) ++ .char c :: pieces (encodeGlyphs t) := by
    rw [encodeGlyphs_append, encodeGlyphs_cons]
    exact pieces_append_encodeChar_append c _ _
  unfold decodeKeeping
  rw [hpieces, List.flatMap_append, List.flatMap_cons]
  rfl

/-- Every unit is written with at least one byte. -/
theorem eq_nil_of_encodeGlyphs_append {s t : List Glyph} (h : encodeGlyphs (s ++ t) = encodeGlyphs s) : t = [] := by
  rw [encodeGlyphs_append, List.append_right_eq_self] at h
  cases t with
  | nil => rfl
  | cons g t =>
    obtain ⟨b, bs, hencode⟩ := g.exists_encode
    rw [encodeGlyphs_cons, hencode] at h
    cases h

/-- **Units are read back** if they are before and behind a character. -/
theorem readBack_append_char_iff {s t : List Glyph} {c : Char} :
    ReadBack (s ++ .char c :: t) ↔ ReadBack s ∧ ReadBack t := by
  unfold ReadBack
  rw [decodeKeeping_around_char]
  constructor
  · intro h
    have hbytes := encodeGlyphs_decodeKeeping (encodeGlyphs s)
    have hbefore : decodeKeeping (encodeGlyphs s) = s := by
      rcases List.append_eq_append_iff.1 h with ⟨more, hs, -⟩ | ⟨more, hs, -⟩
      · -- one list begins with the other, and both are written alike
        have hnil : more = [] := eq_nil_of_encodeGlyphs_append (by rw [← hs, hbytes])
        rw [hnil, List.append_nil] at hs
        exact hs.symm
      · rw [hs] at hbytes
        rw [hs, eq_nil_of_encodeGlyphs_append hbytes, List.append_nil]
    rw [hbefore] at h
    exact ⟨hbefore, (List.cons.inj (List.append_cancel_left h)).2⟩
  · rintro ⟨hs, ht⟩
    rw [hs, ht]

theorem readBack_cons_char_iff {t : List Glyph} {c : Char} : ReadBack (.char c :: t) ↔ ReadBack t :=
  (readBack_append_char_iff (s := [])).trans (and_iff_right rfl)

theorem ReadBack.of_append_left {s t : List Glyph} (h : ReadBack (s ++ t)) (hs : ∀ g ∈ s, ∃ c, g = .char c) :
    ReadBack t := by
  induction s with
  | nil => exact h
  | cons g s ih =>
    obtain ⟨⟨c, rfl⟩, hrest⟩ := List.forall_mem_cons.1 hs
    exact ih (readBack_cons_char_iff.1 h) hrest

theorem ReadBack.of_append_right {s t : List Glyph} (h : ReadBack (s ++ t)) (ht : ∀ g ∈ t, ∃ c, g = .char c) :
    ReadBack s := by
  cases t with
  | nil => rwa [List.append_nil] at h
  | cons g t =>
    obtain ⟨⟨c, rfl⟩, -⟩ := List.forall_mem_cons.1 ht
    exact (readBack_append_char_iff.1 h).1

theorem readBack_joinWith_iff : ∀ {ls : List (List Glyph)},
    ReadBack (joinWith [newlineMark] ls) ↔ ∀ l ∈ ls, ReadBack l
  | [] => iff_of_true rfl fun _ h => absurd h List.not_mem_nil
  | [l] => List.forall_mem_singleton.symm
  | l :: m :: ls => by
    rw [joinWith_cons [newlineMark] l (List.cons_ne_nil m ls), List.append_assoc, List.forall_mem_cons,
      ← readBack_joinWith_iff]
    exact readBack_append_char_iff

/-! ## Line terminators -/

theorem ReadBack.unifyNewlines {t : List Glyph} (h : ReadBack t) : ReadBack (unifyNewlines t) := by
  by_cases hreturn : Glyph.char '\r' ∈ t
  · obtain ⟨s, m, ht, hfirst⟩ := List.eq_append_cons_of_mem hreturn
    obtain ⟨hs, hm⟩ := readBack_append_char_iff.1 (ht ▸ h)
    obtain ⟨n, rest, hn, htail, hunified⟩ := exists_unifyNewlines_of_view (Glyph.view_char '\r') m
    obtain rfl := (Glyph.view_eq_iff (by decide)).1 hn
    have hrest : ReadBack rest := by
      rcases htail with rfl | rfl
      · exact hm
      · exact readBack_cons_char_iff.1 hm
    have hlength : rest.length < t.length := by
      rcases htail with rfl | rfl <;> simp +arith [ht]
    rw [ht, unifyNewlines_append_of_view (Glyph.view_ne_of_not_mem (by decide) hfirst), hunified]
    exact readBack_append_char_iff.2 ⟨hs, hrest.unifyNewlines⟩
  · rwa [unifyNewlines_of_view (Glyph.view_ne_of_not_mem (by decide) hreturn)]
  termination_by t.length

end EnvAudit

import EnvAudit.Proofs.Text.Kept
/-!
# Paths as git prints them

A path is a sequence of bytes.  Git prints one with a control character, a double quote, a backslash or a byte beyond
ASCII between double quotes, with escapes for those bytes, and any other as it is.  So a printed path has no control
character (`control_not_mem_printedPath`) and never ends a line, and a text that needs no escape is printed as itself
(`printedPath_of_plain`).
-/
namespace EnvAudit

/-- Bytes that are escaped by a letter or by themselves. -/
def shortEscapes : List (UInt8 × Char) := [
  (7, 'a'), (8, 'b'), (9, 't'), (10, 'n'), (11, 'v'), (12, 'f'), (13, 'r'), (34, '"'), (92, '\\')]

def needsEscape (b : UInt8) : Bool := b.toNat < 32 || b = 34 || b = 92 || 127 ≤ b.toNat

def octalDigit (n : Nat) : Char := Char.ofNat (48 + n % 8)

def escapedByte (b : UInt8) : Text :=
  match shortEscapes.find? fun e => e.1 = b with
  | some e => ['\\', e.2]
  | none =>
    if needsEscape b then ['\\', octalDigit (b.toNat / 64), octalDigit (b.toNat / 8), octalDigit b.toNat]
    else [Char.ofNat b.toNat]

/-- A path is a sequence of bytes. -/
def printedPath (path : Bytes) : Text :=
  if path.any needsEscape then '"' :: path.flatMap escapedByte ++ ['"'] else path.map fun b => Char.ofNat b.toNat

theorem toNat_ofNat_byte (b : UInt8) : (Char.ofNat b.toNat).toNat = b.toNat := by
  have hbyte := UInt8.toNat_lt b
  exact toNat_ofNat_of_valid (Or.inl (by omega))

theorem le_of_not_needsEscape {b : UInt8} (h : ¬ needsEscape b = true) : 32 ≤ b.toNat := by
  refine Nat.le_of_not_lt fun hlow => h ?_
  unfold needsEscape
  rw [decide_eq_true hlow]
  rfl

theorem octalDigit_plain (n : Nat) : 32 ≤ (octalDigit n).toNat := by
  have hdigits : ∀ d < 8, 32 ≤ (Char.ofNat (48 + d)).toNat := by decide
  exact hdigits (n % 8) (Nat.mod_lt n (by decide))

theorem escapedByte_plain {b : UInt8} {c : Char} (hc : c ∈ escapedByte b) : 32 ≤ c.toNat := by
  unfold escapedByte at hc
  split at hc
  · rename_i e he
    have hletters : ∀ e ∈ shortEscapes, 32 ≤ e.2.toNat := by decide
    simp only [List.mem_cons, List.not_mem_nil, or_false] at hc
    rcases hc with rfl | rfl
    · decide
    · exact hletters e (List.mem_of_find?_eq_some he)
  · split at hc
    · simp only [List.mem_cons, List.not_mem_nil, or_false] at hc
      rcases hc with rfl | rfl | rfl | rfl
      · decide
      · exact octalDigit_plain _
      · exact octalDigit_plain _
      · exact octalDigit_plain _
    · rename_i hplain
      obtain rfl := List.mem_singleton.1 hc
      rw [toNat_ofNat_byte]
      exact le_of_not_needsEscape hplain

/-- Git prints no control character as it is. -/
theorem control_not_mem_printedPath {c : Char} (hc : c.toNat < 32) (path : Bytes) : c ∉ printedPath path := by
  unfold printedPath
  split
  · rw [List.cons_append, List.mem_cons, List.mem_append, List.mem_flatMap, List.mem_singleton]
    rintro (rfl | ⟨b, -, hb⟩ | rfl)
    · exact absurd hc (by decide)
    · exact absurd (escapedByte_plain hb) (Nat.not_le.2 hc)
    · exact absurd hc (by decide)
  · rename_i hplain
    intro hmem
    obtain ⟨b, hb, rfl⟩ := List.mem_map.1 hmem
    rw [toNat_ofNat_byte] at hc
    have hneeds : ¬ needsEscape b = true := fun h => hplain (List.any_eq_true.2 ⟨b, hb, h⟩)
    exact absurd (le_of_not_needsEscape hneeds) (Nat.not_le.2 hc)

theorem newline_not_mem_printedPath (path : Bytes) : '\n' ∉ printedPath path :=
  control_not_mem_printedPath (by decide) path

/-! ## Paths that are printed as they are -/

theorem encodeChar_of_ascii {c : Char} (h : c.toNat < 128) : encodeChar c = [UInt8.ofNat c.toNat] := by
  rw [← Char.ofNat_toNat c, encodeChar_one h, Char.ofNat_toNat]

theorem needsEscape_eq_false_iff {c : Char} (h : c.toNat < 128) :
    needsEscape (UInt8.ofNat c.toNat) = false ↔ 32 ≤ c.toNat ∧ c.toNat < 127 ∧ c ≠ '"' ∧ c ≠ '\\' := by
  have hcode : (UInt8.ofNat c.toNat).toNat = c.toNat := UInt8.toNat_ofNat_of_lt' (by simp [UInt8.size]; omega)
  have hbyte : ∀ d : Char, d.toNat < 128 → (UInt8.ofNat c.toNat = UInt8.ofNat d.toNat ↔ c = d) := fun d hd => by
    rw [← UInt8.toNat_inj, hcode, UInt8.toNat_ofNat_of_lt' (by simp [UInt8.size]; omega), ← Char.toNat_inj]
  have hquote := hbyte '"' (by decide)
  have hslash := hbyte '\\' (by decide)
  unfold needsEscape
  rw [hcode]
  simp only [Bool.or_eq_false_iff, decide_eq_false_iff_not, Nat.not_lt, Nat.not_le, ne_eq]
  rw [← hquote, ← hslash]
  exact ⟨fun ⟨⟨⟨hlow, hq⟩, hs⟩, hhigh⟩ => ⟨hlow, hhigh, hq, hs⟩, fun ⟨hlow, hhigh, hq, hs⟩ => ⟨⟨⟨hlow, hq⟩, hs⟩, hhigh⟩⟩

/-- No byte of a text needs an escape exactly if no character of it does. -/
theorem any_needsEscape_encode_iff {path : Text} : (encode path).any needsEscape = false ↔
    ∀ c ∈ path, 32 ≤ c.toNat ∧ c.toNat < 127 ∧ c ≠ '"' ∧ c ≠ '\\' := by
  have hchar : ∀ c : Char, (∀ b ∈ encodeChar c, needsEscape b = false) ↔
      32 ≤ c.toNat ∧ c.toNat < 127 ∧ c ≠ '"' ∧ c ≠ '\\' := by
    intro c
    by_cases hc : c.toNat < 128
    · rw [encodeChar_of_ascii hc, List.forall_mem_singleton, needsEscape_eq_false_iff hc]
    · refine iff_of_false (fun h => ?_) fun h => hc (by omega)
      -- a character beyond ASCII is written in high bytes only, and in one at least
      obtain ⟨b, bs, hb⟩ := Glyph.exists_encode (.char c)
      have hmem : b ∈ encodeChar c := by
        rw [show encodeChar c = b :: bs from hb]
        exact List.mem_cons_self
      have hhigh := encodeChar_high (Nat.not_lt.1 hc) b hmem
      have hfree := h b hmem
      simp only [needsEscape, Bool.or_eq_false_iff, decide_eq_false_iff_not] at hfree
      omega
  rw [List.any_eq_false]
  unfold encode
  simp only [List.mem_flatMap, Bool.not_eq_true, forall_exists_index, and_imp]
  constructor
  · exact fun h c hc => (hchar c).1 fun b hb => h b c hc hb
  · exact fun h b c hc hb => (hchar c).2 (h c hc) b hb

theorem printedPath_of_plain {path : Text} (h : ∀ c ∈ path, 32 ≤ c.toNat ∧ c.toNat < 127 ∧ c ≠ '"' ∧ c ≠ '\\') :
    printedPath (encode path) = path := by
  unfold printedPath
  rw [if_neg (by rw [any_needsEscape_encode_iff.2 h]; exact Bool.false_ne_true)]
  induction path with
  | nil => rfl
  | cons c path ih =>
    have hc : c.toNat < 128 := by have := h c List.mem_cons_self; omega
    have hcode : (UInt8.ofNat c.toNat).toNat = c.toNat := UInt8.toNat_ofNat_of_lt' (by simp [UInt8.size]; omega)
    change (encodeChar c ++ encode path).map _ = _
    rw [encodeChar_of_ascii hc, List.singleton_append, List.map_cons, ih fun d hd => h d (List.mem_cons_of_mem c hd),
      hcode, Char.ofNat_toNat]

theorem escapedByte_ne_nil (b : UInt8) : 1 ≤ (escapedByte b).length := by
  unfold escapedByte
  split
  · exact Nat.le_add_left 1 1
  · split
    · exact Nat.le_add_left 1 3
    · exact Nat.le_refl 1

theorem length_le_flatMap_escapedByte : ∀ path : Bytes, path.length ≤ (path.flatMap escapedByte).length
  | [] => Nat.le_refl 0
  | b :: path => by
    have hb := escapedByte_ne_nil b
    have hrest := length_le_flatMap_escapedByte path
    rw [List.flatMap_cons, List.length_append, List.length_cons]
    omega

theorem length_le_encode : ∀ path : Text, path.length ≤ (encode path).length
  | [] => Nat.le_refl 0
  | c :: path => by
    obtain ⟨b, bs, hb⟩ := Glyph.exists_encode (.char c)
    have hrest := length_le_encode path
    change (c :: path).length ≤ (encodeChar c ++ encode path).length
    rw [show encodeChar c = b :: bs from hb, List.length_append, List.length_cons, List.length_cons]
    omega

end EnvAudit

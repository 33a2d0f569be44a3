import EnvAudit.Signature.Bundled
import EnvAudit.Secret.Heuristic
import EnvAudit.Proofs.Pattern.Language
/-!
# What the bundled signatures know

Every bundled pattern is plain, so what it knows holds a text of its language, and every text of any of the languages
has a letter or a digit, and no character beyond `isSignatureChar`.  A known value therefore always has the shape of a
secret, and whether it looks like one is up to its key and its length (`looksLikeSecret_of_known`).
-/
namespace EnvAudit

/-- The characters that can stand in what a bundled signature knows. -/
def isSignatureChar (c : Char) : Bool := isBase64Char c || "_.: -".toList.contains c

/-- All that is checked of the patterns one by one. -/
theorem bundledTable_shape : ∀ s ∈ bundledTable, s.pattern.isPlain = true ∧ s.pattern.insists isBase64Char = true ∧
    s.pattern.within isSignatureChar = true := by
  decide +kernel

theorem bundledTable_plain : ∀ s ∈ bundledTable, s.pattern.isPlain = true ∧ s.pattern.insists isBase64Char = true := by
  intro s hs
  obtain ⟨hplain, hinsists, -⟩ := bundledTable_shape s hs
  exact ⟨hplain, hinsists⟩

theorem bundledTable_within : ∀ s ∈ bundledTable, s.pattern.within isSignatureChar = true :=
  fun s hs => (bundledTable_shape s hs).2.2

theorem any_isBase64Char_of_known {value : Text} (h : ∃ s ∈ bundledTable, s.matches value = true) :
    value.any isBase64Char = true := by
  obtain ⟨s, hs, hoccurs⟩ := h
  obtain ⟨hplain, hinsists⟩ := bundledTable_plain s hs
  obtain ⟨a, m, b, rfl, hm⟩ := exists_takes_of_occursIn hplain hoccurs
  obtain ⟨c, hc, hbase⟩ := exists_mem_of_takes hinsists hm
  exact List.any_eq_true.2 ⟨c, by simp [hc], hbase⟩

/-- **The look of a known value** is decided by its key and its length. -/
theorem looksLikeSecret_of_known {value : Text} (h : ∃ s ∈ bundledTable, s.matches value = true) (key : Text) :
    looksLikeSecret key value = true ↔ hasSecretKeyword key = true ∧ longestPlainValue < value.length := by
  unfold looksLikeSecret
  rw [any_isBase64Char_of_known h, Bool.and_true, Bool.and_eq_true, decide_eq_true_eq]

end EnvAudit

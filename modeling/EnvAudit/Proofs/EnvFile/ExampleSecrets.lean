import EnvAudit.EnvFile.Example
import EnvAudit.EnvFile.Reader
import EnvAudit.Proofs.Signature.Bundled
import EnvAudit.Proofs.Text.Split
import EnvAudit.Proofs.Text.Strip
/-!
# What an example gives away

A value that does not look like a secret is changed by its scheme mark alone, for numbers and truth values have none
(`placeholder_of_plain`).  No signature is asked: a value that one of them knows is replaced when its key is sensitive
and it is long enough, or when it is an address, and stands in the example as it is otherwise
(`placeholder_ne_iff_of_known`).
-/
namespace EnvAudit

/-! ## Values without a scheme -/

theorem isDigit_or_newline_of_isNumeric {t : Text} (h : isNumeric t = true) : ∀ c ∈ t, isDigit c = true ∨ c = '\n' := by
  unfold isNumeric at h
  split at h
  · cases h
  · rename_i d ds
    rw [Bool.and_eq_true] at h
    obtain ⟨hd, hrest⟩ := h
    obtain ⟨digits, hds, hdigits⟩ := exists_stripStart isDigit ds
    have htail : ∀ c ∈ stripStart isDigit ds, c = '\n' := by
      unfold stripStart
      split at hrest
      · rename_i hnil
        simp [hnil]
      · simp [of_decide_eq_true hrest]
    intro c hc
    rw [hds, List.mem_cons, List.mem_append] at hc
    rcases hc with rfl | hc | hc
    · exact Or.inl hd
    · exact Or.inl (hdigits c hc)
    · exact Or.inr (htail c hc)

theorem cutOn_schemeMark_of_kept {value : Text}
    (h : (isNumeric value || value = "true".toList || value = "false".toList) = true) :
    cutOn schemeMark value = none := by
  refine cutOn_of_not_mem (c := ':') (by decide) fun hmem => ?_
  rw [Bool.or_eq_true, Bool.or_eq_true, decide_eq_true_eq, decide_eq_true_eq] at h
  rcases h with (hnumeric | rfl) | rfl
  · rcases isDigit_or_newline_of_isNumeric hnumeric ':' hmem with h | h
    · exact absurd h (by decide)
    · cases h
  · exact absurd hmem (by decide)
  · exact absurd hmem (by decide)

theorem placeholder_of_plain {key value : Text} (h : looksLikeSecret key value = false) :
    placeholder key value = match cutOn schemeMark value with
      | some (scheme, _) => urlPlaceholder scheme
      | none => value := by
  unfold placeholder
  rw [h, if_neg Bool.false_ne_true]
  split
  · rename_i hkept
    rw [cutOn_schemeMark_of_kept hkept]
  · rfl

/-! ## Values that are kept -/

theorem urlPlaceholder_eq_iff {scheme rest : Text} :
    urlPlaceholder scheme = scheme ++ schemeMark ++ rest ↔ rest = "your-url-here".toList := by
  have hmark : "://your-url-here".toList = schemeMark ++ "your-url-here".toList := by decide
  unfold urlPlaceholder
  rw [hmark, List.append_assoc, List.append_cancel_left_eq, List.append_cancel_left_eq]
  exact eq_comm

theorem placeholder_eq_self_iff (key value : Text) :
    placeholder key value = value ↔
      if looksLikeSecret key value = true then value = secretPlaceholder key
      else ∀ scheme rest, cutOn schemeMark value = some (scheme, rest) → rest = "your-url-here".toList := by
  cases hlook : looksLikeSecret key value with
  | true =>
    rw [if_pos rfl, placeholder, if_pos hlook]
    exact eq_comm
  | false =>
    rw [if_neg Bool.false_ne_true, placeholder_of_plain hlook]
    cases hcut : cutOn schemeMark value with
    | none => simp
    | some p =>
      obtain ⟨scheme, rest⟩ := p
      have hvalue := eq_append_of_cutOn hcut
      constructor
      · intro hsame scheme' rest' heq
        cases heq
        exact urlPlaceholder_eq_iff.1 (hsame.trans hvalue)
      · intro hrest
        exact (urlPlaceholder_eq_iff.2 (hrest scheme rest rfl)).trans hvalue.symm

/-- **What an example replaces of the values that a signature knows**: long ones under a sensitive key, and addresses,
unless the value is already what would take its place. -/
theorem placeholder_ne_iff_of_known (key : Text) {value : Text} (hknown : ∃ s ∈ bundledTable, s.matches value = true) :
    placeholder key value ≠ value ↔
      if hasSecretKeyword key = true ∧ longestPlainValue < value.length then value ≠ secretPlaceholder key
      else ∃ scheme rest, cutOn schemeMark value = some (scheme, rest) ∧ rest ≠ "your-url-here".toList := by
  rw [ne_eq, placeholder_eq_self_iff]
  by_cases hlook : looksLikeSecret key value = true
  · rw [if_pos hlook, if_pos ((looksLikeSecret_of_known hknown key).1 hlook)]
  · rw [if_neg hlook, if_neg fun h => hlook ((looksLikeSecret_of_known hknown key).2 h)]
    push Not
    rfl

/-- A token of the bundled form that is `ghp_` and thirty-six letters or digits. -/
def plainToken : Text := "ghp_".toList ++ List.replicate 36 'a'

theorem known_plainToken : ∃ s ∈ bundledTable, s.matches plainToken = true := by decide +kernel

/-- Under a sensitive key a token is replaced. -/
theorem placeholder_ne_plainToken :
    (∃ s ∈ bundledTable, s.matches plainToken = true) ∧ placeholder "API_TOKEN".toList plainToken ≠ plainToken := by
  refine ⟨known_plainToken, (placeholder_ne_iff_of_known "API_TOKEN".toList known_plainToken).2 ?_⟩
  rw [if_pos (by decide)]
  decide

/-- Under a key that is not sensitive the same token stands in the example. -/
theorem not_placeholder_ne_of_known :
    ¬ ∀ t : Text, ∀ v ∈ readEnv t, (∃ s ∈ bundledTable, s.matches v.value = true) →
      placeholder v.key v.value ≠ v.value := by
  intro h
  have hread : readEnv ("DEPLOY=".toList ++ plainToken) = [⟨"DEPLOY".toList, plainToken, 1, none⟩] := by decide
  have hv : (⟨"DEPLOY".toList, plainToken, 1, none⟩ : Variable) ∈ readEnv ("DEPLOY=".toList ++ plainToken) := by
    rw [hread]
    exact List.mem_singleton_self _
  exact h _ _ hv known_plainToken (by decide)

end EnvAudit

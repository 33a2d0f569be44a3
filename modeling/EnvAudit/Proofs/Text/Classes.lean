import EnvAudit.Text.Basic
import EnvAudit.Text.Digit
/-!
# Classes that exclude each other

White space and digits are both given by ranges of code points, and no range of the one meets a range of the other.
From the first ASCII digit to the last ASCII letter there is no white space either.
-/
namespace EnvAudit

def blankRanges : List (Nat × Nat) := [
  (9, 13), (28, 32), (0x85, 0x85), (0xA0, 0xA0), (0x1680, 0x1680), (0x2000, 0x200A), (0x2028, 0x2028),
  (0x2029, 0x2029), (0x202F, 0x202F), (0x205F, 0x205F), (0x3000, 0x3000)]

theorem exists_blankRange {c : Char} (h : isBlank c = true) : ∃ r ∈ blankRanges, r.1 ≤ c.toNat ∧ c.toNat ≤ r.2 := by
  unfold isBlank at h
  simp only [Bool.or_eq_true, Bool.and_eq_true, decide_eq_true_eq] at h
  simp only [blankRanges, List.mem_cons, List.not_mem_nil, or_false, exists_eq_or_imp, exists_eq_left]
  omega

theorem exists_digitRange {c : Char} (h : isDigit c = true) :
    ∃ r ∈ (48, 57) :: digitRanges, r.1 ≤ c.toNat ∧ c.toNat ≤ r.2 := by
  unfold isDigit digitValue? at h
  split at h
  · rename_i hascii
    unfold isAsciiDigit at hascii
    exact ⟨(48, 57), by simp, by simpa using hascii⟩
  · split at h
    · cases h
    · rw [Option.isSome_map] at h
      obtain ⟨r, hr⟩ := Option.isSome_iff_exists.1 h
      have hin := List.find?_some hr
      rw [Bool.and_eq_true, decide_eq_true_eq, decide_eq_true_eq] at hin
      exact ⟨r, List.mem_cons_of_mem _ (List.mem_of_find?_eq_some hr), hin⟩

theorem ranges_disjoint : ∀ b ∈ blankRanges, ∀ d ∈ (48, 57) :: digitRanges, b.2 < d.1 ∨ d.2 < b.1 := by decide

theorem isBlank_of_isDigit {c : Char} (h : isDigit c = true) : isBlank c = false := by
  refine Bool.eq_false_iff.2 (fun hblank => ?_)
  obtain ⟨b, hb, hlow, hhigh⟩ := exists_blankRange hblank
  obtain ⟨d, hd, hlow', hhigh'⟩ := exists_digitRange h
  have := ranges_disjoint b hb d hd
  omega

theorem isBlank_of_code {c : Char} (h : 48 ≤ c.toNat ∧ c.toNat ≤ 122) : isBlank c = false := by
  refine Bool.eq_false_iff.2 (fun hblank => ?_)
  obtain ⟨b, hb, hlow, hhigh⟩ := exists_blankRange hblank
  have hranges : ∀ b ∈ blankRanges, b.2 < 48 ∨ 122 < b.1 := by decide
  have := hranges b hb
  omega

end EnvAudit

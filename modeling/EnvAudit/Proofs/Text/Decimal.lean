import EnvAudit.Text.Integer
import Mathlib.Algebra.Group.Nat.Defs
/-!
# Decimal digits

The digits of a number are ASCII digits without a zero in front, and their value is the number (`digitsValue_decimal`).
How many digits a number takes bounds its size (`digitsValue_lt`, `length_decimal_le`), so an integer that was read from
few digits is written with few.
-/
namespace EnvAudit

/-- The number that ASCII digits stand for. -/
def digitsValue (ds : Text) : Nat := ofDigits 10 (ds.map fun c => c.toNat - 48)

theorem isAsciiDigit_iff_isDigit (c : Char) : isAsciiDigit c = true ↔ c.isDigit = true := by
  simp only [isAsciiDigit, Char.isDigit, Bool.and_eq_true, decide_eq_true_eq]
  exact Iff.rfl

theorem isAsciiDigit_of_mem_decimal {n : Nat} {c : Char} (h : c ∈ decimal n) : isAsciiDigit c = true :=
  (isAsciiDigit_iff_isDigit c).2 (Nat.isDigit_of_mem_toDigits (by decide) (by decide) h)

theorem decimal_ne_nil (n : Nat) : decimal n ≠ [] := Nat.toDigits_ne_nil

/-! ## Values -/

theorem foldl_digits_eq (ds : Text) (n : Nat) :
    (ds.map fun c => c.toNat - 48).foldl (fun n d => n * 10 + d) n = Nat.ofDigitChars 10 ds n := by
  rw [List.foldl_map, Nat.ofDigitChars_eq_foldl]
  simp only [Nat.mul_comm]
  rfl

theorem digitsValue_decimal (n : Nat) : digitsValue (decimal n) = n :=
  (foldl_digits_eq (decimal n) 0).trans Nat.ofDigitChars_ten_toDigits

theorem foldl_lt {base : Nat} : ∀ (ds : List Nat) (n k : Nat), (∀ d ∈ ds, d < base) → n < base ^ k →
    ds.foldl (fun n d => n * base + d) n < base ^ (k + ds.length)
  | [], n, k, _, hn => hn
  | d :: ds, n, k, hds, hn => by
    have hd : d < base := hds d List.mem_cons_self
    have hnext : n * base + d < base ^ (k + 1) := by
      calc n * base + d < n * base + base := Nat.add_lt_add_left hd _
        _ = (n + 1) * base := (Nat.succ_mul n base).symm
        _ ≤ base ^ k * base := Nat.mul_le_mul_right base hn
        _ = base ^ (k + 1) := (Nat.pow_succ ..).symm
    have hrest := foldl_lt ds (n * base + d) (k + 1) (fun e he => hds e (List.mem_cons_of_mem d he)) hnext
    rwa [show k + (d :: ds).length = k + 1 + ds.length by rw [List.length_cons]; omega]

theorem ofDigits_lt {base : Nat} (ds : List Nat) (h : ∀ d ∈ ds, d < base) : ofDigits base ds < base ^ ds.length := by
  have hlt := foldl_lt ds 0 0 h (Nat.pow_pos_iff.2 (Or.inr rfl))
  rwa [Nat.zero_add] at hlt

theorem digitsValue_lt {ds : Text} (h : ∀ c ∈ ds, isAsciiDigit c = true) : digitsValue ds < 10 ^ ds.length := by
  have hlt : ofDigits 10 (ds.map fun c => c.toNat - 48) < 10 ^ (ds.map fun c => c.toNat - 48).length := by
    refine ofDigits_lt _ fun d hd => ?_
    obtain ⟨c, hc, rfl⟩ := List.mem_map.1 hd
    have hdigit := h c hc
    simp only [isAsciiDigit, Bool.and_eq_true, decide_eq_true_eq] at hdigit
    omega
  rwa [List.length_map] at hlt

/-! ## Lengths -/

theorem length_decimal_le {n k : Nat} (hk : 0 < k) : (decimal n).length ≤ k ↔ n < 10 ^ k :=
  Nat.length_toDigits_le_iff (by decide) hk

/-- No zero stands in front of other digits: without it they would stand for the same number. -/
theorem eq_zero_of_decimal_cons {n : Nat} {ds : Text} (h : decimal n = '0' :: ds) : n = 0 := by
  have hdigits : ∀ c ∈ ds, isAsciiDigit c = true := fun c hc =>
    isAsciiDigit_of_mem_decimal (n := n) (h ▸ List.mem_cons_of_mem '0' hc)
  have hvalue : digitsValue ds = n := by
    have hsame := digitsValue_decimal n
    rwa [h] at hsame
  have hlt : n < 10 ^ ds.length := hvalue ▸ digitsValue_lt hdigits
  rcases List.eq_nil_or_concat ds with rfl | ⟨before, c, rfl⟩
  · exact hvalue.symm
  · have hlength := (length_decimal_le (n := n) (k := (before.concat c).length) (by simp)).2 hlt
    rw [h, List.length_cons] at hlength
    omega

end EnvAudit

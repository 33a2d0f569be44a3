import EnvAudit.Proofs.Settings.UserFile
/-!
# Coerced values

A value that is coerced to the type of a field is a text or an integer (`cases_of_coerce`), and an integer that can be
saved and read back: few digits were given or written, or it is the whole part of a float (`plain_of_coerce`).
-/
namespace EnvAudit

/-! ## Written integers -/

theorem digitInBase?_lt {base : Nat} {c : Char} {d : Nat} (h : digitInBase? base c = some d) : d < base := by
  obtain ⟨-, hd⟩ := Option.filter_eq_some_iff.1 h
  exact of_decide_eq_true hd

theorem digitsOf?_lt {base : Nat} {t : Text} {ds : List Nat} (h : digitsOf? base t = some ds) :
    ∀ d ∈ ds, d < base := by
  fun_induction digitsOf? base t generalizing ds with
  | case1 => cases h
  | case2 c =>
    obtain ⟨e, he, rfl⟩ := Option.map_eq_some_iff.1 h
    intro d hd
    rw [List.mem_singleton.1 hd]
    exact digitInBase?_lt he
  | case3 c rest ih | case4 c rest _ _ ih =>
    obtain ⟨e, he, h⟩ := Option.bind_eq_some_iff.1 h
    obtain ⟨es, hes, h⟩ := Option.bind_eq_some_iff.1 h
    obtain rfl := Option.some.inj h
    intro d hd
    rcases List.mem_cons.1 hd with rfl | hd
    · exact digitInBase?_lt he
    · exact ih hes d hd

theorem lt_of_parseNat? {t : Text} {n : Nat} (h : parseNat? 10 t = some n) : n < 10 ^ maxDecimalDigits := by
  unfold parseNat? at h
  obtain ⟨ds, hds, h⟩ := Option.bind_eq_some_iff.1 h
  split at h
  · cases h
  · rename_i hshort
    obtain rfl := Option.some.inj h
    simp only [decide_true, Bool.true_and, decide_eq_true_eq] at hshort
    exact Nat.lt_of_lt_of_le (ofDigits_lt ds (digitsOf?_lt hds))
      (Nat.pow_le_pow_right (by decide) (Nat.le_of_not_lt hshort))

theorem shortInt_of_parseInteger? {t : Text} {n : Int} (h : parseInteger? 10 t = some n) : ShortInt n := by
  unfold parseInteger? at h
  split at h
  · obtain ⟨m, hm, rfl⟩ := Option.map_eq_some_iff.1 h
    obtain ⟨k, hk, hm⟩ := Option.bind_eq_some_iff.1 hm
    obtain rfl := Option.some.inj hm
    refine shortInt_iff.2 ?_
    rw [Int.natAbs_neg]
    exact lt_of_parseNat? hk
  all_goals
    obtain ⟨k, hk, rfl⟩ := Option.map_eq_some_iff.1 h
    exact shortInt_iff.2 (lt_of_parseNat? hk)

/-! ## Whole parts -/

theorem bounds_of_partsOfBits {bits : Nat} {d : Dyadic} (h : partsOfBits bits = .finite d) :
    d.mantissa < 2 ^ 53 ∧ d.exponent ≤ 971 := by
  have hfraction : bits % Nat.pow 2 52 < 2 ^ 52 := Nat.mod_lt _ (by decide)
  have hbiased : bits / Nat.pow 2 52 % 2048 < 2048 := Nat.mod_lt _ (by decide)
  unfold partsOfBits at h
  dsimp only at h
  generalize bits % Nat.pow 2 52 = fraction at h hfraction
  generalize bits / Nat.pow 2 52 % 2048 = biased at h hbiased
  split at h
  · split at h <;> cases h
  split at h
  · obtain rfl := Parts.finite.inj h
    refine ⟨?_, ?_⟩ <;> dsimp only <;> omega
  · obtain rfl := Parts.finite.inj h
    refine ⟨?_, ?_⟩ <;> dsimp only
    · change fraction + 2 ^ 52 < 2 ^ 53
      omega
    · omega

theorem whole_lt {d : Dyadic} {m e : Nat} (hmantissa : d.mantissa < 2 ^ m) (hexponent : d.exponent ≤ e) :
    d.fraction.1 / d.fraction.2 < 2 ^ (m + e) := by
  unfold Dyadic.fraction
  split
  · rename_i hwhole
    calc d.mantissa * Nat.pow 2 d.exponent.toNat / 1 = d.mantissa * 2 ^ d.exponent.toNat := Nat.div_one _
      _ < 2 ^ m * 2 ^ d.exponent.toNat := Nat.mul_lt_mul_of_pos_right hmantissa (Nat.two_pow_pos _)
      _ ≤ 2 ^ m * 2 ^ e := Nat.mul_le_mul_left _ (Nat.pow_le_pow_right (by decide) (by omega))
      _ = 2 ^ (m + e) := (Nat.pow_add 2 m e).symm
  · calc d.mantissa / Nat.pow 2 (-d.exponent).toNat ≤ d.mantissa := Nat.div_le_self _ _
      _ < 2 ^ m := hmantissa
      _ ≤ 2 ^ (m + e) := Nat.pow_le_pow_right (by decide) (Nat.le_add_right m e)

theorem two_pow_le_ten_pow {k m : Nat} (h : k ≤ m) : 2 ^ k ≤ 10 ^ m :=
  Nat.le_trans (Nat.pow_le_pow_left (Nat.le_add_right 2 8) k) (Nat.pow_le_pow_right (Nat.succ_pos 9) h)

theorem shortInt_of_truncate? {x : Float} {n : Int} (h : truncate? x = some n) : ShortInt n := by
  unfold truncate? at h
  split at h
  · rename_i d hd
    obtain ⟨hmantissa, hexponent⟩ := bounds_of_partsOfBits hd
    obtain ⟨k, hk, hlt⟩ : ∃ k ≤ maxDecimalDigits, d.fraction.1 / d.fraction.2 < 2 ^ k :=
      ⟨53 + 971, by decide, whole_lt hmantissa hexponent⟩
    generalize d.fraction = quotient at h hlt
    have hn : n.natAbs = quotient.1 / quotient.2 := by
      obtain rfl := Option.some.inj h
      split
      · rw [Int.natAbs_neg, Int.natAbs_natCast]
      · rw [Int.natAbs_natCast]
    rw [← hn] at hlt
    exact shortInt_iff.2 (Nat.lt_of_lt_of_le hlt (two_pow_le_ten_pow hk))
  · cases h

theorem shortInt_of_integerOf {v : Value} {n : Int} (hgiven : ∀ m, v = .int m → ShortInt m)
    (h : integerOf v = .ok (some n)) : ShortInt n := by
  unfold integerOf at h
  split at h
  · obtain rfl := Option.some.inj (Except.ok.inj h)
    exact hgiven _ rfl
  · rename_i b
    obtain rfl := Option.some.inj (Except.ok.inj h)
    cases b <;> decide
  · split at h
    · cases h
    · exact shortInt_of_truncate? (Except.ok.inj h)
  · cases h

/-! ## Values of fields -/

theorem cases_of_coerceText {f : Field} {t : Text} {u : Value} (h : f.coerceText t = .ok u) :
    (f.isInteger = true ∧ ∃ n, parseInteger? 10 t = some n ∧ u = .int n) ∨ (f.isInteger = false ∧ u = .text t) := by
  unfold Field.coerceText at h
  cases hf : f.isInteger with
  | false =>
    rw [hf, if_neg Bool.false_ne_true] at h
    exact Or.inr ⟨rfl, (Except.ok.inj h).symm⟩
  | true =>
    rw [hf, if_pos rfl] at h
    cases hn : parseInteger? 10 t with
    | none => rw [hn] at h; cases h
    | some n => rw [hn] at h; exact Or.inl ⟨rfl, n, rfl, (Except.ok.inj h).symm⟩

theorem cases_of_coerceValue {levels : Nat} {f : Field} {v u : Value} (h : f.coerceValue levels v = .ok u) :
    (f.isInteger = true ∧ ∃ n, integerOf v = .ok (some n) ∧ u = .int n) ∨
      (f.isInteger = false ∧ ∃ t, u = .text t) := by
  unfold Field.coerceValue at h
  cases hf : f.isInteger with
  | false =>
    rw [hf, if_neg Bool.false_ne_true] at h
    cases hplain : v.plainWithin levels with
    | error e => rw [hplain] at h; cases h
    | ok t => rw [hplain] at h; exact Or.inr ⟨rfl, t, (Except.ok.inj h).symm⟩
  | true =>
    rw [hf, if_pos rfl] at h
    split at h
    · cases h
    · rename_i n hn
      exact Or.inl ⟨rfl, n, hn, (Except.ok.inj h).symm⟩
    · cases h
    · cases h

/-- **What a value is coerced to**: an integer that was given or written, or the whole part of a float, where the field
declares an integer, and a text elsewhere. -/
theorem cases_of_coerce {levels : Nat} {key : Text} {v u : Value} (h : coerce levels key v = .ok u) :
    ∃ f, Field.named? key = some f ∧
      ((f.isInteger = true ∧ ∃ n, ((∃ t, v = .text t ∧ parseInteger? 10 t = some n) ∨ integerOf v = .ok (some n)) ∧
          u = .int n) ∨
        (f.isInteger = false ∧ ∃ t, u = .text t)) := by
  unfold coerce at h
  split at h
  · cases h
  · rename_i f t hf
    refine ⟨f, hf, ?_⟩
    rcases cases_of_coerceText h with ⟨hinteger, n, hn, hu⟩ | ⟨htext, hu⟩
    · exact Or.inl ⟨hinteger, n, Or.inl ⟨t, rfl, hn⟩, hu⟩
    · exact Or.inr ⟨htext, t, hu⟩
  · rename_i f hf _
    refine ⟨f, hf, ?_⟩
    rcases cases_of_coerceValue h with ⟨hinteger, n, hn, hu⟩ | htext
    · exact Or.inl ⟨hinteger, n, Or.inr hn, hu⟩
    · exact Or.inr htext

/-- A coerced value can be saved and read back. -/
theorem coerce_text {levels : Nat} {key : Text} {f : Field} (hf : Field.named? key = some f) (t : Text) :
    coerce levels key (.text t) = f.coerceText t := by
  unfold coerce
  rw [hf]

theorem plain_of_coerceText {levels : Nat} {f : Field} {t : Text} {u : Value} (h : f.coerceText t = .ok u) :
    Plain levels u := by
  rcases cases_of_coerceText h with ⟨-, n, hn, rfl⟩ | ⟨-, rfl⟩
  · exact plain_int (shortInt_of_parseInteger? hn)
  · exact plain_text t

theorem plain_of_coerce {shown levels : Nat} {key : Text} {v u : Value} (hgiven : ∀ m, v = .int m → ShortInt m)
    (h : coerce shown key v = .ok u) : Plain levels u := by
  obtain ⟨f, -, ⟨-, n, hn, rfl⟩ | ⟨-, t, rfl⟩⟩ := cases_of_coerce h
  · rcases hn with ⟨t, -, hn⟩ | hn
    · exact plain_int (shortInt_of_parseInteger? hn)
    · exact plain_int (shortInt_of_integerOf hgiven hn)
  · exact plain_text t

end EnvAudit

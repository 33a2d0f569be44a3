import EnvAudit.Proofs.History.Findings
import EnvAudit.Proofs.Text.Mark
import EnvAudit.Secret.Finding
/-!
# What a table finds

Detection judges one variable after the other, and no judgement looks at another variable.  The first entry of the
table that knows the value has the word; where none does, the look of key and value decides (`judged_inspect`).  Entries
put behind a table are asked only about values that the table does not know, so a longer table finds all that the
shorter one finds and says something else of a variable only if a new entry knows its value (`detect_append`).
-/
namespace EnvAudit

/-! ## The look of a secret -/

/-- A character of the base64 alphabet, padding included. -/
def IsBase64 (c : Char) : Prop :=
  ('A' ≤ c ∧ c ≤ 'Z') ∨ ('a' ≤ c ∧ c ≤ 'z') ∨ ('0' ≤ c ∧ c ≤ '9') ∨ c = '+' ∨ c = '/' ∨ c = '='

/-- A key that names something sensitive, in letters of any case, over a long enough value. -/
structure LooksSecret (v : Variable) : Prop where
  key : ∃ keyword ∈ secretKeywords, keyword <:+: lowercase v.key
  length : 16 < v.value.length
  character : ∃ c ∈ v.value, IsBase64 c

theorem isBase64Char_eq_true_iff {c : Char} : isBase64Char c = true ↔ IsBase64 c := by
  unfold isBase64Char isAsciiLetter isAsciiUpper isAsciiLower isAsciiDigit IsBase64
  simp only [Bool.or_eq_true, Bool.and_eq_true, decide_eq_true_eq, or_assoc]
  rfl

theorem hasSecretKeyword_eq_true_iff {key : Text} :
    hasSecretKeyword key = true ↔ ∃ keyword ∈ secretKeywords, keyword <:+: lowercase key := by
  unfold hasSecretKeyword
  simp only [List.any_eq_true, occursIn_eq_true_iff]

theorem looksLikeSecret_eq_true_iff {v : Variable} : looksLikeSecret v.key v.value = true ↔ LooksSecret v := by
  unfold looksLikeSecret
  rw [Bool.and_eq_true, Bool.and_eq_true, hasSecretKeyword_eq_true_iff, decide_eq_true_eq, List.any_eq_true]
  simp only [isBase64Char_eq_true_iff]
  exact ⟨fun ⟨⟨hkey, hlength⟩, hcharacter⟩ => ⟨hkey, hlength, hcharacter⟩,
    fun h => ⟨⟨h.key, h.length⟩, h.character⟩⟩

/-! ## One variable -/

/-- The finding that an entry of a table gives. -/
def knownFinding (s : Signature) (v : Variable) : Finding :=
  ⟨v.key, "Looks like a ".toList ++ s.label, v.line, s.severity, some s.name, none⟩

/-- The finding that the look alone gives. -/
def suspectedFinding (v : Variable) : Finding :=
  ⟨v.key, lookReason, v.line, .medium, none, some (entropy v.value)⟩

/-- What a table says of a variable. -/
inductive Judged (table : List Signature) (v : Variable) : Option Finding → Prop
  | known (s : Signature) (h : FirstKnown table v.value s) : Judged table v (some (knownFinding s v))
  | suspected (h : ∀ s ∈ table, s.matches v.value = false) (hlook : LooksSecret v) :
      Judged table v (some (suspectedFinding v))
  | clear (h : ∀ s ∈ table, s.matches v.value = false) (hlook : ¬ LooksSecret v) : Judged table v none

theorem firstMatch_eq_none_iff {table : List Signature} {value : Text} :
    firstMatch table value = none ↔ ∀ s ∈ table, s.matches value = false := by
  unfold firstMatch
  rw [List.find?_eq_none]
  simp only [Bool.not_eq_true]

theorem inspect_of_known {table : List Signature} {v : Variable} {s : Signature}
    (h : firstMatch table v.value = some s) : inspect table v = some (knownFinding s v) := by
  unfold inspect
  rw [h]
  rfl

theorem inspect_of_unknown {table : List Signature} {v : Variable} (h : firstMatch table v.value = none) :
    inspect table v = if looksLikeSecret v.key v.value then some (suspectedFinding v) else none := by
  unfold inspect
  rw [h]
  rfl

/-- **A variable is judged** by the first entry that knows its value, else by its look. -/
theorem judged_inspect (table : List Signature) (v : Variable) : Judged table v (inspect table v) := by
  cases hfirst : firstMatch table v.value with
  | some s =>
    rw [inspect_of_known hfirst]
    exact .known s ((firstMatch_eq_some_iff table v.value s).1 hfirst)
  | none =>
    have hunknown := firstMatch_eq_none_iff.1 hfirst
    rw [inspect_of_unknown hfirst]
    by_cases hlook : looksLikeSecret v.key v.value = true
    · rw [if_pos hlook]
      exact .suspected hunknown (looksLikeSecret_eq_true_iff.1 hlook)
    · rw [if_neg hlook]
      exact .clear hunknown fun h => hlook (looksLikeSecret_eq_true_iff.2 h)

/-! ## Two tables -/

/-- What a table says of a variable, and what it says with more entries behind it. -/
structure Compared (table more : List Signature) (v : Variable) (r : Option Finding × Option Finding) : Prop where
  short : Judged table v r.1
  long : Judged (table ++ more) v r.2
  flagged : r.1.isSome = true → r.2.isSome = true
  kept : ∀ f, r.1 = some f → f.signature.isSome = true → r.2 = some f
  changed : r.2 ≠ r.1 → (r.1 = none ∨ r.1 = some (suspectedFinding v)) ∧
    ∃ s, FirstKnown more v.value s ∧ r.2 = some (knownFinding s v)

theorem firstMatch_append (table more : List Signature) (value : Text) :
    firstMatch (table ++ more) value = (firstMatch table value).or (firstMatch more value) := List.find?_append

theorem compared_inspect (table more : List Signature) (v : Variable) :
    Compared table more v (inspect table v, inspect (table ++ more) v) := by
  have hshort := judged_inspect table v
  have hlong := judged_inspect (table ++ more) v
  have happend := firstMatch_append table more v.value
  cases hfirst : firstMatch table v.value with
  | some s =>
    have hsame : inspect (table ++ more) v = inspect table v := by
      rw [hfirst, Option.some_or] at happend
      rw [inspect_of_known happend, inspect_of_known hfirst]
    rw [hsame] at hlong ⊢
    exact ⟨hshort, hlong, id, fun f hf _ => hf, fun hne => absurd rfl hne⟩
  | none =>
    rw [hfirst, Option.none_or] at happend
    cases hmore : firstMatch more v.value with
    | none =>
      have hsame : inspect (table ++ more) v = inspect table v := by
        rw [inspect_of_unknown (happend.trans hmore), inspect_of_unknown hfirst]
      rw [hsame] at hlong ⊢
      exact ⟨hshort, hlong, id, fun f hf _ => hf, fun hne => absurd rfl hne⟩
    | some s =>
      -- what the look said gives way to the new entry
      have hlook : inspect table v = none ∨ inspect table v = some (suspectedFinding v) := by
        rw [inspect_of_unknown hfirst]
        split
        · exact .inr rfl
        · exact .inl rfl
      rw [inspect_of_known (happend.trans hmore)] at hlong ⊢
      refine ⟨hshort, hlong, fun _ => rfl, fun f hf hsignature => ?_,
        fun _ => ⟨hlook, s, (firstMatch_eq_some_iff more v.value s).1 hmore, rfl⟩⟩
      rcases hlook with hnone | hsuspected
      · cases hnone.symm.trans hf
      · cases hsuspected.symm.trans hf
        cases hsignature

/-- **Detection with a table, and with more entries behind it.**  Each variable has one judgement by each of the two,
and what is found are the findings among the judgements, in the order of the variables. -/
theorem detect_append (table more : List Signature) (vs : List Variable) :
    ∃ judgements : List (Option Finding × Option Finding), List.Forall₂ (Compared table more) vs judgements ∧
      detect table vs = judgements.filterMap Prod.fst ∧ detect (table ++ more) vs = judgements.filterMap Prod.snd := by
  refine ⟨vs.map fun v => (inspect table v, inspect (table ++ more) v), ?_, ?_, ?_⟩
  · rw [List.forall₂_map_right_iff, List.forall₂_same]
    exact fun v _ => compared_inspect table more v
  · rw [List.filterMap_map]
    rfl
  · rw [List.filterMap_map]
    rfl

end EnvAudit

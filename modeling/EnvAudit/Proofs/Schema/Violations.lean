import EnvAudit.Proofs.Walk
import EnvAudit.Schema.Check
/-!
# Every violation once

The violations of a list of variables are of three kinds, one behind the other: empty values in the order of the
variables, missing keys in the order in which the schema first demands them, and values without their pattern in the
order of the rules.  Each place that calls for one has one (`validate_reports`).  The last two kinds look at the first
record of each key alone (`firstDeclared?_firstRecords`).
-/
namespace EnvAudit

/-! ## Keys -/

def HasKey (vs : List Variable) (k : Text) : Prop := ∃ v ∈ vs, v.key = k

/-- The first record of a key. -/
def FirstOf (vs : List Variable) (k : Text) (v : Variable) : Prop :=
  ∃ before after, vs = before ++ v :: after ∧ v.key = k ∧ ¬ HasKey before k

theorem isDeclared_iff {vs : List Variable} {k : Text} : isDeclared vs k = true ↔ HasKey vs k := by
  unfold isDeclared HasKey
  rw [List.any_eq_true]
  simp only [decide_eq_true_eq]

instance (vs : List Variable) (k : Text) : Decidable (HasKey vs k) := decidable_of_iff _ isDeclared_iff

theorem firstDeclared?_eq_some_iff {vs : List Variable} {k : Text} {v : Variable} :
    firstDeclared? vs k = some v ↔ FirstOf vs k v := by
  unfold firstDeclared? FirstOf HasKey
  rw [List.find?_eq_some_iff_append]
  simp only [decide_eq_true_eq, Bool.not_eq_true', decide_eq_false_iff_not, not_exists, not_and]
  constructor
  · rintro ⟨hk, before, after, h, hbefore⟩
    exact ⟨before, after, h, hk, hbefore⟩
  · rintro ⟨before, after, h, hk, hbefore⟩
    exact ⟨hk, before, after, h, hbefore⟩

/-! ## Repeated keys -/

/-- The records whose key no record before them has. -/
def firstRecords (vs : List Variable) : List Variable :=
  withEarlier (fun earlier v => if isDeclared earlier v.key then none else some v) vs

/-- **A record that repeats an earlier key** is never the one that is found. -/
theorem firstDeclared?_firstRecords (vs : List Variable) (k : Text) :
    firstDeclared? (firstRecords vs) k = firstDeclared? vs k := by
  have hfrom : ∀ (l earlier : List Variable), isDeclared earlier k = false →
      firstDeclared? (walk (fun earlier v => (earlier ++ [v], if isDeclared earlier v.key then none else some v))
        earlier l) k = firstDeclared? l k := by
    intro l
    induction l with
    | nil => exact fun _ _ => rfl
    | cons v l ih =>
      intro earlier hearlier
      rw [walk]
      by_cases hv : v.key = k
      · rw [hv, hearlier]
        simp [firstDeclared?, hv]
      · have hnext : isDeclared (earlier ++ [v]) k = false := by
          unfold isDeclared at hearlier ⊢
          rw [List.any_append, hearlier]
          simp [hv]
        have hrest := ih (earlier ++ [v]) hnext
        unfold firstDeclared? at hrest ⊢
        rw [List.find?_append, hrest, List.find?_cons_of_neg (by simpa using hv)]
        split
        · rfl
        · simp [hv]
  exact hfrom vs [] rfl

/-! ## Missing keys -/

/-- All that a schema demands: the keys it lists, then those whose rule requires them. -/
def Schema.demands (s : Schema) : List Text := s.required ++ (s.rules.filter fun r => r.2.required).map (·.1)

/-- What a demand gives behind the demands before it. -/
def missing? (vs : List Variable) (earlier : List Text) (k : Text) : Option Violation :=
  if k ∈ earlier ∨ HasKey vs k then none else some (.missing k)

/-- **A key is missing once**, where it is first demanded. -/
theorem missingKeys_eq (s : Schema) (vs : List Variable) : missingKeys s vs = withEarlier (missing? vs) s.demands := by
  have hfrom : ∀ (ks seen earlier : List Text), (∀ k, k ∈ seen ↔ k ∈ earlier) →
      ((Schema.distinct seen ks).filter fun k => !isDeclared vs k).map Violation.missing =
        walk (fun earlier k => (earlier ++ [k], missing? vs earlier k)) earlier ks := by
    intro ks
    induction ks with
    | nil => exact fun _ _ _ => rfl
    | cons k ks ih =>
      intro seen earlier hseen
      rw [Schema.distinct, walk]
      by_cases hk : k ∈ earlier
      · have hnext : ∀ x, x ∈ seen ↔ x ∈ earlier ++ [k] := fun x => by
          rw [hseen, List.mem_append, List.mem_singleton]
          exact ⟨Or.inl, fun h => h.elim id fun h => h ▸ hk⟩
        rw [if_pos (List.contains_iff_mem.2 ((hseen k).2 hk)), ih seen _ hnext, missing?, if_pos (Or.inl hk)]
        rfl
      · have hnext : ∀ x, x ∈ k :: seen ↔ x ∈ earlier ++ [k] := fun x => by
          rw [List.mem_cons, hseen, List.mem_append, List.mem_singleton]
          exact Or.comm
        have hseen' : ¬ seen.contains k = true := fun h => hk ((hseen k).1 (List.contains_iff_mem.1 h))
        rw [if_neg hseen', List.filter_cons, ← ih (k :: seen) _ hnext, missing?]
        by_cases hdeclared : HasKey vs k
        · rw [if_pos (Or.inr hdeclared), if_neg (by simp [isDeclared_iff.2 hdeclared])]
          rfl
        · have hundeclared : isDeclared vs k = false := Bool.eq_false_iff.2 fun h => hdeclared (isDeclared_iff.1 h)
          rw [if_neg (not_or.2 ⟨hk, hdeclared⟩), if_pos (by rw [hundeclared]; rfl)]
          rfl
  exact hfrom s.demands [] [] fun _ => Iff.rfl

/-! ## Mismatches -/

/-- The rule's pattern occurs nowhere in the value of the key's first record. -/
def Fails (vs : List Variable) (k : Text) (r : Rule) : Prop :=
  ∃ p v, r.pattern = some p ∧ FirstOf vs k v ∧ p.pattern.occursIn v.value = false

/-- What a rule gives. -/
def mismatch? (vs : List Variable) (r : Text × Rule) : Option Violation :=
  r.2.pattern.bind fun p => (firstDeclared? vs r.1).bind fun v =>
    if p.pattern.occursIn v.value then none else some (.mismatch r.1)

theorem mismatches_eq (s : Schema) (vs : List Variable) : mismatches s vs = s.rules.filterMap (mismatch? vs) := by
  unfold mismatches Schema.patterns
  rw [List.filterMap_filterMap]
  refine List.filterMap_congr fun r _ => ?_
  unfold mismatch?
  cases r.2.pattern with
  | none => rfl
  | some p =>
    rw [Option.map_some, Option.bind_some, Option.bind_some]
    dsimp only
    cases firstDeclared? vs r.1 <;> rfl

theorem mismatch?_eq_some_iff {vs : List Variable} {r : Text × Rule} {e : Violation} :
    mismatch? vs r = some e ↔ Fails vs r.1 r.2 ∧ e = .mismatch r.1 := by
  unfold mismatch? Fails
  simp only [Option.bind_eq_some_iff, firstDeclared?_eq_some_iff]
  constructor
  · rintro ⟨p, hp, v, hv, h⟩
    split at h
    · cases h
    · rename_i hno
      exact ⟨⟨p, v, hp, hv, by simpa using hno⟩, (Option.some.inj h).symm⟩
  · rintro ⟨⟨p, v, hp, hv, hno⟩, rfl⟩
    exact ⟨p, hp, v, hv, by rw [hno]; rfl⟩

/-! ## All violations -/

/-- What a record gives by itself. -/
def emptyValue? (v : Variable) : Option Violation := if v.value.isEmpty then some (.emptyValue v.key v.line) else none

theorem emptyValues_eq (vs : List Variable) : emptyValues vs = vs.filterMap emptyValue? := by
  unfold emptyValues emptyValue?
  rw [← List.filterMap_eq_map, List.filterMap_filter]
  rfl

theorem emptyValue?_eq_some_iff {v : Variable} {e : Violation} :
    emptyValue? v = some e ↔ v.value = [] ∧ e = .emptyValue v.key v.line := by
  unfold emptyValue?
  rw [← List.isEmpty_iff]
  split
  · rename_i h
    simp [h, eq_comm]
  · rename_i h
    simp [h]

theorem missing?_eq_some_iff {vs : List Variable} {earlier : List Text} {k : Text} {e : Violation} :
    missing? vs earlier k = some e ↔ (k ∉ earlier ∧ ¬ HasKey vs k) ∧ e = .missing k := by
  unfold missing?
  rw [← not_or]
  split
  · rename_i h
    simp [h]
  · rename_i h
    simp [h, eq_comm]

/-- What is wrong with some variables, kind by kind and place by place. -/
structure WrongWith (s : Schema) (vs : List Variable) (empties missing mismatched : List Violation) : Prop where
  /-- Every record with an empty value. -/
  empties : OnePerPlace (fun i => ∃ v, vs[i]? = some v ∧ v.value = [])
    (fun i e => ∃ v, vs[i]? = some v ∧ e = .emptyValue v.key v.line) empties
  /-- Every demanded key that no record declares, where it is first demanded. -/
  missing : OnePerPlace (fun i => ∃ k, s.demands[i]? = some k ∧ k ∉ s.demands.take i ∧ ¬ HasKey vs k)
    (fun i e => ∃ k, s.demands[i]? = some k ∧ e = .missing k) missing
  /-- Every rule whose pattern the first record of its key fails. -/
  mismatched : OnePerPlace (fun i => ∃ r, s.rules[i]? = some r ∧ Fails vs r.1 r.2)
    (fun i e => ∃ r, s.rules[i]? = some r ∧ e = .mismatch r.1) mismatched

theorem wrongWith_violations (s : Schema) (vs : List Variable) :
    WrongWith s vs (emptyValues vs) (missingKeys s vs) (mismatches s vs) := by
  constructor
  · rw [emptyValues_eq]
    exact (onePerPlace_filterMap emptyValue? vs).given (P := fun _ v => v.value = [])
      (R := fun v e => e = .emptyValue v.key v.line) (fun _ _ _ => emptyValue?_eq_some_iff) fun _ => ⟨_, rfl⟩
  · rw [missingKeys_eq]
    exact (onePerPlace_withEarlier (missing? vs) s.demands).given (P := fun earlier k => k ∉ earlier ∧ ¬ HasKey vs k)
      (R := fun k e => e = .missing k) (fun _ _ _ => missing?_eq_some_iff) fun _ => ⟨_, rfl⟩
  · rw [mismatches_eq]
    exact (onePerPlace_filterMap (mismatch? vs) s.rules).given (P := fun _ r => Fails vs r.1 r.2)
      (R := fun r e => e = .mismatch r.1) (fun _ _ _ => mismatch?_eq_some_iff) fun _ => ⟨_, rfl⟩

/-! ## First records -/

theorem isDeclared_firstRecords (vs : List Variable) (k : Text) : isDeclared (firstRecords vs) k = isDeclared vs k := by
  have hsome : ∀ us, isDeclared us k = (firstDeclared? us k).isSome := fun us => List.isSome_find?.symm
  rw [hsome, hsome, firstDeclared?_firstRecords]

/-- **Only first records** can miss a key or fail a pattern. -/
theorem missingKeys_firstRecords (s : Schema) (vs : List Variable) :
    missingKeys s (firstRecords vs) = missingKeys s vs := by
  unfold missingKeys
  simp only [isDeclared_firstRecords]

theorem mismatches_firstRecords (s : Schema) (vs : List Variable) :
    mismatches s (firstRecords vs) = mismatches s vs := by
  unfold mismatches
  simp only [firstDeclared?_firstRecords]

theorem missing_mem_violations_iff (s : Schema) (vs : List Variable) (k : Text) :
    .missing k ∈ violations (some s) vs ↔ .missing k ∈ missingKeys s vs := by
  unfold violations
  rw [List.mem_append, List.mem_append]
  simp [emptyValues, mismatches_eq, mismatch?_eq_some_iff]

theorem mismatch_mem_violations_iff (s : Schema) (vs : List Variable) (k : Text) :
    .mismatch k ∈ violations (some s) vs ↔ .mismatch k ∈ mismatches s vs := by
  unfold violations
  rw [List.mem_append, List.mem_append]
  simp [emptyValues, missingKeys]

/-- A key that no record declares fails no pattern. -/
theorem not_mismatch_of_missing {s : Schema} {vs : List Variable} {k : Text} (h : .missing k ∈ missingKeys s vs) :
    .mismatch k ∉ mismatches s vs := by
  have hundeclared : ¬ HasKey vs k := by
    unfold missingKeys at h
    obtain ⟨k', hk', heq⟩ := List.mem_map.1 h
    obtain rfl := Violation.missing.inj heq
    have hno := (List.mem_filter.1 hk').2
    exact fun hdeclared => by rw [isDeclared_iff.2 hdeclared] at hno; cases hno
  rw [mismatches_eq]
  intro hmem
  obtain ⟨r, -, hr⟩ := List.mem_filterMap.1 hmem
  obtain ⟨⟨p, v, -, ⟨before, after, rfl, hv, -⟩, -⟩, heq⟩ := mismatch?_eq_some_iff.1 hr
  obtain rfl := Violation.mismatch.inj heq
  exact hundeclared ⟨v, by simp, hv⟩

/-- **Validation reports every violation once**: the empty values, then the missing keys, then the values that fail
their pattern, each kind in its order.  The variables are valid if there is none.  No key is both missing and in a
mismatch, and a list with the same first records has the same missing keys and mismatches. -/
theorem validate_reports (s : Schema) (vs : List Variable) : ∃ empties missing mismatched,
    (validate (some s) vs).violations = empties ++ missing ++ mismatched ∧
      WrongWith s vs empties missing mismatched ∧
      ((validate (some s) vs).isValid = true ↔ (validate (some s) vs).violations = []) ∧
      (∀ k, .missing k ∈ (validate (some s) vs).violations → .mismatch k ∉ (validate (some s) vs).violations) ∧
      ∀ us, firstRecords us = firstRecords vs →
        (validate (some s) us).violations = emptyValues us ++ missing ++ mismatched := by
  refine ⟨emptyValues vs, missingKeys s vs, mismatches s vs, rfl, wrongWith_violations s vs, List.isEmpty_iff, ?_, ?_⟩
  · intro k hmissing hmismatch
    have hmissing := (missing_mem_violations_iff s vs k).1 hmissing
    exact not_mismatch_of_missing hmissing ((mismatch_mem_violations_iff s vs k).1 hmismatch)
  · intro us hfirst
    change emptyValues us ++ missingKeys s us ++ mismatches s us = _
    rw [← missingKeys_firstRecords s us, hfirst, missingKeys_firstRecords, ← mismatches_firstRecords s us, hfirst,
      mismatches_firstRecords]

end EnvAudit

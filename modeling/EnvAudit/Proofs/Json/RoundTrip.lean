import EnvAudit.Proofs.Json.Token
import EnvAudit.Proofs.Json.Value
import Mathlib.Data.List.TakeWhile
/-!
# JSON is read back

A value without floats is written as a text that spells the tokens of the value (`spells_jsonAt`), and a reader with
levels enough makes the value of them, whatever stands behind (`reads_tokens`).  So a document without floats is read
back as it was written (`readJson_json`).
-/
namespace EnvAudit

def Scalar.FloatFree : Scalar → Prop
  | .num _ => False
  | _ => True

mutual
def Value.FloatFree : Value → Prop
  | .scalar s => s.FloatFree
  | .list vs => FloatFreeItems vs
  | .map es => FloatFreeMembers es
  | .members ks => ∀ k ∈ ks, k.FloatFree
  | .pair a b => a.FloatFree ∧ b.FloatFree

def FloatFreeItems : List Value → Prop
  | [] => True
  | v :: vs => v.FloatFree ∧ FloatFreeItems vs

def FloatFreeMembers : List (Scalar × Value) → Prop
  | [] => True
  | (_, v) :: es => v.FloatFree ∧ FloatFreeMembers es
end

theorem floatFree_of_mem_members : ∀ {es : Entries}, FloatFreeMembers es → ∀ e ∈ es, e.2.FloatFree
  | [], _, _, h => nomatch h
  | (_, _) :: _, ⟨hv, hes⟩, e, h => by
    rcases List.mem_cons.1 h with rfl | h
    · exact hv
    · exact floatFree_of_mem_members hes e h

/-! ## Integers -/

theorem decimalInt_eq (n : Int) : decimalInt n = (if n < 0 then ['-'] else []) ++ decimal n.natAbs := by
  cases n with
  | ofNat n => rw [if_neg (by exact Int.not_lt.2 (Int.natCast_nonneg n))]; rfl
  | negSucc n => rw [if_pos (Int.negSucc_lt_zero n)]; rfl

theorem digit_or_sign_of_mem_decimalInt {n : Int} {c : Char} (h : c ∈ decimalInt n) :
    isAsciiDigit c = true ∨ c = '-' := by
  rw [decimalInt_eq] at h
  rcases List.mem_append.1 h with h | h
  · split at h
    · exact Or.inr (List.mem_singleton.1 h)
    · cases h
  · exact Or.inl (isAsciiDigit_of_mem_decimal h)

theorem jsonNumber?_decimalInt (n : Int) :
    jsonNumber? (decimalInt n) = some (⟨decide (n < 0), decimal n.natAbs, none, none⟩, []) := by
  by_cases hzero : n = 0
  · subst hzero
    rfl
  obtain ⟨d, ds, hds⟩ := List.exists_cons_of_ne_nil (decimal_ne_nil n.natAbs)
  have hdigits : ∀ c ∈ d :: ds, isAsciiDigit c = true := fun c hc => isAsciiDigit_of_mem_decimal (n := n.natAbs) (hds ▸ hc)
  have hfirst : d ≠ '0' := by
    rintro rfl
    exact hzero (Int.natAbs_eq_zero.1 (eq_zero_of_decimal_cons hds))
  have hsign : d ≠ '-' := by
    rintro rfl
    exact absurd (hdigits '-' List.mem_cons_self) (by decide)
  have htake : (d :: ds).takeWhile isAsciiDigit = d :: ds := List.takeWhile_eq_self_iff.2 hdigits
  rw [decimalInt_eq, hds]
  unfold jsonNumber?
  by_cases hneg : n < 0
  · rw [if_pos hneg, decide_eq_true hneg]
    simp [htake, hfirst, jsonFraction, jsonExponent]
  · rw [if_neg hneg, decide_eq_false hneg]
    simp [htake, hfirst, hsign, jsonFraction, jsonExponent]

theorem literal_hasLetter : ∀ w ∈ ["null", "true", "false", "NaN", "Infinity", "-Infinity"],
    (w.toList.any fun c => !(isAsciiDigit c || c = '-')) = true := by
  decide

theorem decimalInt_ne_literal (n : Int) : ∀ w ∈ ["null", "true", "false", "NaN", "Infinity", "-Infinity"],
    decimalInt n ≠ w.toList := by
  intro w hw h
  obtain ⟨c, hc, hletter⟩ := List.any_eq_true.1 (literal_hasLetter w hw)
  obtain hdigit | rfl := digit_or_sign_of_mem_decimalInt (n := n) (h ▸ hc)
  · simp [hdigit] at hletter
  · cases hletter

theorem readJsonWord_decimalInt (n : Int) : readJsonWord (decimalInt n) =
    if ShortInt n then .ok (.int n) else .error .integerTooLong := by
  have hword := decimalInt_ne_literal n
  have hvalue : JsonNumber.integer ⟨decide (n < 0), decimal n.natAbs, none, none⟩ = n := by
    change (if decide (n < 0) = true then -((digitsValue (decimal n.natAbs) : Nat) : Int)
      else ((digitsValue (decimal n.natAbs) : Nat) : Int)) = n
    rw [digitsValue_decimal]
    split <;> rename_i hneg <;> simp only [decide_eq_true_eq] at hneg <;> omega
  unfold readJsonWord
  rw [if_neg (hword _ (by decide)), if_neg (hword _ (by decide)), if_neg (hword _ (by decide)),
    if_neg (hword _ (by decide)), if_neg (hword _ (by decide)), if_neg (hword _ (by decide)), jsonNumber?_decimalInt]
  by_cases hshort : ShortInt n
  · have hfew : ¬ maxDecimalDigits < (decimal n.natAbs).length := Nat.not_lt.2 hshort
    simp [JsonNumber.isInteger, hfew, hshort, hvalue]
  · have hmany : maxDecimalDigits < (decimal n.natAbs).length := Nat.not_le.1 hshort
    simp [JsonNumber.isInteger, hmany, hshort]

/-! ## Tokens of a value -/

def Scalar.token : Scalar → JsonToken
  | .text t => .text t
  | s => .word (jsonScalar s)

mutual
def Value.tokens : Value → List JsonToken
  | .scalar s => [s.token]
  | .list vs => .mark '[' :: joinWith [.mark ','] (itemTokens vs) ++ [.mark ']']
  | .map es => .mark '\x7b' :: joinWith [.mark ','] (memberTokens es) ++ [.mark '\x7d']
  | .members _ => []
  | .pair _ _ => []

def itemTokens : List Value → List (List JsonToken)
  | [] => []
  | v :: vs => v.tokens :: itemTokens vs

def memberTokens : List (Scalar × Value) → List (List JsonToken)
  | [] => []
  | (k, v) :: es => (k.token :: .mark ':' :: v.tokens) :: memberTokens es
end

/-! ## Writing -/

theorem spells_decimalInt (n : Int) : Spells (decimalInt n) [.word (decimalInt n)] := by
  refine spells_word ?_ (List.all_eq_true.2 fun c hc => ?_)
  · rw [decimalInt_eq]
    simp [decimal_ne_nil]
  · obtain hdigit | rfl := digit_or_sign_of_mem_decimalInt hc
    · simp [isJsonWordChar, hdigit]
    · decide

theorem spells_jsonScalar {s : Scalar} (h : s.IsJson) (hfloat : s.FloatFree) : Spells (jsonScalar s) [s.token] := by
  cases s with
  | null => exact spells_word (by decide) (by decide)
  | bool b => cases b <;> exact spells_word (by decide) (by decide)
  | int n => exact spells_decimalInt n
  | num x => exact hfloat.elim
  | text t => exact spells_jsonText t
  | bytes b => exact h.elim
  | moment m => exact h.elim

/-- A member's name, the colon and the space behind it, and its value. -/
theorem Spells.member {k : Scalar} (hk : k.IsText) {t : Text} {ts : List JsonToken} (h : Spells t ts) :
    Spells (jsonName k ++ ": ".toList ++ t) (k.token :: .mark ':' :: ts) := by
  obtain ⟨name, rfl⟩ := hk
  have hname := spells_jsonText name
  constructor
  · intro rest hrest
    change jsonTokens (jsonText name ++ [':', ' '] ++ t ++ rest) = .text name :: .mark ':' :: (ts ++ jsonTokens rest)
    simp only [List.append_assoc, List.cons_append, List.nil_append]
    rw [hname.gives _ (breaks_cons (by decide) _), jsonTokens_mark (by decide), jsonTokens_space (by decide),
      h.gives rest hrest]
    rfl
  · change '\r' ∉ jsonText name ++ [':', ' '] ++ t
    simp [hname.noReturn, h.noReturn]

mutual
theorem spells_jsonAt (depth : Nat) : ∀ {levels : Nat} (v : Value), v.IsJson levels → v.FloatFree →
    Spells (jsonAt depth v) v.tokens
  | _, .scalar s, h, hfloat => by
    rw [jsonAt, Value.tokens]
    exact spells_jsonScalar h hfloat
  | _ + 1, .list vs, h, hfloat => by
    rw [jsonAt, Value.tokens]
    exact spells_jsonBlock (by decide) (by decide) depth (spells_jsonItemsAt (depth + 1) vs h hfloat)
  | _ + 1, .map es, h, hfloat => by
    rw [jsonAt, Value.tokens]
    exact spells_jsonBlock (by decide) (by decide) depth (spells_jsonMembersAt (depth + 1) es h hfloat)

theorem spells_jsonItemsAt (depth : Nat) : ∀ {levels : Nat} (vs : List Value), JsonItems levels vs → FloatFreeItems vs →
    List.Forall₂ Spells (jsonItemsAt depth vs) (itemTokens vs)
  | _, [], _, _ => .nil
  | _, v :: vs, ⟨hv, hvs⟩, ⟨hfloat, hfloats⟩ =>
    .cons (spells_jsonAt depth v hv hfloat) (spells_jsonItemsAt depth vs hvs hfloats)

theorem spells_jsonMembersAt (depth : Nat) : ∀ {levels : Nat} (es : List (Scalar × Value)), JsonMembers levels es →
    FloatFreeMembers es → List.Forall₂ Spells (jsonMembersAt depth es) (memberTokens es)
  | _, [], _, _ => .nil
  | _, (_, v) :: es, ⟨hk, _, hv, hes⟩, ⟨hfloat, hfloats⟩ =>
    .cons ((spells_jsonAt depth v hv hfloat).member hk) (spells_jsonMembersAt depth es hes hfloats)
end

/-! ## Reading

A value takes at most two calls of the readers for each of its tokens. -/

theorem readJsonWord_jsonScalar {s : Scalar} (h : s.IsJson) (hfloat : s.FloatFree) (htext : ¬ s.IsText) :
    readJsonWord (jsonScalar s) = .ok (.scalar s) := by
  cases s with
  | null => rfl
  | bool b => cases b <;> rfl
  | int n => exact (readJsonWord_decimalInt n).trans (if_pos h)
  | num x => exact hfloat.elim
  | text t => exact absurd ⟨t, rfl⟩ htext
  | bytes b => exact h.elim
  | moment m => exact h.elim

theorem namesJsonNumber_decimalInt (n : Int) : namesJsonNumber (decimalInt n) = false := by
  refine List.any_eq_false.2 fun name hname hlead => ?_
  obtain ⟨w, hw, rfl⟩ : ∃ w ∈ ["null", "true", "false", "NaN", "Infinity", "-Infinity"], w.toList = name := by
    simp only [jsonNumberNames, List.mem_cons, List.not_mem_nil, or_false] at hname
    rcases hname with rfl | rfl | rfl <;> exact ⟨_, by simp, rfl⟩
  obtain ⟨c, hc, hletter⟩ := List.any_eq_true.1 (literal_hasLetter w hw)
  obtain hdigit | rfl := digit_or_sign_of_mem_decimalInt ((startsWith_iff.1 hlead).subset hc)
  · simp [hdigit] at hletter
  · cases hletter

/-- No scalar but a float is looked up by its name. -/
theorem namesJsonNumber_jsonScalar {s : Scalar} (h : s.IsJson) (hfloat : s.FloatFree) (htext : ¬ s.IsText) :
    namesJsonNumber (jsonScalar s) = false := by
  cases s with
  | null => rfl
  | bool b => cases b <;> rfl
  | int n => exact namesJsonNumber_decimalInt n
  | num x => exact hfloat.elim
  | text t => exact absurd ⟨t, rfl⟩ htext
  | bytes b => exact h.elim
  | moment m => exact h.elim

theorem readJsonValue_word {levels fuel : Nat} {w : Text} (h : namesJsonNumber w = false) (rest : List JsonToken) :
    readJsonValue levels (fuel + 1) (.word w :: rest) = (readJsonWord w).map fun v => (v, rest) := by
  rw [readJsonValue, h, Bool.and_false]
  rfl

theorem reads_token {s : Scalar} (h : s.IsJson) (hfloat : s.FloatFree) (levels fuel : Nat) (rest : List JsonToken) :
    readJsonValue levels (fuel + 1) (s.token :: rest) = .ok (.scalar s, rest) := by
  by_cases htext : s.IsText
  · obtain ⟨t, rfl⟩ := htext
    rw [Scalar.token, readJsonValue]
  · have hword : s.token = .word (jsonScalar s) := by
      cases s with
      | text t => exact absurd ⟨t, rfl⟩ htext
      | _ => rfl
    rw [hword, readJsonValue_word (namesJsonNumber_jsonScalar h hfloat htext), readJsonWord_jsonScalar h hfloat htext]
    rfl

/-- No value begins with a closing bracket. -/
theorem exists_tokens_cons {levels : Nat} {v : Value} (h : v.IsJson levels) : ∃ t ts, v.tokens = t :: ts ∧ t ≠ .mark ']' := by
  cases v with
  | scalar s => cases s <;> exact ⟨_, _, rfl, nofun⟩
  | list vs => exact ⟨_, _, rfl, by simp⟩
  | map es => exact ⟨_, _, rfl, by simp⟩
  | members ks => cases levels <;> exact h.elim
  | pair a b => cases levels <;> exact h.elim

theorem tokens_length_pos {levels : Nat} {v : Value} (h : v.IsJson levels) : 0 < v.tokens.length := by
  obtain ⟨t, ts, htokens, -⟩ := exists_tokens_cons h
  rw [htokens]
  exact Nat.succ_pos _

theorem joinWith_cons_eq (sep p : List JsonToken) (ps : List (List JsonToken)) :
    ∃ more, joinWith sep (p :: ps) = p ++ more := by
  cases ps with
  | nil => exact ⟨[], (List.append_nil p).symm⟩
  | cons q qs => exact ⟨sep ++ joinWith sep (q :: qs), List.append_assoc ..⟩

theorem readJsonValue_items {levels fuel : Nat} {ts after : List JsonToken} {vs : List Value}
    (hfirst : ∀ rest, ts ≠ .mark ']' :: rest) (h : readJsonItems levels fuel ts = .ok (vs, after)) :
    readJsonValue (levels + 1) (fuel + 1) (.mark '[' :: ts) = .ok (.list vs, after) := by
  rw [readJsonValue]
  · rw [h]; rfl
  · exact hfirst

theorem readJsonValue_members {levels fuel : Nat} {ts after : List JsonToken} {es : Entries}
    (hes : JsonMembers levels es) (hfirst : ∀ rest, ts ≠ .mark '\x7d' :: rest)
    (h : readJsonMembers levels fuel ts = .ok (es, after)) :
    readJsonValue (levels + 1) (fuel + 1) (.mark '\x7b' :: ts) = .ok (.map es, after) := by
  rw [readJsonValue]
  · rw [h]
    exact congrArg (fun m => Except.ok (Value.map m, after)) (ofPairs_of_jsonMembers hes)
  · exact hfirst

mutual
theorem reads_tokens : ∀ {levels : Nat} (v : Value), v.IsJson levels → v.FloatFree →
    ∀ (fuel : Nat) (rest : List JsonToken), 2 * v.tokens.length ≤ fuel + 1 →
      readJsonValue levels fuel (v.tokens ++ rest) = .ok (v, rest)
  | levels, .scalar s, h, hfloat, fuel, rest, hfuel => by
    obtain ⟨n, rfl⟩ : ∃ n, fuel = n + 1 := ⟨fuel - 1, by rw [Value.tokens, List.length_singleton] at hfuel; omega⟩
    rw [Value.tokens]
    exact reads_token h hfloat levels n rest
  | _ + 1, .list [], _, _, fuel, rest, hfuel => by
    obtain ⟨n, rfl⟩ : ∃ n, fuel = n + 1 := ⟨fuel - 1, by simp [Value.tokens, itemTokens, joinWith] at hfuel; omega⟩
    rfl
  | _ + 1, .list (v :: vs), h, hfloat, fuel, rest, hfuel => by
    rw [Value.tokens] at hfuel ⊢
    simp only [List.length_append, List.length_cons, List.length_nil] at hfuel
    obtain ⟨n, rfl⟩ : ∃ n, fuel = n + 1 := ⟨fuel - 1, by omega⟩
    simp only [List.cons_append, List.append_assoc, List.nil_append]
    refine readJsonValue_items ?_ (reads_itemTokens (v :: vs) (List.cons_ne_nil v vs) h hfloat n rest (by omega))
    obtain ⟨t, ts, htokens, ht⟩ := exists_tokens_cons (v := v) h.1
    obtain ⟨more, hmore⟩ := joinWith_cons_eq [.mark ','] v.tokens (itemTokens vs)
    rw [itemTokens, hmore, htokens]
    exact fun _ hsame => ht (List.cons.inj hsame).1
  | _ + 1, .map [], _, _, fuel, rest, hfuel => by
    obtain ⟨n, rfl⟩ : ∃ n, fuel = n + 1 := ⟨fuel - 1, by simp [Value.tokens, memberTokens, joinWith] at hfuel; omega⟩
    rfl
  | _ + 1, .map ((k, v) :: es), h, hfloat, fuel, rest, hfuel => by
    rw [Value.tokens] at hfuel ⊢
    simp only [List.length_append, List.length_cons, List.length_nil] at hfuel
    obtain ⟨n, rfl⟩ : ∃ n, fuel = n + 1 := ⟨fuel - 1, by omega⟩
    simp only [List.cons_append, List.append_assoc, List.nil_append]
    refine readJsonValue_members h ?_ (reads_memberTokens ((k, v) :: es) (List.cons_ne_nil _ es) h hfloat n rest (by omega))
    obtain ⟨name, rfl⟩ := h.1
    obtain ⟨more, hmore⟩ := joinWith_cons_eq [.mark ','] (.text name :: .mark ':' :: v.tokens) (memberTokens es)
    rw [memberTokens, Scalar.token, hmore]
    exact fun _ hsame => nomatch (List.cons.inj hsame).1

theorem reads_itemTokens : ∀ {levels : Nat} (vs : List Value), vs ≠ [] → JsonItems levels vs → FloatFreeItems vs →
    ∀ (fuel : Nat) (rest : List JsonToken), 2 * (joinWith [JsonToken.mark ','] (itemTokens vs)).length ≤ fuel →
      readJsonItems levels fuel (joinWith [JsonToken.mark ','] (itemTokens vs) ++ .mark ']' :: rest) = .ok (vs, rest)
  | _, [], hne, _, _, _, _, _ => absurd rfl hne
  | levels, [v], _, ⟨hv, _⟩, ⟨hfloat, _⟩, fuel, rest, hfuel => by
    change 2 * v.tokens.length ≤ fuel at hfuel
    have hsome := tokens_length_pos hv
    obtain ⟨n, rfl⟩ : ∃ n, fuel = n + 1 := ⟨fuel - 1, by omega⟩
    change readJsonItems levels (n + 1) (v.tokens ++ .mark ']' :: rest) = _
    rw [readJsonItems, reads_tokens v hv hfloat n _ (by omega)]
    rfl
  | levels, v :: u :: us, _, ⟨hv, hvs⟩, ⟨hfloat, hfloats⟩, fuel, rest, hfuel => by
    have hjoin : joinWith [JsonToken.mark ','] (itemTokens (v :: u :: us)) =
        v.tokens ++ .mark ',' :: joinWith [JsonToken.mark ','] (itemTokens (u :: us)) := by
      rw [itemTokens, itemTokens, joinWith_cons _ _ (List.cons_ne_nil _ _), List.append_assoc]
      rfl
    rw [hjoin] at hfuel ⊢
    simp only [List.length_append, List.length_cons] at hfuel
    obtain ⟨n, rfl⟩ : ∃ n, fuel = n + 1 := ⟨fuel - 1, by omega⟩
    have hrest := reads_itemTokens (u :: us) (List.cons_ne_nil u us) hvs hfloats n rest (by omega)
    rw [List.append_assoc, List.cons_append, readJsonItems, reads_tokens v hv hfloat n _ (by omega)]
    change (readJsonItems levels n _ >>= fun p => .ok (v :: p.1, p.2)) = _
    rw [hrest]
    rfl

theorem reads_memberTokens : ∀ {levels : Nat} (es : List (Scalar × Value)), es ≠ [] → JsonMembers levels es →
    FloatFreeMembers es → ∀ (fuel : Nat) (rest : List JsonToken),
      2 * (joinWith [JsonToken.mark ','] (memberTokens es)).length ≤ fuel →
        readJsonMembers levels fuel (joinWith [JsonToken.mark ','] (memberTokens es) ++ .mark '\x7d' :: rest) =
          .ok (es, rest)
  | _, [], hne, _, _, _, _, _ => absurd rfl hne
  | levels, [(_, v)], _, ⟨⟨name, rfl⟩, _, hv, _⟩, ⟨hfloat, _⟩, fuel, rest, hfuel => by
    change 2 * (v.tokens.length + 2) ≤ fuel at hfuel
    obtain ⟨n, rfl⟩ : ∃ n, fuel = n + 1 := ⟨fuel - 1, by omega⟩
    change readJsonMembers levels (n + 1) (.text name :: .mark ':' :: (v.tokens ++ .mark '\x7d' :: rest)) = _
    rw [readJsonMembers, reads_tokens v hv hfloat n _ (by omega)]
    rfl
  | levels, (_, v) :: (l, u) :: es, _, ⟨⟨name, rfl⟩, _, hv, hes⟩, ⟨hfloat, hfloats⟩, fuel, rest, hfuel => by
    have hjoin : joinWith [JsonToken.mark ','] (memberTokens ((.text name, v) :: (l, u) :: es)) =
        .text name :: .mark ':' :: (v.tokens ++
          .mark ',' :: joinWith [JsonToken.mark ','] (memberTokens ((l, u) :: es))) := by
      rw [memberTokens, memberTokens, joinWith_cons _ _ (List.cons_ne_nil _ _), List.append_assoc]
      rfl
    rw [hjoin] at hfuel ⊢
    simp only [List.length_append, List.length_cons] at hfuel
    obtain ⟨n, rfl⟩ : ∃ n, fuel = n + 1 := ⟨fuel - 1, by omega⟩
    have hrest := reads_memberTokens ((l, u) :: es) (List.cons_ne_nil _ es) hes hfloats n rest (by omega)
    simp only [List.cons_append, List.append_assoc]
    rw [readJsonMembers, reads_tokens v hv hfloat n _ (by omega)]
    change (readJsonMembers levels n _ >>= fun p => .ok ((.text name, v) :: p.1, p.2)) = _
    rw [hrest]
    rfl
end

/-- **A document without floats** is read back as it was written. -/
theorem readJson_json {levels : Nat} {v : Value} (h : v.IsJson levels) (hfloat : v.FloatFree) :
    readJson levels v.json = .ok v := by
  have htokens := (spells_jsonAt 0 v h hfloat).jsonTokens_eq
  have hread := reads_tokens v h hfloat (2 * v.tokens.length + 1) [] (by omega)
  rw [List.append_nil] at hread
  change jsonTokens v.json = v.tokens at htokens
  unfold readJson
  rw [htokens]
  dsimp only
  rw [hread]
  rfl

theorem return_not_mem_json {levels : Nat} {v : Value} (h : v.IsJson levels) (hfloat : v.FloatFree) : '\r' ∉ v.json :=
  (spells_jsonAt 0 v h hfloat).noReturn

/-! ## Writing as a whole -/

mutual
theorem beforeFaultAt_of_isJson (depth : Nat) : ∀ {levels : Nat} (v : Value), v.IsJson levels →
    beforeFaultAt depth v = none
  | _, .scalar (.int n), h => by
    have hshort : ¬ maxDecimalDigits < (decimal n.natAbs).length := Nat.not_lt.2 h
    rw [beforeFaultAt, Scalar.shownFault?, if_neg hshort]
    rfl
  | _, .scalar .null, _ | _, .scalar (.bool _), _ | _, .scalar (.num _), _ | _, .scalar (.text _), _ => by
    rw [beforeFaultAt]
    rfl
  | _ + 1, .list vs, h => by rw [beforeFaultAt, itemsBeforeFault_of_isJson (depth + 1) vs h, Option.map_none]
  | _ + 1, .map es, h => by rw [beforeFaultAt, membersBeforeFault_of_isJson (depth + 1) es h, Option.map_none]

theorem itemsBeforeFault_of_isJson (depth : Nat) : ∀ {levels : Nat} (vs : List Value), JsonItems levels vs →
    itemsBeforeFault depth vs = none
  | _, [], _ => rfl
  | _, v :: vs, ⟨hv, hvs⟩ => by
    rw [itemsBeforeFault, beforeFaultAt_of_isJson depth v hv, itemsBeforeFault_of_isJson depth vs hvs]
    rfl

theorem membersBeforeFault_of_isJson (depth : Nat) : ∀ {levels : Nat} (es : List (Scalar × Value)),
    JsonMembers levels es → membersBeforeFault depth es = none
  | _, [], _ => rfl
  | _, (_, v) :: es, ⟨_, _, hv, hes⟩ => by
    rw [membersBeforeFault, beforeFaultAt_of_isJson depth v hv, membersBeforeFault_of_isJson depth es hes]
    rfl
end

/-- **What JSON can hold** is written to its end. -/
theorem jsonBeforeFault?_of_isJson {levels : Nat} {v : Value} (h : v.IsJson levels) : v.jsonBeforeFault? = none :=
  beforeFaultAt_of_isJson 0 v h

end EnvAudit

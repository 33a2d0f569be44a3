import EnvAudit.Json.Reader
import EnvAudit.Proofs.Text.Decimal
/-!
# What a JSON document holds

Of all values a document can hold scalars other than bytes and times, lists, and maps whose names are texts, none of
them twice; its integers have few enough digits to be read, and no more lists and maps are inside one another than the
reader has levels.  Whatever is read is such a value (`isJson_of_readJson`), whether names were repeated in the text or
not.
-/
namespace EnvAudit

variable {levels : Nat}

/-! ## Values -/

def ShortInt (n : Int) : Prop := (decimal n.natAbs).length ≤ maxDecimalDigits

instance (n : Int) : Decidable (ShortInt n) := inferInstanceAs (Decidable (_ ≤ _))

def Scalar.IsJson : Scalar → Prop
  | .null | .bool _ | .num _ | .text _ => True
  | .int n => ShortInt n
  | .bytes _ | .moment _ => False

def Scalar.IsText (s : Scalar) : Prop := ∃ t, s = .text t

mutual
/-- A value that JSON can hold on so many levels. -/
def Value.IsJson : Nat → Value → Prop
  | _, .scalar s => s.IsJson
  | 0, .list _ => False
  | levels + 1, .list vs => JsonItems levels vs
  | 0, .map _ => False
  | levels + 1, .map es => JsonMembers levels es
  | _, .members _ => False
  | _, .pair _ _ => False

def JsonItems : Nat → List Value → Prop
  | _, [] => True
  | levels, v :: vs => v.IsJson levels ∧ JsonItems levels vs

/-- No name stands for an entry further on. -/
def JsonMembers : Nat → List (Scalar × Value) → Prop
  | _, [] => True
  | levels, (k, v) :: es =>
    k.IsText ∧ (∀ e ∈ es, k.sameKey e.1 = false) ∧ v.IsJson levels ∧ JsonMembers levels es
end

theorem isJson_of_mem_jsonMembers : ∀ {es : Entries}, JsonMembers levels es → ∀ e ∈ es, e.2.IsJson levels
  | [], _, _, h => nomatch h
  | (_, _) :: _, ⟨_, _, hv, hes⟩, e, h => by
    rcases List.mem_cons.1 h with rfl | h
    · exact hv
    · exact isJson_of_mem_jsonMembers hes e h

/-! ## Shown values -/

theorem Scalar.shownFault?_of_isJson {s : Scalar} (h : s.IsJson) : s.shownFault? = none := by
  cases s with
  | int n => exact if_neg (Nat.not_lt.2 h)
  | _ => rfl

mutual
/-- **What JSON can hold** can be shown on as many levels. -/
theorem Value.shownFault?_of_isJson : ∀ {levels : Nat} (v : Value), v.IsJson levels → v.shownFault? levels = none
  | _, .scalar _, h => by
    rw [Value.shownFault?]
    exact Scalar.shownFault?_of_isJson (by rwa [Value.IsJson] at h)
  | _ + 1, .list vs, h => by
    rw [Value.shownFault?]
    exact itemsFault?_of_jsonItems vs h
  | _ + 1, .map es, h => by
    rw [Value.shownFault?]
    exact entriesFault?_of_jsonMembers es h

theorem itemsFault?_of_jsonItems : ∀ {levels : Nat} (vs : List Value), JsonItems levels vs →
    itemsFault? (levels + 1) vs = none
  | _, [], _ => by rw [itemsFault?]
  | _, v :: vs, ⟨hv, hvs⟩ => by
    rw [itemsFault?, v.shownFault?_of_isJson hv, itemsFault?_of_jsonItems vs hvs]
    rfl

theorem entriesFault?_of_jsonMembers : ∀ {levels : Nat} (es : Entries), JsonMembers levels es →
    entriesFault? (levels + 1) es = none
  | _, [], _ => by rw [entriesFault?]
  | _, (_, v) :: es, ⟨⟨_, rfl⟩, _, hv, hes⟩ => by
    rw [entriesFault?, v.shownFault?_of_isJson hv, entriesFault?_of_jsonMembers es hes]
    rfl
end

/-! ## Maps -/

theorem mem_put {k : Scalar} {v : Value} : ∀ {es : Entries} {e : Scalar × Value}, e ∈ Entries.put k v es →
    e.1 = k ∨ ∃ f ∈ es, f.1 = e.1
  | [], e, h => Or.inl (congrArg Prod.fst (List.mem_singleton.1 h))
  | f :: es, e, h => by
    rw [Entries.put] at h
    split at h
    · rcases List.mem_cons.1 h with rfl | h
      · exact Or.inr ⟨f, List.mem_cons_self, rfl⟩
      · exact Or.inr ⟨e, List.mem_cons_of_mem f h, rfl⟩
    · rcases List.mem_cons.1 h with rfl | h
      · exact Or.inr ⟨e, List.mem_cons_self, rfl⟩
      · obtain hk | ⟨g, hg, hge⟩ := mem_put h
        · exact Or.inl hk
        · exact Or.inr ⟨g, List.mem_cons_of_mem f hg, hge⟩

theorem JsonMembers.put {k : Scalar} {v : Value} (hk : k.IsText) (hv : v.IsJson levels) : ∀ {es : Entries},
    JsonMembers levels es → JsonMembers levels (Entries.put k v es)
  | [], _ => ⟨hk, (fun _ h => nomatch h), hv, trivial⟩
  | (l, u) :: es, ⟨hl, hnew, hu, hes⟩ => by
    rw [Entries.put]
    split
    · exact ⟨hl, hnew, hv, hes⟩
    · rename_i hother
      refine ⟨hl, fun e he => ?_, hu, hes.put hk hv⟩
      obtain hek | ⟨f, hf, hfe⟩ := mem_put he
      · rw [hek]
        exact Bool.eq_false_iff.2 hother
      · rw [← hfe]
        exact hnew f hf

theorem jsonMembers_ofPairs {es : List (Scalar × Value)} (h : ∀ e ∈ es, e.1.IsText ∧ e.2.IsJson levels) :
    JsonMembers levels (Entries.ofPairs es) := by
  have hfold : ∀ (es : List (Scalar × Value)) (m : Entries), (∀ e ∈ es, e.1.IsText ∧ e.2.IsJson levels) →
      JsonMembers levels m → JsonMembers levels (es.foldl (fun m e => Entries.put e.1 e.2 m) m) := by
    intro es
    induction es with
    | nil => exact fun _ _ hm => hm
    | cons e es ih =>
      intro m hes hm
      obtain ⟨hk, hv⟩ := hes e List.mem_cons_self
      exact ih _ (fun f hf => hes f (List.mem_cons_of_mem e hf)) (hm.put hk hv)
  exact hfold es [] h trivial

theorem put_of_new {k : Scalar} {v : Value} : ∀ {es : Entries}, (∀ e ∈ es, e.1.sameKey k = false) →
    Entries.put k v es = es ++ [(k, v)]
  | [], _ => rfl
  | e :: es, h => by
    rw [Entries.put, if_neg (by rw [h e List.mem_cons_self]; decide), put_of_new fun f hf =>
      h f (List.mem_cons_of_mem e hf), List.cons_append]

/-- Entries that repeat no name are taken as they are. -/
theorem ofPairs_of_jsonMembers {es : Entries} (h : JsonMembers levels es) : Entries.ofPairs es = es := by
  have hfold : ∀ (es m : Entries), JsonMembers levels es → (∀ e ∈ m, ∀ f ∈ es, e.1.sameKey f.1 = false) →
      es.foldl (fun m e => Entries.put e.1 e.2 m) m = m ++ es := by
    intro es
    induction es with
    | nil => exact fun m _ _ => (List.append_nil m).symm
    | cons e es ih =>
      rintro m ⟨-, hnew, -, hes⟩ hm
      rw [List.foldl_cons, put_of_new fun f hf => hm f hf e List.mem_cons_self, ih _ hes, List.append_assoc,
        List.singleton_append]
      intro f hf g hg
      rcases List.mem_append.1 hf with hf | hf
      · exact hm f hf g (List.mem_cons_of_mem e hg)
      · rw [List.mem_singleton.1 hf]
        exact hnew g hg
  exact hfold es [] h fun _ he => nomatch he

/-! ## Words -/

theorem shortInt_iff {n : Int} : ShortInt n ↔ n.natAbs < 10 ^ maxDecimalDigits := length_decimal_le (by decide)

theorem isAsciiDigit_of_jsonNumber? {w : Text} {n : JsonNumber} {rest : Text} (h : jsonNumber? w = some (n, rest)) :
    ∀ c ∈ n.whole, isAsciiDigit c = true := by
  unfold jsonNumber? at h
  dsimp only at h
  split at h
  · obtain ⟨rfl, -⟩ := Prod.mk.inj (Option.some.inj h)
    intro c hc
    rw [List.mem_singleton.1 hc]
    decide
  · split at h <;> split at h
    all_goals
      first
      | cases h; done
      | obtain ⟨rfl, -⟩ := Prod.mk.inj (Option.some.inj h)
        exact List.all_eq_true.1 List.all_takeWhile

theorem isJson_integer {n : JsonNumber} (hdigits : ∀ c ∈ n.whole, isAsciiDigit c = true)
    (hlength : n.whole.length ≤ maxDecimalDigits) : (Scalar.int n.integer).IsJson := by
  have hvalue : digitsValue n.whole < 10 ^ maxDecimalDigits :=
    Nat.lt_of_lt_of_le (digitsValue_lt hdigits) (Nat.pow_le_pow_right (by decide) hlength)
  refine shortInt_iff.2 ?_
  unfold JsonNumber.integer
  dsimp only
  split
  · rwa [Int.natAbs_neg]
  · exact hvalue

theorem exists_scalar_of_readJsonWord {w : Text} {v : Value} (h : readJsonWord w = .ok v) :
    ∃ s, v = .scalar s ∧ s.IsJson := by
  unfold readJsonWord at h
  iterate 6
    split at h
    · obtain rfl := Except.ok.inj h
      exact ⟨_, rfl, trivial⟩
  split at h
  · cases h
  rename_i n rest hnumber
  split at h
  · cases h
  rename_i hshort
  split at h
  · cases h
  split at h
  · rename_i hinteger
    obtain rfl := Except.ok.inj h
    rw [hinteger, Bool.true_and, decide_eq_true_eq] at hshort
    exact ⟨_, rfl, isJson_integer (isAsciiDigit_of_jsonNumber? hnumber) (Nat.le_of_not_lt hshort)⟩
  · obtain rfl := Except.ok.inj h
    exact ⟨_, rfl, trivial⟩

/-! ## Reading

One step for each of the three readers, and then all by induction on the fuel they share. -/

theorem exists_of_map_ok {α β ε : Type} {x : Except ε α} {f : α → β} {b : β} (h : x.map f = .ok b) :
    ∃ a, x = .ok a ∧ f a = b := by
  cases x with
  | error e => cases h
  | ok a => exact ⟨a, rfl, Except.ok.inj h⟩

theorem exists_of_bind_ok {α β ε : Type} {x : Except ε α} {f : α → Except ε β} {b : β} (h : x >>= f = .ok b) :
    ∃ a, x = .ok a ∧ f a = .ok b := by
  cases x with
  | error e => cases h
  | ok a => exact ⟨a, rfl, h⟩

variable {fuel : Nat}

theorem isJson_of_readJsonValue
    (hitems : ∀ levels ts vs rest, readJsonItems levels fuel ts = .ok (vs, rest) → JsonItems levels vs)
    (hmembers : ∀ levels ts es rest, readJsonMembers levels fuel ts = .ok (es, rest) →
      ∀ e ∈ es, e.1.IsText ∧ e.2.IsJson levels)
    {ts : List JsonToken} {v : Value} {rest : List JsonToken}
    (h : readJsonValue levels (fuel + 1) ts = .ok (v, rest)) : v.IsJson levels := by
  rcases ts with _ | ⟨t, ts⟩
  · rw [readJsonValue] at h
    cases h
  unfold readJsonValue at h
  dsimp only at h
  split at h
  · obtain ⟨rfl, -⟩ := Prod.mk.inj (Except.ok.inj h)
    trivial
  · split at h
    · cases h
    obtain ⟨v', hword, hsame⟩ := exists_of_map_ok h
    obtain ⟨rfl, -⟩ := Prod.mk.inj hsame
    obtain ⟨s, rfl, hs⟩ := exists_scalar_of_readJsonWord hword
    exact hs
  · cases h
  · split at h
    · obtain ⟨rfl, -⟩ := Prod.mk.inj (Except.ok.inj h)
      trivial
    · obtain ⟨⟨vs, after⟩, hread, hsame⟩ := exists_of_map_ok h
      obtain ⟨rfl, -⟩ := Prod.mk.inj hsame
      exact hitems _ _ vs after hread
  · cases h
  · split at h
    · obtain ⟨rfl, -⟩ := Prod.mk.inj (Except.ok.inj h)
      trivial
    · obtain ⟨⟨es, after⟩, hread, hsame⟩ := exists_of_map_ok h
      obtain ⟨rfl, -⟩ := Prod.mk.inj hsame
      exact jsonMembers_ofPairs (hmembers _ _ es after hread)
  · cases h

theorem jsonItems_of_readJsonItems
    (hvalue : ∀ levels ts v rest, readJsonValue levels fuel ts = .ok (v, rest) → v.IsJson levels)
    (hitems : ∀ levels ts vs rest, readJsonItems levels fuel ts = .ok (vs, rest) → JsonItems levels vs)
    {ts : List JsonToken} {vs : List Value} {rest : List JsonToken}
    (h : readJsonItems levels (fuel + 1) ts = .ok (vs, rest)) : JsonItems levels vs := by
  unfold readJsonItems at h
  obtain ⟨⟨v, after⟩, hread, h⟩ := exists_of_bind_ok h
  have hv := hvalue levels _ v after hread
  dsimp only at h
  split at h
  · obtain ⟨rfl, -⟩ := Prod.mk.inj (Except.ok.inj h)
    exact ⟨hv, trivial⟩
  · obtain ⟨⟨us, after'⟩, hread', h⟩ := exists_of_bind_ok h
    obtain ⟨rfl, -⟩ := Prod.mk.inj (Except.ok.inj h)
    exact ⟨hv, hitems levels _ us after' hread'⟩
  · cases h

theorem isJson_of_readJsonMembers
    (hvalue : ∀ levels ts v rest, readJsonValue levels fuel ts = .ok (v, rest) → v.IsJson levels)
    (hmembers : ∀ levels ts es rest, readJsonMembers levels fuel ts = .ok (es, rest) →
      ∀ e ∈ es, e.1.IsText ∧ e.2.IsJson levels)
    {ts : List JsonToken} {es : Entries} {rest : List JsonToken}
    (h : readJsonMembers levels (fuel + 1) ts = .ok (es, rest)) : ∀ e ∈ es, e.1.IsText ∧ e.2.IsJson levels := by
  unfold readJsonMembers at h
  split at h
  · rename_i k ts
    obtain ⟨⟨v, after⟩, hread, h⟩ := exists_of_bind_ok h
    have hv := hvalue levels _ v after hread
    dsimp only at h
    split at h
    · obtain ⟨rfl, -⟩ := Prod.mk.inj (Except.ok.inj h)
      intro e he
      rw [List.mem_singleton.1 he]
      exact ⟨⟨k, rfl⟩, hv⟩
    · obtain ⟨⟨us, after'⟩, hread', h⟩ := exists_of_bind_ok h
      obtain ⟨rfl, -⟩ := Prod.mk.inj (Except.ok.inj h)
      intro e he
      rcases List.mem_cons.1 he with rfl | he
      · exact ⟨⟨k, rfl⟩, hv⟩
      · exact hmembers levels _ us after' hread' e he
    · cases h
  · cases h

theorem isJson_readers : ∀ fuel : Nat,
    (∀ levels ts v rest, readJsonValue levels fuel ts = .ok (v, rest) → v.IsJson levels) ∧
      (∀ levels ts vs rest, readJsonItems levels fuel ts = .ok (vs, rest) → JsonItems levels vs) ∧
      (∀ levels ts es rest, readJsonMembers levels fuel ts = .ok (es, rest) →
        ∀ e ∈ es, e.1.IsText ∧ e.2.IsJson levels)
  | 0 => by
    refine ⟨fun levels ts v rest h => ?_, fun levels ts vs rest h => ?_, fun levels ts es rest h => ?_⟩
    · rw [readJsonValue] at h; cases h
    · rw [readJsonItems] at h; cases h
    · rw [readJsonMembers] at h; cases h
  | fuel + 1 => by
    obtain ⟨hvalue, hitems, hmembers⟩ := isJson_readers fuel
    exact ⟨fun _ _ _ _ => isJson_of_readJsonValue hitems hmembers,
      fun _ _ _ _ => jsonItems_of_readJsonItems hvalue hitems,
      fun _ _ _ _ => isJson_of_readJsonMembers hvalue hmembers⟩

/-- **Whatever is read** is a value that JSON can hold, on no more levels than the reader has. -/
theorem isJson_of_readJson {t : Text} {v : Value} (h : readJson levels t = .ok v) : v.IsJson levels := by
  unfold readJson at h
  obtain ⟨⟨u, rest⟩, hread, h⟩ := exists_of_bind_ok h
  dsimp only at h
  split at h
  · obtain rfl := Except.ok.inj h
    exact (isJson_readers _).1 _ _ u rest hread
  · cases h

end EnvAudit

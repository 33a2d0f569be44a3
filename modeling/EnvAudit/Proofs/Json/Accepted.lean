import EnvAudit.Proofs.Json.Reading
import Mathlib.Data.List.TakeWhile
/-!
# What the JSON reader accepts

Every phrase of the grammar is cut into tokens that its reader takes, up to whatever stands behind them, unless an
integer in it is too long or it goes too deep (`exists_tokens`).  Nothing else is read as a value (`documentReads`), so
the reader accepts the documents and no other text (`exists_readJson_iff`), and reads a map where there is an object
(`exists_readJson_map_iff`).  A text that begins with more brackets than there are levels goes too deep, whatever it is
(`readJson_of_brackets`).
-/
namespace EnvAudit

/-! ## Words -/

theorem isEmpty_of_isDigits {ds : Text} (h : IsDigits ds) : ds.isEmpty = false :=
  Bool.eq_false_iff.2 fun hempty => h.1 (List.isEmpty_iff.1 hempty)

theorem exists_digit_of_isDigits {ds : Text} (h : IsDigits ds) : ∃ d more, ds = d :: more ∧ isAsciiDigit d = true := by
  obtain ⟨d, more, rfl⟩ := List.exists_cons_of_ne_nil h.1
  exact ⟨d, more, rfl, h.2 d List.mem_cons_self⟩

theorem head_of_isExponent {t : Text} (h : IsExponent t) : ∀ c ∈ t.head?, isAsciiDigit c = false ∧ c ≠ '.' := by
  rcases h with rfl | ⟨e, sign, ds, rfl, rfl | rfl, -, -⟩
  · exact fun _ h => nomatch h
  all_goals
    intro c hc
    obtain rfl := Option.some.inj hc
    decide

theorem head_of_isFraction {f t : Text} (hf : IsFraction f) (ht : IsExponent t) :
    ∀ c ∈ (f ++ t).head?, isAsciiDigit c = false := by
  rcases hf with rfl | ⟨ds, rfl, -⟩
  · exact fun c hc => (head_of_isExponent ht c hc).1
  · intro c hc
    obtain rfl := Option.some.inj hc
    decide

theorem jsonExponent_of_isExponent {t : Text} (h : IsExponent t) : (jsonExponent t).2 = [] := by
  rcases h with rfl | ⟨e, sign, ds, rfl, he, hsign, hds⟩
  · rfl
  · have htake := List.takeWhile_eq_self_iff.2 hds.2
    have hdrop := List.dropWhile_eq_nil_iff.2 hds.2
    have hletter : (e = 'e' || e = 'E') = true := by rcases he with rfl | rfl <;> rfl
    obtain ⟨d, more, rfl, hd⟩ := exists_digit_of_isDigits hds
    have hminus : d ≠ '-' := by rintro rfl; exact absurd hd (by decide)
    have hplus : d ≠ '+' := by rintro rfl; exact absurd hd (by decide)
    unfold jsonExponent
    dsimp only [List.cons_append]
    rw [if_pos hletter]
    rcases hsign with rfl | rfl | rfl
    all_goals simp [htake, hdrop, hminus, hplus]

theorem jsonFraction_of_isFraction {f t : Text} (hf : IsFraction f) (ht : IsExponent t) :
    (jsonFraction (f ++ t)).2 = t := by
  rcases hf with rfl | ⟨ds, rfl, hds⟩
  · rw [List.nil_append]
    unfold jsonFraction
    split
    · exact absurd rfl (head_of_isExponent ht _ rfl).2
    · rfl
  · obtain ⟨htake, hdrop⟩ := takeWhile_run hds.2 fun c hc => (head_of_isExponent ht c hc).1
    change (if ((ds ++ t).takeWhile isAsciiDigit).isEmpty = true then _ else
      (some ((ds ++ t).takeWhile isAsciiDigit), (ds ++ t).dropWhile isAsciiDigit)).2 = t
    rw [htake, hdrop, isEmpty_of_isDigits hds]
    rfl

theorem wholePart_append {whole after : Text} (h : whole = ['0'] ∨ IsDigits whole ∧ whole.head? ≠ some '0')
    (hafter : ∀ c ∈ after.head?, isAsciiDigit c = false) : wholePart (whole ++ after) = whole := by
  rcases h with rfl | ⟨hdigits, hzero⟩
  · rfl
  · obtain ⟨d, more, rfl, -⟩ := exists_digit_of_isDigits hdigits
    unfold wholePart
    split
    · rename_i hsame
      exact absurd (congrArg some (List.cons.inj hsame).1) hzero
    · exact (takeWhile_run hdigits.2 hafter).1

theorem exists_unsignedNumber? (negative : Bool) {t : Text} (h : IsUnsigned t) :
    ∃ n, unsignedNumber? negative t = some (n, []) := by
  obtain ⟨whole, fraction, exponent, rfl, hwhole, hfraction, hexponent⟩ := h
  rw [List.append_assoc]
  have hpart := wholePart_append hwhole (head_of_isFraction hfraction hexponent)
  have hne : whole.isEmpty = false := by
    rcases hwhole with rfl | ⟨hdigits, -⟩
    · rfl
    · exact isEmpty_of_isDigits hdigits
  unfold unsignedNumber?
  rw [hpart, hne, List.drop_left]
  refine ⟨_, congrArg some (Prod.ext rfl ?_)⟩
  change (jsonExponent (jsonFraction (fraction ++ exponent)).2).2 = []
  rw [jsonFraction_of_isFraction hfraction hexponent]
  exact jsonExponent_of_isExponent hexponent

theorem exists_digit_of_isUnsigned {t : Text} (h : IsUnsigned t) : ∃ d more, t = d :: more ∧ isAsciiDigit d = true := by
  obtain ⟨whole, fraction, exponent, rfl, hwhole, -, -⟩ := h
  rcases hwhole with rfl | ⟨hdigits, -⟩
  · exact ⟨'0', _, rfl, rfl⟩
  · obtain ⟨d, more, rfl, hd⟩ := exists_digit_of_isDigits hdigits
    exact ⟨d, _, rfl, hd⟩

theorem isJsonWordChar_of_digits {ds : Text} (h : ∀ c ∈ ds, isAsciiDigit c = true) :
    ∀ c ∈ ds, isJsonWordChar c = true := by
  intro c hc
  simp [isJsonWordChar, h c hc]

theorem isJsonWordChar_of_isUnsigned {t : Text} (h : IsUnsigned t) : ∀ c ∈ t, isJsonWordChar c = true := by
  obtain ⟨whole, fraction, exponent, rfl, hwhole, hfraction, hexponent⟩ := h
  rw [List.forall_mem_append, List.forall_mem_append]
  refine ⟨⟨?_, ?_⟩, ?_⟩
  · rcases hwhole with rfl | ⟨hdigits, -⟩
    · exact isJsonWordChar_of_digits (List.all_eq_true.1 rfl)
    · exact isJsonWordChar_of_digits hdigits.2
  · rcases hfraction with rfl | ⟨ds, rfl, hds⟩
    · exact fun _ h => nomatch h
    · exact List.forall_mem_cons.2 ⟨by decide, isJsonWordChar_of_digits hds.2⟩
  · rcases hexponent with rfl | ⟨e, sign, ds, rfl, he, hsign, hds⟩
    · exact fun _ h => nomatch h
    · have hletter : isJsonWordChar e = true := by rcases he with rfl | rfl <;> decide
      have hsigned : sign.all isJsonWordChar = true := by rcases hsign with rfl | rfl | rfl <;> decide
      exact List.forall_mem_cons.2 ⟨hletter, List.forall_mem_append.2
        ⟨List.all_eq_true.1 hsigned, isJsonWordChar_of_digits hds.2⟩⟩

theorem isJsonWordChar_of_isJsonWord {w : Text} (h : IsJsonWord w) : ∀ c ∈ w, isJsonWordChar c = true := by
  rcases h with h | h | ⟨t, rfl, h⟩
  · have hall : (jsonLiterals.all fun w => w.all isJsonWordChar) = true := by decide
    exact List.all_eq_true.1 (List.all_eq_true.1 hall w h)
  · exact isJsonWordChar_of_isUnsigned h
  · exact List.forall_mem_cons.2 ⟨by decide, isJsonWordChar_of_isUnsigned h⟩

theorem ne_nil_of_isJsonWord {w : Text} (h : IsJsonWord w) : w ≠ [] := by
  rcases h with h | h | ⟨t, rfl, -⟩
  · rintro rfl
    exact absurd h (by decide)
  · obtain ⟨d, more, rfl, -⟩ := exists_digit_of_isUnsigned h
    exact List.cons_ne_nil d more
  · exact List.cons_ne_nil _ t

/-- A word of the grammar is read, or stands for an integer that is too long. -/
theorem exists_readJsonWord {w : Text} (h : IsJsonWord w) :
    (∃ v, readJsonWord w = .ok v) ∨ readJsonWord w = .error .integerTooLong := by
  have hreads : ∀ {n : JsonNumber}, w ∉ jsonLiterals → jsonNumber? w = some (n, []) →
      (∃ v, readJsonWord w = .ok v) ∨ readJsonWord w = .error .integerTooLong := by
    intro n hliteral hn
    rw [readJsonWord_of_not_mem hliteral, hn, Option.elim_some]
    split
    · exact .inr rfl
    · dsimp only
      rw [if_neg (by decide)]
      split <;> exact .inl ⟨_, rfl⟩
  by_cases hliteral : w ∈ jsonLiterals
  · obtain ⟨s, hs⟩ := exists_scalar_of_literal hliteral
    exact .inl ⟨_, hs⟩
  rcases h with h | h | ⟨t, rfl, h⟩
  · exact absurd h hliteral
  · obtain ⟨d, more, rfl, hd⟩ := exists_digit_of_isUnsigned h
    obtain ⟨n, hn⟩ := exists_unsignedNumber? false h
    have hminus : (d :: more).head? ≠ some '-' := by
      rintro ⟨⟩
      exact absurd hd (by decide)
    exact hreads hliteral ((jsonNumber?_of_head_ne hminus).trans hn)
  · obtain ⟨n, hn⟩ := exists_unsignedNumber? true h
    exact hreads hliteral hn

/-! ## Strings -/

theorem exists_value_of_isJsonHexDigit {c : Char} (h : isJsonHexDigit c = true) :
    ∃ n, (if c.toNat < 128 then digitInBase? 16 c else none) = some n := by
  have hsmall := (bounds_of_isJsonHexDigit h).2
  rw [if_pos hsmall]
  exact Option.isSome_iff_exists.1 ((isSome_digitInBase?_sixteen hsmall).trans h)

theorem exists_fourHex? {a b c d : Char} (h : ∀ x ∈ [a, b, c, d], isJsonHexDigit x = true) :
    ∃ n, fourHex? a b c d = some n := by
  obtain ⟨va, ha⟩ := exists_value_of_isJsonHexDigit (h a (by simp))
  obtain ⟨vb, hb⟩ := exists_value_of_isJsonHexDigit (h b (by simp))
  obtain ⟨vc, hc⟩ := exists_value_of_isJsonHexDigit (h c (by simp))
  obtain ⟨vd, hd⟩ := exists_value_of_isJsonHexDigit (h d (by simp))
  unfold fourHex?
  dsimp only
  rw [ha, hb, hc, hd]
  exact ⟨_, rfl⟩

theorem jsonUnits_of_isStringBody {body : Text} (h : IsStringBody body) :
    ∃ us, ∀ rest, jsonUnits (body ++ '"' :: rest) = some (us, rest) := by
  induction h with
  | nil => exact ⟨[], fun _ => rfl⟩
  | @plain c t hcontrol hquote hslash _ ih =>
    obtain ⟨us, hus⟩ := ih
    refine ⟨.plain c :: us, fun rest => ?_⟩
    rw [List.cons_append, jsonUnits, if_neg (by simp [hslash]; omega), hus rest]
    · rfl
    all_goals simp [hquote, hslash]
  | @escape c t hc _ ih =>
    obtain ⟨us, hus⟩ := ih
    have hall : ("\"\\/bfnrt".toList.all fun c => c != 'u' && (jsonEscape? c).isSome) = true := by decide
    obtain ⟨hu, he⟩ := Bool.and_eq_true_iff.1 (List.all_eq_true.1 hall c hc)
    obtain ⟨e, he⟩ := Option.isSome_iff_exists.1 he
    refine ⟨.plain e :: us, fun rest => ?_⟩
    rw [List.cons_append, List.cons_append, jsonUnits, he, hus rest]
    · rfl
    · exact fun _ _ _ _ _ hsame => absurd hsame (bne_iff_ne.1 hu)
  | @unit ds t hlength hds _ ih =>
    obtain ⟨us, hus⟩ := ih
    obtain ⟨a, b, c, d, rfl⟩ := List.length_eq_four.1 hlength
    obtain ⟨n, hn⟩ := exists_fourHex? hds
    refine ⟨.unit n :: us, fun rest => ?_⟩
    simp only [List.cons_append, List.nil_append]
    rw [jsonUnits, hn, hus rest]
    rfl

/-! ## Tokens -/

theorem fileTokens_space {c : Char} (hc : isJsonSpace c = true) (t : Text) : fileTokens (c :: t) = fileTokens t := by
  unfold fileTokens
  by_cases hreturn : c = '\r'
  · subst hreturn
    obtain ⟨rest, rfl | rfl, hunified⟩ := exists_unifyNewlines_return t
    · rw [hunified, jsonTokens_space (by decide)]
    · rw [hunified, jsonTokens_space (by decide), unifyNewlines_cons (by decide), jsonTokens_space (by decide)]
  · rw [unifyNewlines_cons hreturn, jsonTokens_space hc]

theorem fileTokens_blank (rest : Text) : ∀ {b : Text}, IsJsonBlank b → fileTokens (b ++ rest) = fileTokens rest
  | [], _ => rfl
  | c :: b, h => by
    obtain ⟨hc, hb⟩ := List.forall_mem_cons.1 h
    rw [List.cons_append, fileTokens_space hc, fileTokens_blank rest hb]

theorem fileTokens_mark {c : Char} (hc : isJsonMark c = true) (t : Text) :
    fileTokens (c :: t) = .mark c :: fileTokens t := by
  unfold fileTokens
  rw [unifyNewlines_cons (ne_return_of_isJsonMark hc).symm, jsonTokens_mark hc]

theorem Breaks.unifyNewlines {t : Text} (h : Breaks t) : Breaks (unifyNewlines t) := by
  cases t with
  | nil => exact breaks_nil
  | cons c t =>
    by_cases hreturn : c = '\r'
    · subst hreturn
      obtain ⟨rest, -, hunified⟩ := exists_unifyNewlines_return t
      rw [hunified]
      exact breaks_cons (by decide) _
    · rw [unifyNewlines_cons hreturn]
      exact breaks_cons (h c rfl) _

/-- How a phrase is cut, in front of anything that does not go on with its last word. -/
def CutInto (p : Text) (ts : List JsonToken) : Prop :=
  ∀ rest, Breaks rest → fileTokens (p ++ rest) = ts ++ fileTokens rest

theorem cutInto_blank {b : Text} (h : IsJsonBlank b) : CutInto b [] := fun rest _ => fileTokens_blank rest h

theorem cutInto_word {w : Text} (h : IsJsonWord w) : CutInto w [.word w] := by
  intro rest hrest
  have hall := isJsonWordChar_of_isJsonWord h
  have hreturn : '\r' ∉ w := fun hmem => absurd (hall _ hmem) (by decide)
  obtain ⟨c, cs, rfl⟩ := List.exists_cons_of_ne_nil (ne_nil_of_isJsonWord h)
  unfold fileTokens
  rw [unifyNewlines_append_of_not_mem hreturn]
  exact jsonTokens_word hall hrest.unifyNewlines

theorem exists_cutInto_string {body : Text} (h : IsStringBody body) :
    ∃ s, CutInto ('"' :: body ++ ['"']) [.text s] := by
  obtain ⟨us, hus⟩ := jsonUnits_of_isStringBody h
  refine ⟨textOfUnits us, fun rest _ => ?_⟩
  have hnone : '\r' ∉ body := fun hmem => absurd (printable_of_isStringBody h _ hmem) (by decide)
  have hreturn : '\r' ∉ '"' :: body ++ ['"'] := by simp [hnone]
  unfold fileTokens
  rw [unifyNewlines_append_of_not_mem hreturn, List.append_assoc, List.cons_append]
  exact jsonTokens_text (hus _)

theorem breaks_mark {c : Char} (hc : isJsonMark c = true) (rest : Text) : Breaks (c :: rest) := by
  refine breaks_cons (Bool.eq_false_iff.2 fun hword => ?_) rest
  rw [(plain_of_isJsonWordChar hword).2.1] at hc
  cases hc

theorem breaks_blank {b rest : Text} (hb : IsJsonBlank b) (hrest : Breaks rest) : Breaks (b ++ rest) := by
  cases b with
  | nil => exact hrest
  | cons c b =>
    refine breaks_cons (Bool.eq_false_iff.2 fun hword => ?_) _
    have hc := hb c List.mem_cons_self
    rw [(plain_of_isJsonWordChar hword).1] at hc
    cases hc

theorem CutInto.padded {b p b' : Text} {ts : List JsonToken} (hb : IsJsonBlank b) (h : CutInto p ts)
    (hb' : IsJsonBlank b') : CutInto (b ++ p ++ b') ts := by
  intro rest hrest
  rw [List.append_assoc, List.append_assoc, fileTokens_blank _ hb, h _ (breaks_blank hb' hrest), fileTokens_blank _ hb']

/-- A mark ends a word. -/
theorem CutInto.mark {p q : Text} {ts us : List JsonToken} (hp : CutInto p ts) {c : Char} (hc : isJsonMark c = true)
    (hq : CutInto q us) : CutInto (p ++ c :: q) (ts ++ .mark c :: us) := by
  intro rest hrest
  rw [List.append_assoc, List.cons_append, hp _ (breaks_mark hc _), fileTokens_mark hc, hq _ hrest, List.append_assoc,
    List.cons_append]

theorem exists_cutInto_name {k : Text} (h : IsJsonName k) : ∃ s, CutInto k [.text s] := by
  obtain ⟨b, body, b', rfl, hb, hbody, hb'⟩ := h
  obtain ⟨s, hs⟩ := exists_cutInto_string hbody
  have hcut := hs.padded hb hb'
  refine ⟨s, ?_⟩
  simpa using hcut

/-! ## Phrases

A value takes at most two calls of the readers for each of its tokens. -/

/-- How a reader ends that takes what stands before the rest: it does, or an integer is too long, or it goes too
deep. -/
inductive Accepts {α : Type} (rest : List JsonToken) : Except JsonFault (α × List JsonToken) → Prop
  | taken (a : α) : Accepts rest (.ok (a, rest))
  | tooLong : Accepts rest (.error .integerTooLong)
  | tooDeep : Accepts rest (.error .tooDeep)

section

variable {α β : Type} {rest rest' : List JsonToken} {x : Except JsonFault (α × List JsonToken)}

theorem Accepts.bind (h : Accepts rest x) {f : α × List JsonToken → Except JsonFault (β × List JsonToken)}
    (hf : ∀ a, Accepts rest' (f (a, rest))) : Accepts rest' (x >>= f) := by
  cases h with
  | taken a => exact hf a
  | tooLong => exact .tooLong
  | tooDeep => exact .tooDeep

theorem Accepts.map (h : Accepts rest x) (g : α → β) : Accepts rest (x.map fun p => (g p.1, p.2)) := by
  cases h with
  | taken a => exact .taken (g a)
  | tooLong => exact .tooLong
  | tooDeep => exact .tooDeep

end

/-- No phrase begins with a closing mark. -/
def Opens (ts : List JsonToken) : Prop := ∃ t us, ts = t :: us ∧ t ≠ .mark ']' ∧ t ≠ .mark '\x7d'

/-- The reader of a sort takes some tokens, if it has enough fuel for them. -/
def Understood : JsonSort → List JsonToken → Prop
  | .value, ts | .padded, ts =>
    ∀ levels fuel rest, 2 * ts.length ≤ fuel + 1 → Accepts rest (readJsonValue levels fuel (ts ++ rest))
  | .items, ts =>
    ∀ levels fuel rest, 2 * ts.length ≤ fuel → Accepts rest (readJsonItems levels fuel (ts ++ .mark ']' :: rest))
  | .members, ts =>
    ∀ levels fuel rest, 2 * ts.length ≤ fuel → Accepts rest (readJsonMembers levels fuel (ts ++ .mark '\x7d' :: rest))

theorem Opens.length_pos {ts : List JsonToken} (h : Opens ts) : 0 < ts.length := by
  obtain ⟨t, us, rfl, -, -⟩ := h
  exact Nat.succ_pos _

theorem Opens.append {ts : List JsonToken} (h : Opens ts) (us : List JsonToken) : Opens (ts ++ us) := by
  obtain ⟨t, more, rfl, hlist, hmap⟩ := h
  exact ⟨t, more ++ us, rfl, hlist, hmap⟩

theorem understood_string (s : Text) : Understood .value [.text s] := by
  intro levels fuel rest hfuel
  obtain ⟨n, rfl⟩ : ∃ n, fuel = n + 1 := ⟨fuel - 1, by simp at hfuel; omega⟩
  exact .taken _

theorem understood_word {w : Text} (h : IsJsonWord w) : Understood .value [.word w] := by
  intro levels fuel rest hfuel
  obtain ⟨n, rfl⟩ : ∃ n, fuel = n + 1 := ⟨fuel - 1, by simp at hfuel; omega⟩
  change Accepts rest (readJsonValue levels (n + 1) (.word w :: rest))
  rw [readJsonValue]
  split
  · exact .tooDeep
  rcases exists_readJsonWord h with ⟨v, hv⟩ | hlong
  · rw [hv]
    exact .taken v
  · rw [hlong]
    exact .tooLong

theorem understood_emptyList : Understood .value [.mark '[', .mark ']'] := by
  intro levels fuel rest hfuel
  obtain ⟨n, rfl⟩ : ∃ n, fuel = n + 1 := ⟨fuel - 1, by simp at hfuel; omega⟩
  cases levels with
  | zero => exact .tooDeep
  | succ inner => exact .taken _

theorem understood_emptyMap : Understood .value [.mark '\x7b', .mark '\x7d'] := by
  intro levels fuel rest hfuel
  obtain ⟨n, rfl⟩ : ∃ n, fuel = n + 1 := ⟨fuel - 1, by simp at hfuel; omega⟩
  cases levels with
  | zero => exact .tooDeep
  | succ inner => exact .taken _

variable {ts us : List JsonToken}

theorem understood_list (hopens : Opens ts) (h : Understood .items ts) :
    Understood .value (.mark '[' :: ts ++ [.mark ']']) := by
  intro levels fuel rest hfuel
  simp only [List.length_append, List.length_cons, List.length_nil] at hfuel
  obtain ⟨n, rfl⟩ : ∃ n, fuel = n + 1 := ⟨fuel - 1, by omega⟩
  cases levels with
  | zero => exact .tooDeep
  | succ inner =>
    have hitems := h inner n rest (by omega)
    obtain ⟨t, us, rfl, hfirst, -⟩ := hopens
    simp only [List.cons_append, List.append_assoc, List.nil_append] at hitems ⊢
    rw [readJsonValue]
    · exact hitems.map Value.list
    · exact fun _ hsame => hfirst (List.cons.inj hsame).1

theorem understood_map (hopens : Opens ts) (h : Understood .members ts) :
    Understood .value (.mark '\x7b' :: ts ++ [.mark '\x7d']) := by
  intro levels fuel rest hfuel
  simp only [List.length_append, List.length_cons, List.length_nil] at hfuel
  obtain ⟨n, rfl⟩ : ∃ n, fuel = n + 1 := ⟨fuel - 1, by omega⟩
  cases levels with
  | zero => exact .tooDeep
  | succ inner =>
    have hmembers := h inner n rest (by omega)
    obtain ⟨t, us, rfl, -, hfirst⟩ := hopens
    simp only [List.cons_append, List.append_assoc, List.nil_append] at hmembers ⊢
    rw [readJsonValue]
    · exact hmembers.map fun es => Value.map (Entries.ofPairs es)
    · exact fun _ hsame => hfirst (List.cons.inj hsame).1

theorem understood_lastItem (hopens : Opens ts) (h : Understood .value ts) : Understood .items ts := by
  intro levels fuel rest hfuel
  have hsome := hopens.length_pos
  obtain ⟨n, rfl⟩ : ∃ n, fuel = n + 1 := ⟨fuel - 1, by omega⟩
  rw [readJsonItems]
  exact (h levels n (.mark ']' :: rest) (by omega)).bind fun v => .taken [v]

theorem understood_item (h : Understood .value ts) (hs : Understood .items us) :
    Understood .items (ts ++ .mark ',' :: us) := by
  intro levels fuel rest hfuel
  simp only [List.length_append, List.length_cons] at hfuel
  obtain ⟨n, rfl⟩ : ∃ n, fuel = n + 1 := ⟨fuel - 1, by omega⟩
  rw [List.append_assoc, List.cons_append, readJsonItems]
  exact (h levels n (.mark ',' :: (us ++ .mark ']' :: rest)) (by omega)).bind fun v =>
    (hs levels n rest (by omega)).bind fun vs => .taken (v :: vs)

theorem understood_lastMember (k : Text) (h : Understood .value ts) :
    Understood .members (.text k :: .mark ':' :: ts) := by
  intro levels fuel rest hfuel
  simp only [List.length_cons] at hfuel
  obtain ⟨n, rfl⟩ : ∃ n, fuel = n + 1 := ⟨fuel - 1, by omega⟩
  rw [List.cons_append, List.cons_append, readJsonMembers]
  exact (h levels n (.mark '\x7d' :: rest) (by omega)).bind fun v => .taken [(Scalar.text k, v)]

theorem understood_member (k : Text) (h : Understood .value ts) (hs : Understood .members us) :
    Understood .members (.text k :: .mark ':' :: ts ++ .mark ',' :: us) := by
  intro levels fuel rest hfuel
  simp only [List.length_append, List.length_cons] at hfuel
  obtain ⟨n, rfl⟩ : ∃ n, fuel = n + 1 := ⟨fuel - 1, by omega⟩
  rw [List.append_assoc, List.cons_append, List.cons_append, List.cons_append, readJsonMembers]
  exact (h levels n (.mark ',' :: (us ++ .mark '\x7d' :: rest)) (by omega)).bind fun v =>
    (hs levels n rest (by omega)).bind fun es => .taken ((Scalar.text k, v) :: es)

/-- **Every phrase is taken whole** by the reader of its sort, whatever stands behind it. -/
theorem exists_tokens {sort : JsonSort} {p : Text} (h : JsonPhrase sort p) :
    ∃ ts, CutInto p ts ∧ Opens ts ∧ Understood sort ts := by
  have hempty : IsJsonBlank [] := fun _ h => nomatch h
  have hnothing := cutInto_blank hempty
  induction h with
  | string hbody =>
    obtain ⟨s, hs⟩ := exists_cutInto_string hbody
    exact ⟨_, hs, ⟨_, _, rfl, by simp, by simp⟩, understood_string s⟩
  | word hw => exact ⟨_, cutInto_word hw, ⟨_, _, rfl, by simp, by simp⟩, understood_word hw⟩
  | emptyList hb =>
    have hcut := hnothing.mark (c := '[') (by decide) ((cutInto_blank hb).mark (c := ']') (by decide) hnothing)
    exact ⟨_, hcut, ⟨_, _, rfl, by decide, by decide⟩, understood_emptyList⟩
  | list _ ih =>
    obtain ⟨ts, hts, hopens, htaken⟩ := ih
    have hcut := hnothing.mark (c := '[') (by decide) (hts.mark (c := ']') (by decide) hnothing)
    exact ⟨_, hcut, ⟨_, _, rfl, by decide, by decide⟩, understood_list hopens htaken⟩
  | emptyMap hb =>
    have hcut := hnothing.mark (c := '\x7b') (by decide) ((cutInto_blank hb).mark (c := '\x7d') (by decide) hnothing)
    exact ⟨_, hcut, ⟨_, _, rfl, by decide, by decide⟩, understood_emptyMap⟩
  | map _ ih =>
    obtain ⟨ts, hts, hopens, htaken⟩ := ih
    have hcut := hnothing.mark (c := '\x7b') (by decide) (hts.mark (c := '\x7d') (by decide) hnothing)
    exact ⟨_, hcut, ⟨_, _, rfl, by decide, by decide⟩, understood_map hopens htaken⟩
  | padded hb _ hb' ih =>
    obtain ⟨ts, hts, hopens, htaken⟩ := ih
    exact ⟨ts, hts.padded hb hb', hopens, htaken⟩
  | lastItem _ ih =>
    obtain ⟨ts, hts, hopens, htaken⟩ := ih
    exact ⟨ts, hts, hopens, understood_lastItem hopens htaken⟩
  | item _ _ ih ihs =>
    obtain ⟨ts, hts, hopens, htaken⟩ := ih
    obtain ⟨us, hus, -, hmore⟩ := ihs
    exact ⟨_, hts.mark (by decide) hus, hopens.append _, understood_item htaken hmore⟩
  | lastMember hk _ ih =>
    obtain ⟨k, hk⟩ := exists_cutInto_name hk
    obtain ⟨ts, hts, -, htaken⟩ := ih
    exact ⟨_, hk.mark (by decide) hts, ⟨_, _, rfl, by simp, by simp⟩, understood_lastMember k htaken⟩
  | member hk _ _ ih ihs =>
    obtain ⟨k, hk⟩ := exists_cutInto_name hk
    obtain ⟨ts, hts, -, htaken⟩ := ih
    obtain ⟨us, hus, -, hmore⟩ := ihs
    exact ⟨_, (hk.mark (by decide) hts).mark (by decide) hus, ⟨_, _, rfl, by simp, by simp⟩,
      understood_member k htaken hmore⟩

/-! ## Documents -/

theorem exists_readJson (levels : Nat) {t : Text} (h : JsonPhrase .padded t) :
    (∃ v, readJson levels (unifyNewlines t) = .ok v) ∨
      readJson levels (unifyNewlines t) = .error .integerTooLong ∨
      readJson levels (unifyNewlines t) = .error .tooDeep := by
  obtain ⟨ts, hts, -, htaken⟩ := exists_tokens h
  have htokens : jsonTokens (unifyNewlines t) = ts := by
    have hall := hts [] breaks_nil
    rwa [List.append_nil, show fileTokens [] = [] from rfl, List.append_nil] at hall
  have haccepts := htaken levels (2 * ts.length + 1) [] (by omega)
  rw [List.append_nil] at haccepts
  unfold readJson
  rw [htokens]
  dsimp only
  generalize readJsonValue levels (2 * ts.length + 1) ts = result at haccepts
  cases haccepts with
  | taken v => exact .inl ⟨v, rfl⟩
  | tooLong => exact .inr (.inl rfl)
  | tooDeep => exact .inr (.inr rfl)

/-- **The reader accepts the documents**, and no other text, as long as it meets no integer that is too long and does
not go too deep. -/
theorem exists_readJson_iff {levels : Nat} {t : Text} (hlong : readJson levels (unifyNewlines t) ≠ .error .integerTooLong)
    (hdeep : readJson levels (unifyNewlines t) ≠ .error .tooDeep) :
    (∃ v, readJson levels (unifyNewlines t) = .ok v) ↔ JsonPhrase .padded t := by
  constructor
  · rintro ⟨v, hv⟩
    have hreads := documentReads levels t
    rw [hv] at hreads
    cases hreads with
    | document hdocument => exact hdocument
  · exact fun hdocument => (exists_readJson levels hdocument).resolve_right (not_or.2 ⟨hlong, hdeep⟩)

theorem exists_map_of_readJsonValue {levels fuel : Nat} {ts rest : List JsonToken} {v : Value}
    (h : readJsonValue levels fuel (.mark '\x7b' :: ts) = .ok (v, rest)) : ∃ es, v = .map es := by
  cases fuel with
  | zero => cases h
  | succ fuel =>
    unfold readJsonValue at h
    dsimp only at h
    split at h
    · rename_i hfirst
      cases hfirst
    · rename_i hfirst
      cases hfirst
    · rename_i hfirst
      exact absurd hfirst (by decide)
    · rename_i hfirst
      exact absurd hfirst (by decide)
    · cases h
    · split at h
      · cases h
        exact ⟨_, rfl⟩
      · obtain ⟨⟨es, after⟩, -, hsame⟩ := exists_of_map_ok h
        obtain ⟨rfl, -⟩ := Prod.mk.inj hsame
        exact ⟨_, rfl⟩
    · cases h

theorem exists_map_of_isJsonObject {levels : Nat} {t : Text} (hobject : IsJsonObject t) {v : Value}
    (h : readJson levels (unifyNewlines t) = .ok v) : ∃ es, v = .map es := by
  obtain ⟨b, m, b', rfl, hb, -, -⟩ := hobject
  have htokens : fileTokens (b ++ '\x7b' :: m ++ b') = .mark '\x7b' :: fileTokens (m ++ b') := by
    rw [List.append_assoc, fileTokens_blank _ hb, List.cons_append, fileTokens_mark (by decide)]
  unfold readJson at h
  change jsonTokens _ = _ at htokens
  rw [htokens] at h
  dsimp only at h
  obtain ⟨⟨u, rest⟩, hread, h⟩ := exists_of_bind_ok h
  obtain ⟨es, rfl⟩ := exists_map_of_readJsonValue hread
  dsimp only at h
  split at h
  · cases h
    exact ⟨es, rfl⟩
  · cases h

/-- **The reader makes a map of the objects**, and of no other text, as long as it meets no integer that is too long
and does not go too deep. -/
theorem exists_readJson_map_iff {levels : Nat} {t : Text}
    (hlong : readJson levels (unifyNewlines t) ≠ .error .integerTooLong)
    (hdeep : readJson levels (unifyNewlines t) ≠ .error .tooDeep) :
    (∃ es, readJson levels (unifyNewlines t) = .ok (.map es)) ↔ IsJsonObject t := by
  constructor
  · rintro ⟨es, hes⟩
    have hreads := documentReads levels t
    rw [hes] at hreads
    cases hreads with
    | document _ hobject => exact hobject es rfl
  · intro hobject
    obtain ⟨b, m, b', rfl, hb, hvalue, hb'⟩ := id hobject
    obtain ⟨v, hv⟩ := (exists_readJson_iff hlong hdeep).2 (.padded hb hvalue hb')
    obtain ⟨es, rfl⟩ := exists_map_of_isJsonObject hobject hv
    exact ⟨es, hv⟩

/-! ## Depth -/

theorem fileTokens_brackets (n : Nat) (t : Text) :
    fileTokens (List.replicate n '[' ++ t) = List.replicate n (.mark '[') ++ fileTokens t := by
  induction n with
  | zero => rfl
  | succ n ih => rw [List.replicate_succ, List.cons_append, fileTokens_mark (by decide), ih]; rfl

/-- Each bracket takes one level and two calls, and the bracket that finds no level left ends the reading. -/
theorem readJsonValue_of_brackets (levels : Nat) {fuel : Nat} (ts : List JsonToken) (hfuel : 2 * levels + 1 ≤ fuel) :
    readJsonValue levels fuel (List.replicate (levels + 1) (.mark '[') ++ ts) = .error .tooDeep := by
  induction levels generalizing fuel with
  | zero =>
    obtain ⟨fuel, rfl⟩ := Nat.exists_eq_add_of_le' hfuel
    rfl
  | succ levels ih =>
    obtain ⟨fuel, rfl⟩ := Nat.exists_eq_add_of_le' (show 2 ≤ fuel by omega)
    have hinner := @ih fuel (by omega)
    rw [List.replicate_succ, List.cons_append, readJsonValue]
    · rw [readJsonItems, hinner]
      rfl
    · intro _ hsame
      cases hsame

/-- **A text that begins with more brackets than there are levels** is never read, whatever stands behind them. -/
theorem readJson_of_brackets (levels : Nat) (t : Text) :
    readJson levels (unifyNewlines (List.replicate (levels + 1) '[' ++ t)) = .error .tooDeep := by
  have htokens := fileTokens_brackets (levels + 1) t
  unfold readJson
  change jsonTokens _ = _ at htokens
  rw [htokens]
  dsimp only
  rw [readJsonValue_of_brackets levels _ (by simp only [List.length_append, List.length_replicate]; omega)]
  rfl

end EnvAudit

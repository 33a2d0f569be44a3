import EnvAudit.Proofs.Json.Token
import EnvAudit.Proofs.Json.Value
import EnvAudit.Proofs.Text.Mark
/-!
# JSON texts

The grammar of JSON, over the characters of a text: a document is a value with white space around it (`JsonPhrase`).
Beside the standard literals it has the three words for numbers that are none.  The reader keeps to it: what it makes a
value of is a document, and a map comes of an object alone (`documentReads`).  Where it stops at an integer that is too
long, so many digits stand in the text, and where it stops because its levels are used up, so many brackets are opened.
-/
namespace EnvAudit

/-! ## The grammar -/

def IsJsonBlank (t : Text) : Prop := ∀ c ∈ t, isJsonSpace c = true

def IsDigits (t : Text) : Prop := t ≠ [] ∧ ∀ c ∈ t, isAsciiDigit c = true

def IsFraction (t : Text) : Prop := t = [] ∨ ∃ ds, t = '.' :: ds ∧ IsDigits ds

def IsExponent (t : Text) : Prop :=
  t = [] ∨ ∃ e sign ds, t = e :: sign ++ ds ∧ (e = 'e' ∨ e = 'E') ∧ (sign = [] ∨ sign = ['-'] ∨ sign = ['+']) ∧
    IsDigits ds

/-- A number without its sign: no zero stands in front of another digit. -/
def IsUnsigned (t : Text) : Prop :=
  ∃ whole fraction exponent, t = whole ++ fraction ++ exponent ∧
    (whole = ['0'] ∨ IsDigits whole ∧ whole.head? ≠ some '0') ∧ IsFraction fraction ∧ IsExponent exponent

def jsonLiterals : List Text := ["null", "true", "false", "NaN", "Infinity", "-Infinity"].map (·.toList)

def IsJsonWord (t : Text) : Prop := t ∈ jsonLiterals ∨ IsUnsigned t ∨ ∃ u, t = '-' :: u ∧ IsUnsigned u

def isJsonHexDigit (c : Char) : Bool := isAsciiDigit c || "abcdefABCDEF".toList.contains c

/-- What stands between the quotes of a string. -/
inductive IsStringBody : Text → Prop
  | nil : IsStringBody []
  | plain {c : Char} {t : Text} (hcontrol : 32 ≤ c.toNat) (hquote : c ≠ '"') (hslash : c ≠ '\\') (h : IsStringBody t) :
      IsStringBody (c :: t)
  | escape {c : Char} {t : Text} (hc : c ∈ "\"\\/bfnrt".toList) (h : IsStringBody t) : IsStringBody ('\\' :: c :: t)
  | unit {ds t : Text} (hlength : ds.length = 4) (hds : ∀ d ∈ ds, isJsonHexDigit d = true) (h : IsStringBody t) :
      IsStringBody ('\\' :: 'u' :: ds ++ t)

/-- A string with white space around it. -/
def IsJsonName (t : Text) : Prop :=
  ∃ b body b', t = b ++ '"' :: body ++ '"' :: b' ∧ IsJsonBlank b ∧ IsStringBody body ∧ IsJsonBlank b'

inductive JsonSort where
  | value
  | padded
  | items
  | members

inductive JsonPhrase : JsonSort → Text → Prop
  | string {body : Text} (h : IsStringBody body) : JsonPhrase .value ('"' :: body ++ ['"'])
  | word {w : Text} (h : IsJsonWord w) : JsonPhrase .value w
  | emptyList {b : Text} (hb : IsJsonBlank b) : JsonPhrase .value ('[' :: b ++ [']'])
  | list {t : Text} (h : JsonPhrase .items t) : JsonPhrase .value ('[' :: t ++ [']'])
  | emptyMap {b : Text} (hb : IsJsonBlank b) : JsonPhrase .value ('\x7b' :: b ++ ['\x7d'])
  | map {t : Text} (h : JsonPhrase .members t) : JsonPhrase .value ('\x7b' :: t ++ ['\x7d'])
  | padded {b t b' : Text} (hb : IsJsonBlank b) (h : JsonPhrase .value t) (hb' : IsJsonBlank b') :
      JsonPhrase .padded (b ++ t ++ b')
  | lastItem {t : Text} (h : JsonPhrase .padded t) : JsonPhrase .items t
  | item {t ts : Text} (h : JsonPhrase .padded t) (hs : JsonPhrase .items ts) : JsonPhrase .items (t ++ ',' :: ts)
  | lastMember {k t : Text} (hk : IsJsonName k) (h : JsonPhrase .padded t) : JsonPhrase .members (k ++ ':' :: t)
  | member {k t ts : Text} (hk : IsJsonName k) (h : JsonPhrase .padded t) (hs : JsonPhrase .members ts) :
      JsonPhrase .members (k ++ ':' :: t ++ ',' :: ts)

/-- **A JSON object**, with white space around it. -/
def IsJsonObject (t : Text) : Prop :=
  ∃ b m b', t = b ++ '\x7b' :: m ++ b' ∧ IsJsonBlank b ∧ JsonPhrase .value ('\x7b' :: m) ∧ IsJsonBlank b'

/-- Digits in a row, more than an integer can have. -/
def HasLongNumeral (t : Text) : Prop :=
  ∃ ds, ds <:+: t ∧ (∀ c ∈ ds, isAsciiDigit c = true) ∧ maxDecimalDigits < ds.length

theorem HasLongNumeral.mono {s t : Text} (h : HasLongNumeral s) (hst : s <:+: t) : HasLongNumeral t := by
  obtain ⟨ds, hds, hdigits, hlong⟩ := h
  exact ⟨ds, hds.trans hst, hdigits, hlong⟩

/-- The lists and maps that a text opens, and the brackets in its strings. -/
def bracketsOpened (t : Text) : Nat := t.countP fun c => c = '[' || c = '\x7b'

theorem bracketsOpened_le {s t : Text} (h : s <:+: t) : bracketsOpened s ≤ bracketsOpened t := h.sublist.countP_le

/-! ## Words -/

theorem digits_takeWhile {t : Text} (h : (t.takeWhile isAsciiDigit).isEmpty = false) :
    IsDigits (t.takeWhile isAsciiDigit) :=
  ⟨fun hnil => (by rw [hnil] at h; exact Bool.noConfusion h), fun c hc => List.all_eq_true.1 List.all_takeWhile c hc⟩

theorem exists_fraction (t : Text) : ∃ p, t = p ++ (jsonFraction t).2 ∧ IsFraction p := by
  unfold jsonFraction
  split
  · rename_i rest
    dsimp only
    by_cases hempty : (rest.takeWhile isAsciiDigit).isEmpty = true
    · rw [if_pos hempty]
      exact ⟨[], rfl, .inl rfl⟩
    · rw [if_neg hempty]
      refine ⟨'.' :: rest.takeWhile isAsciiDigit, ?_, .inr ⟨_, rfl, digits_takeWhile (Bool.eq_false_iff.2 hempty)⟩⟩
      rw [List.cons_append, List.takeWhile_append_dropWhile]
  · exact ⟨[], rfl, .inl rfl⟩

/-- The digits of an exponent, behind its letter and its sign. -/
theorem exists_exponent_of_signed {e : Char} {sign : Text} (he : e = 'e' ∨ e = 'E')
    (hsign : sign = [] ∨ sign = ['-'] ∨ sign = ['+']) (digits : Text) (n : Option Int) :
    ∃ p, e :: (sign ++ digits) = p ++ (if (digits.takeWhile isAsciiDigit).isEmpty = true then
      (none, e :: (sign ++ digits)) else (n, digits.dropWhile isAsciiDigit)).2 ∧ IsExponent p := by
  by_cases hempty : (digits.takeWhile isAsciiDigit).isEmpty = true
  · rw [if_pos hempty]
    exact ⟨[], rfl, .inl rfl⟩
  · rw [if_neg hempty]
    refine ⟨e :: sign ++ digits.takeWhile isAsciiDigit, ?_,
      .inr ⟨e, sign, _, rfl, he, hsign, digits_takeWhile (Bool.eq_false_iff.2 hempty)⟩⟩
    rw [List.append_assoc, List.takeWhile_append_dropWhile, List.cons_append]

theorem exists_exponent (t : Text) : ∃ p, t = p ++ (jsonExponent t).2 ∧ IsExponent p := by
  cases t with
  | nil => exact ⟨[], rfl, .inl rfl⟩
  | cons e rest =>
    unfold jsonExponent
    dsimp only
    by_cases he : (e = 'e' || e = 'E') = true
    · rw [if_pos he]
      simp only [Bool.or_eq_true, decide_eq_true_eq] at he
      split
      · exact exists_exponent_of_signed he (.inr (.inl rfl)) _ _
      · exact exists_exponent_of_signed he (.inr (.inr rfl)) _ _
      · exact exists_exponent_of_signed he (.inl rfl) _ _
    · rw [if_neg he]
      exact ⟨[], rfl, .inl rfl⟩

/-- What stands behind the whole part of a number. -/
theorem exists_places {whole t : Text} (h : whole <+: t) : ∃ fraction exponent,
    t = whole ++ fraction ++ exponent ++ (jsonExponent (jsonFraction (t.drop whole.length)).2).2 ∧
      IsFraction fraction ∧ IsExponent exponent := by
  obtain ⟨after, rfl⟩ := h
  rw [List.drop_left]
  obtain ⟨fraction, hfraction, hisFraction⟩ := exists_fraction after
  obtain ⟨exponent, hexponent, hisExponent⟩ := exists_exponent (jsonFraction after).2
  refine ⟨fraction, exponent, ?_, hisFraction, hisExponent⟩
  rw [List.append_assoc, List.append_assoc, ← hexponent, ← hfraction]

def wholePart (t : Text) : Text :=
  match t with
  | '0' :: _ => ['0']
  | _ => t.takeWhile isAsciiDigit

theorem wholePart_isPrefix (t : Text) : wholePart t <+: t := by
  unfold wholePart
  split
  · exact ⟨_, rfl⟩
  · exact List.takeWhile_prefix isAsciiDigit

theorem wholePart_cases {t : Text} (h : (wholePart t).isEmpty = false) :
    wholePart t = ['0'] ∨ IsDigits (wholePart t) ∧ (wholePart t).head? ≠ some '0' := by
  unfold wholePart at h ⊢
  split at h
  · exact .inl rfl
  · rename_i hzero
    refine .inr ⟨digits_takeWhile h, fun hhead => ?_⟩
    obtain ⟨after, hafter⟩ := List.takeWhile_prefix isAsciiDigit (l := t)
    obtain ⟨rest, hrest⟩ := List.head?_eq_some_iff.1 hhead
    exact hzero (rest ++ after) (by rw [← hafter, hrest, List.cons_append])

/-- A number behind its sign. -/
def unsignedNumber? (negative : Bool) (t : Text) : Option (JsonNumber × Text) :=
  if (wholePart t).isEmpty then none
  else
    let (fraction, afterFraction) := jsonFraction (t.drop (wholePart t).length)
    let (exponent, rest) := jsonExponent afterFraction
    some (⟨negative, wholePart t, fraction, exponent⟩, rest)

theorem jsonNumber?_of_head_ne {t : Text} (h : t.head? ≠ some '-') : jsonNumber? t = unsignedNumber? false t := by
  unfold jsonNumber?
  split
  rename_i negative u hsigned
  split at hsigned
  · exact absurd rfl h
  · obtain ⟨rfl, rfl⟩ := Prod.mk.inj hsigned
    rfl

theorem unsignedNumber?_eq_some {negative : Bool} {t rest : Text} {n : JsonNumber}
    (h : unsignedNumber? negative t = some (n, rest)) : n.whole = wholePart t ∧ n.whole.isEmpty = false ∧
      rest = (jsonExponent (jsonFraction (t.drop n.whole.length)).2).2 := by
  unfold unsignedNumber? at h
  by_cases hempty : (wholePart t).isEmpty = true
  · rw [if_pos hempty] at h
    cases h
  · rw [if_neg hempty] at h
    obtain ⟨rfl, rfl⟩ := Prod.mk.inj (Option.some.inj h)
    exact ⟨rfl, Bool.eq_false_iff.2 hempty, rfl⟩

theorem exists_parts_of_jsonNumber? {w rest : Text} {n : JsonNumber} (h : jsonNumber? w = some (n, rest)) :
    ∃ sign t, w = sign ++ t ∧ (sign = [] ∨ sign = ['-']) ∧ n.whole = wholePart t ∧ n.whole.isEmpty = false ∧
      rest = (jsonExponent (jsonFraction (t.drop n.whole.length)).2).2 := by
  by_cases hsign : w.head? = some '-'
  · obtain ⟨t, rfl⟩ := List.head?_eq_some_iff.1 hsign
    exact ⟨['-'], t, rfl, .inr rfl, unsignedNumber?_eq_some h⟩
  · rw [jsonNumber?_of_head_ne hsign] at h
    exact ⟨[], w, rfl, .inl rfl, unsignedNumber?_eq_some h⟩

theorem isJsonWord_of_jsonNumber? {w : Text} {n : JsonNumber} (h : jsonNumber? w = some (n, [])) : IsJsonWord w := by
  obtain ⟨sign, t, rfl, hsign, hwhole, hne, hrest⟩ := exists_parts_of_jsonNumber? h
  rw [hwhole] at hne hrest
  obtain ⟨fraction, exponent, ht, hfraction, hexponent⟩ := exists_places (wholePart_isPrefix t)
  rw [← hrest, List.append_nil] at ht
  have hunsigned : IsUnsigned t := ⟨_, fraction, exponent, ht, wholePart_cases hne, hfraction, hexponent⟩
  rcases hsign with rfl | rfl
  · exact .inr (.inl hunsigned)
  · exact .inr (.inr ⟨t, rfl, hunsigned⟩)

/-- How a word is read. -/
inductive WordReads (w : Text) : Except JsonFault Value → Prop
  | word (h : IsJsonWord w) (s : Scalar) : WordReads w (.ok (.scalar s))
  | malformed : WordReads w (.error .malformed)
  | tooLong (h : HasLongNumeral w) : WordReads w (.error .integerTooLong)

theorem exists_scalar_of_literal {w : Text} (h : w ∈ jsonLiterals) : ∃ s, readJsonWord w = .ok (.scalar s) := by
  simp only [jsonLiterals, List.map_cons, List.map_nil, List.mem_cons, List.not_mem_nil, or_false] at h
  rcases h with rfl | rfl | rfl | rfl | rfl | rfl <;> exact ⟨_, rfl⟩

theorem readJsonWord_of_not_mem {w : Text} (h : w ∉ jsonLiterals) : readJsonWord w =
    (jsonNumber? w).elim (.error .malformed) fun p =>
      if p.1.isInteger && maxDecimalDigits < p.1.whole.length then .error .integerTooLong
      else if !p.2.isEmpty then .error .malformed
      else if p.1.isInteger then .ok (.int p.1.integer)
      else .ok (.num p.1.float) := by
  simp only [jsonLiterals, List.map_cons, List.map_nil, List.mem_cons, List.not_mem_nil, or_false, not_or] at h
  obtain ⟨hnull, htrue, hfalse, hnan, hinfinity, hminus⟩ := h
  unfold readJsonWord
  rw [if_neg hnull, if_neg htrue, if_neg hfalse, if_neg hnan, if_neg hinfinity, if_neg hminus]
  cases jsonNumber? w <;> rfl

theorem wordReads (w : Text) : WordReads w (readJsonWord w) := by
  by_cases hliteral : w ∈ jsonLiterals
  · obtain ⟨s, hs⟩ := exists_scalar_of_literal hliteral
    rw [hs]
    exact .word (.inl hliteral) s
  rw [readJsonWord_of_not_mem hliteral]
  cases hnumber : jsonNumber? w with
  | none => exact .malformed
  | some p =>
    obtain ⟨n, rest⟩ := p
    dsimp only [Option.elim_some]
    split
    · rename_i hlong
      simp only [Bool.and_eq_true, decide_eq_true_eq] at hlong
      obtain ⟨sign, t, rfl, -, hwhole, -, -⟩ := exists_parts_of_jsonNumber? hnumber
      have hprefix : n.whole <+: t := hwhole ▸ wholePart_isPrefix t
      exact .tooLong ⟨n.whole, hprefix.isInfix.trans (List.suffix_append sign t).isInfix,
        isAsciiDigit_of_jsonNumber? hnumber, hlong.2⟩
    split
    · exact .malformed
    rename_i hrest
    obtain rfl : rest = [] := by simpa using hrest
    have hword := isJsonWord_of_jsonNumber? hnumber
    split
    · exact .word hword _
    · exact .word hword _

/-! ## Strings -/

theorem mem_of_jsonEscape? {e c : Char} (h : jsonEscape? e = some c) : e ∈ "\"\\/bfnrt".toList := by
  unfold jsonEscape? at h
  split at h
  all_goals first | decide | cases h

theorem isSome_digitInBase?_sixteen {c : Char} (h : c.toNat < 128) : (digitInBase? 16 c).isSome = isJsonHexDigit c := by
  have hall : ∀ n < 128, (digitInBase? 16 (Char.ofNat n)).isSome = isJsonHexDigit (Char.ofNat n) := by decide
  have hc := hall c.toNat h
  rwa [Char.ofNat_toNat] at hc

theorem isJsonHexDigit_of_value {x : Char} {d : Nat}
    (h : (if x.toNat < 128 then digitInBase? 16 x else none) = some d) : isJsonHexDigit x = true := by
  split at h
  · rename_i hsmall
    rw [← isSome_digitInBase?_sixteen hsmall]
    exact Option.isSome_of_mem h
  · cases h

theorem isJsonHexDigit_of_fourHex? {a b c d : Char} {n : Nat} (h : fourHex? a b c d = some n) :
    ∀ x ∈ [a, b, c, d], isJsonHexDigit x = true := by
  unfold fourHex? at h
  obtain ⟨va, ha, h⟩ := Option.bind_eq_some_iff.1 h
  obtain ⟨vb, hb, h⟩ := Option.bind_eq_some_iff.1 h
  obtain ⟨vc, hc, h⟩ := Option.bind_eq_some_iff.1 h
  obtain ⟨vd, hd, -⟩ := Option.bind_eq_some_iff.1 h
  have ha := isJsonHexDigit_of_value ha
  have hb := isJsonHexDigit_of_value hb
  have hc := isJsonHexDigit_of_value hc
  have hd := isJsonHexDigit_of_value hd
  simp [ha, hb, hc, hd]

theorem bounds_of_isJsonHexDigit {c : Char} (h : isJsonHexDigit c = true) : 32 ≤ c.toNat ∧ c.toNat < 128 := by
  simp only [isJsonHexDigit, Bool.or_eq_true, isAsciiDigit, Bool.and_eq_true, decide_eq_true_eq] at h
  rcases h with h | h
  · omega
  · have hletters : ("abcdefABCDEF".toList.all fun c => 32 ≤ c.toNat && c.toNat < 128) = true := by decide
    have hc := List.all_eq_true.1 hletters c (List.contains_iff_mem.1 h)
    simpa using hc

theorem printable_of_isStringBody {body : Text} (h : IsStringBody body) : ∀ c ∈ body, 32 ≤ c.toNat := by
  induction h with
  | nil => exact fun _ h => nomatch h
  | plain hcontrol _ _ _ ih => exact List.forall_mem_cons.2 ⟨hcontrol, ih⟩
  | escape hc _ ih =>
    have hescapes : ("\"\\/bfnrt".toList.all fun c => decide (32 ≤ c.toNat)) = true := by decide
    have hprintable := of_decide_eq_true (List.all_eq_true.1 hescapes _ hc)
    exact List.forall_mem_cons.2 ⟨by decide, List.forall_mem_cons.2 ⟨hprintable, ih⟩⟩
  | unit _ hds _ ih =>
    have hdigits := fun d hd => (bounds_of_isJsonHexDigit (hds d hd)).1
    exact List.forall_mem_cons.2 ⟨by decide, List.forall_mem_cons.2 ⟨by decide, List.forall_mem_append.2 ⟨hdigits, ih⟩⟩⟩

theorem exists_body_of_jsonUnits {cs rest : Text} {us : List JsonUnit} (h : jsonUnits cs = some (us, rest)) :
    ∃ body, cs = body ++ '"' :: rest ∧ IsStringBody body := by
  fun_induction jsonUnits cs generalizing us with
  | case1 => cases h
  | case2 after =>
    obtain ⟨-, rfl⟩ := Prod.mk.inj (Option.some.inj h)
    exact ⟨[], rfl, .nil⟩
  | case3 => cases h
  | case4 a b c d after n hn ih =>
    obtain ⟨vs, hvs⟩ := exists_of_map_consUnit h
    obtain ⟨body, rfl, hbody⟩ := ih hvs
    exact ⟨'\\' :: 'u' :: [a, b, c, d] ++ body, rfl, .unit rfl (isJsonHexDigit_of_fourHex? hn) hbody⟩
  | case5 => cases h
  | case6 e after _ c hc ih =>
    obtain ⟨vs, hvs⟩ := exists_of_map_consUnit h
    obtain ⟨body, rfl, hbody⟩ := ih hvs
    exact ⟨'\\' :: e :: body, rfl, .escape (mem_of_jsonEscape? hc) hbody⟩
  | case7 => cases h
  | case8 c after hquote _ _ hplain ih =>
    obtain ⟨vs, hvs⟩ := exists_of_map_consUnit h
    obtain ⟨body, rfl, hbody⟩ := ih hvs
    simp only [Bool.or_eq_true, decide_eq_true_eq, not_or, Nat.not_lt] at hplain
    exact ⟨c :: body, rfl, .plain hplain.1 hquote hplain.2 hbody⟩

end EnvAudit

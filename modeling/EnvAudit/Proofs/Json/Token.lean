import EnvAudit.Json.Token
import EnvAudit.Json.Writer
import Mathlib.Data.List.Forall2
/-!
# Tokens of a JSON text

The walk over a text does not depend on its fuel, so each kind of token has one equation (`jsonTokens_space`,
`jsonTokens_mark`, `jsonTokens_text`, `jsonTokens_word`).  A text *spells* some tokens if they are what it gives in front
of any text that does not go on with a word; a string that was written spells the text it was written for
(`spells_jsonText`).
-/
namespace EnvAudit

/-! ## Fuel -/

theorem exists_of_map_consUnit {t : Text} {u : JsonUnit} {us : List JsonUnit} {rest : Text}
    (h : ((jsonUnits t).map fun (vs, after) => (u :: vs, after)) = some (us, rest)) :
    ∃ vs, jsonUnits t = some (vs, rest) := by
  obtain ⟨⟨vs, after⟩, hrest, hsame⟩ := Option.map_eq_some_iff.1 h
  obtain ⟨-, rfl⟩ := Prod.mk.inj hsame
  exact ⟨vs, hrest⟩

theorem length_jsonUnits {t : Text} {us : List JsonUnit} {rest : Text} (h : jsonUnits t = some (us, rest)) :
    rest.length < t.length := by
  fun_induction jsonUnits t generalizing us with
  | case1 => cases h
  | case2 after =>
    obtain ⟨-, rfl⟩ := Prod.mk.inj (Option.some.inj h)
    exact Nat.lt_succ_self _
  | case3 => cases h
  | case4 a b c d after n hn ih =>
    obtain ⟨vs, hvs⟩ := exists_of_map_consUnit h
    have := ih hvs
    simp only [List.length_cons]
    omega
  | case5 => cases h
  | case6 e after _ c hc ih =>
    obtain ⟨vs, hvs⟩ := exists_of_map_consUnit h
    have := ih hvs
    simp only [List.length_cons]
    omega
  | case7 => cases h
  | case8 c after _ _ _ _ ih =>
    obtain ⟨vs, hvs⟩ := exists_of_map_consUnit h
    have := ih hvs
    simp only [List.length_cons]
    omega

theorem jsonTokensFrom_eq : ∀ (fuel fuel' : Nat) (t : Text), t.length ≤ fuel → t.length ≤ fuel' →
    jsonTokensFrom fuel t = jsonTokensFrom fuel' t
  | 0, 0, _, _, _ => rfl
  | 0, _ + 1, [], _, _ => rfl
  | 0, _ + 1, _ :: _, h, _ => absurd h (Nat.not_succ_le_zero _)
  | _ + 1, 0, [], _, _ => rfl
  | _ + 1, 0, _ :: _, _, h => absurd h (Nat.not_succ_le_zero _)
  | _ + 1, _ + 1, [], _, _ => rfl
  | fuel + 1, fuel' + 1, c :: cs, h, h' => by
    have hshorter : ∀ rest : Text, rest.length ≤ cs.length →
        jsonTokensFrom fuel rest = jsonTokensFrom fuel' rest := fun rest hrest =>
      jsonTokensFrom_eq fuel fuel' rest (Nat.le_trans hrest (Nat.le_of_succ_le_succ h))
        (Nat.le_trans hrest (Nat.le_of_succ_le_succ h'))
    have hword := hshorter _ (List.dropWhile_suffix isJsonWordChar (l := cs)).length_le
    rw [jsonTokensFrom, jsonTokensFrom, hshorter cs (Nat.le_refl _), hword]
    cases hunits : jsonUnits cs with
    | none => rfl
    | some p =>
      dsimp only
      rw [hshorter _ (Nat.le_of_lt (length_jsonUnits hunits))]

theorem jsonTokensFrom_of_le {fuel : Nat} {t : Text} (h : t.length ≤ fuel) : jsonTokensFrom fuel t = jsonTokens t :=
  jsonTokensFrom_eq fuel t.length t h (Nat.le_refl _)

/-! ## One token -/

theorem jsonTokens_nil : jsonTokens [] = [] := rfl

theorem jsonTokens_space {c : Char} (h : isJsonSpace c = true) (cs : Text) : jsonTokens (c :: cs) = jsonTokens cs := by
  change jsonTokensFrom (cs.length + 1) (c :: cs) = _
  rw [jsonTokensFrom, if_pos h]
  rfl

theorem isJsonSpace_of_mark {c : Char} (h : isJsonMark c = true) : isJsonSpace c = false := by
  have hmarks : ("\x7b\x7d[]:,".toList.all fun c => !isJsonSpace c) = true := by decide
  simpa using List.all_eq_true.1 hmarks c (List.contains_iff_mem.1 h)

theorem jsonTokens_mark {c : Char} (h : isJsonMark c = true) (cs : Text) :
    jsonTokens (c :: cs) = .mark c :: jsonTokens cs := by
  change jsonTokensFrom (cs.length + 1) (c :: cs) = _
  have hspace := isJsonSpace_of_mark h
  rw [jsonTokensFrom, if_neg (by rw [hspace]; decide), if_pos h]
  rfl

theorem jsonTokens_text {cs rest : Text} {us : List JsonUnit} (h : jsonUnits cs = some (us, rest)) :
    jsonTokens ('"' :: cs) = .text (textOfUnits us) :: jsonTokens rest := by
  change jsonTokensFrom (cs.length + 1) ('"' :: cs) = _
  rw [jsonTokensFrom, if_neg (by decide), if_neg (by decide), if_pos rfl, h]
  dsimp only
  rw [jsonTokensFrom_of_le (Nat.le_of_lt (length_jsonUnits h))]

/-- No text goes on with a word behind this. -/
def Breaks (rest : Text) : Prop := ∀ c ∈ rest.head?, isJsonWordChar c = false

theorem breaks_nil : Breaks [] := fun _ h => nomatch h

theorem breaks_cons {c : Char} (h : isJsonWordChar c = false) (rest : Text) : Breaks (c :: rest) := by
  rintro d hd
  rwa [← Option.some.inj hd]

theorem not_isJsonWordChar {c : Char} (h : c ∈ " \t\n\r\"\x7b\x7d[]:,".toList) : isJsonWordChar c = false := by
  have hall : (" \t\n\r\"\x7b\x7d[]:,".toList.all fun c => !isJsonWordChar c) = true := by decide
  simpa using List.all_eq_true.1 hall c h

theorem plain_of_isJsonWordChar {c : Char} (h : isJsonWordChar c = true) :
    isJsonSpace c = false ∧ isJsonMark c = false ∧ c ≠ '"' := by
  have hnone : c ∉ " \t\n\r\"\x7b\x7d[]:,".toList := fun hc => by
    rw [not_isJsonWordChar hc] at h
    cases h
  refine ⟨Bool.eq_false_iff.2 fun hspace => hnone ?_, Bool.eq_false_iff.2 fun hmark => hnone ?_, ?_⟩
  · simp only [isJsonSpace, Bool.or_eq_true, decide_eq_true_eq] at hspace
    rcases hspace with ((rfl | rfl) | rfl) | rfl <;> decide
  · exact List.mem_append_right " \t\n\r\"".toList (List.contains_iff_mem.1 hmark)
  · rintro rfl
    exact hnone (by decide)

/-- A run of characters in front of something that does not go on with it. -/
theorem takeWhile_run {p : Char → Bool} {run rest : Text} (h : ∀ c ∈ run, p c = true)
    (hrest : ∀ c ∈ rest.head?, p c = false) :
    (run ++ rest).takeWhile p = run ∧ (run ++ rest).dropWhile p = rest := by
  rw [List.takeWhile_append_of_pos h, List.dropWhile_append_of_pos h]
  cases rest with
  | nil => exact ⟨List.append_nil run, rfl⟩
  | cons c cs =>
    have hc := Bool.eq_false_iff.1 (hrest c rfl)
    rw [List.takeWhile_cons_of_neg hc, List.dropWhile_cons_of_neg hc]
    exact ⟨List.append_nil run, rfl⟩

theorem jsonTokens_word {c : Char} {cs rest : Text} (h : ∀ d ∈ c :: cs, isJsonWordChar d = true) (hrest : Breaks rest) :
    jsonTokens (c :: cs ++ rest) = .word (c :: cs) :: jsonTokens rest := by
  have hc := h c List.mem_cons_self
  obtain ⟨hspace, hmark, hquote⟩ := plain_of_isJsonWordChar hc
  obtain ⟨htake, hdrop⟩ := takeWhile_run (fun d hd => h d (List.mem_cons_of_mem c hd)) hrest
  change jsonTokensFrom ((cs ++ rest).length + 1) (c :: (cs ++ rest)) = _
  rw [jsonTokensFrom, if_neg (by rw [hspace]; decide), if_neg (by rw [hmark]; decide), if_neg hquote, if_pos hc, htake,
    hdrop, jsonTokensFrom_of_le (by rw [List.length_append]; omega)]

/-- What a text gives in front of any other that does not go on with a word.  It holds no returns, so it is the same
when its line terminators are unified. -/
structure Spells (t : Text) (ts : List JsonToken) : Prop where
  gives : ∀ rest, Breaks rest → jsonTokens (t ++ rest) = ts ++ jsonTokens rest
  noReturn : '\r' ∉ t

theorem Spells.jsonTokens_eq {t : Text} {ts : List JsonToken} (h : Spells t ts) : jsonTokens t = ts := by
  have hall := h.gives [] breaks_nil
  rwa [List.append_nil, jsonTokens_nil, List.append_nil] at hall

theorem spells_word {w : Text} (hne : w ≠ []) (h : w.all isJsonWordChar = true) : Spells w [.word w] := by
  obtain ⟨c, cs, rfl⟩ := List.exists_cons_of_ne_nil hne
  have hword := List.all_eq_true.1 h
  exact ⟨fun rest hrest => jsonTokens_word hword hrest, fun hreturn => absurd (hword _ hreturn) (by decide)⟩

/-! ## Strings

Each character is written as one unit or two, and its units are that character again, whatever follows. -/

/-- The characters that have an escape of two. -/
def namedEscapes : List Char := ['"', '\\', '\n', '\r', '\t', '\x08', '\x0c']

def unitsOf (c : Char) : List JsonUnit :=
  if c ∈ namedEscapes ∨ 32 ≤ c.toNat ∧ c.toNat < 127 then [.plain c]
  else if c.toNat < 0x10000 then [.unit c.toNat]
  else [.unit (0xD800 + (c.toNat - 0x10000) / 0x400), .unit (0xDC00 + (c.toNat - 0x10000) % 0x400)]

theorem digitInBase?_hexDigit : ∀ k < 16, (hexDigit k).toNat < 128 ∧ digitInBase? 16 (hexDigit k) = some k := by
  decide

theorem fourHex?_hexDigit {a b c d : Nat} (ha : a < 16) (hb : b < 16) (hc : c < 16) (hd : d < 16) :
    fourHex? (hexDigit a) (hexDigit b) (hexDigit c) (hexDigit d) = some (((a * 16 + b) * 16 + c) * 16 + d) := by
  obtain ⟨hasmall, ha⟩ := digitInBase?_hexDigit a ha
  obtain ⟨hbsmall, hb⟩ := digitInBase?_hexDigit b hb
  obtain ⟨hcsmall, hc⟩ := digitInBase?_hexDigit c hc
  obtain ⟨hdsmall, hd⟩ := digitInBase?_hexDigit d hd
  unfold fourHex?
  dsimp only
  rw [if_pos hasmall, if_pos hbsmall, if_pos hcsmall, if_pos hdsmall, ha, hb, hc, hd]
  rfl

theorem jsonUnits_jsonUnitEscape {n : Nat} (h : n < 0x10000) (rest : Text) :
    jsonUnits (jsonUnitEscape n ++ rest) = (jsonUnits rest).map fun (us, after) => (.unit n :: us, after) := by
  have hdigits : hexDigits 4 n =
      [hexDigit (n / 4096 % 16), hexDigit (n / 256 % 16), hexDigit (n / 16 % 16), hexDigit (n % 16)] := by
    simp [hexDigits, List.range, List.range.loop]
  have hvalue : ((n / 4096 % 16 * 16 + n / 256 % 16) * 16 + n / 16 % 16) * 16 + n % 16 = n := by omega
  rw [jsonUnitEscape, hdigits]
  simp only [List.cons_append, List.nil_append]
  rw [jsonUnits, fourHex?_hexDigit (by omega) (by omega) (by omega) (by omega), hvalue]

theorem jsonUnits_jsonEscaped (c : Char) (rest : Text) :
    jsonUnits (jsonEscaped c ++ rest) = (jsonUnits rest).map fun (us, after) => (unitsOf c ++ us, after) := by
  unfold jsonEscaped
  split
  · subst c; rfl
  split
  · subst c; rfl
  split
  · subst c; rfl
  split
  · subst c; rfl
  split
  · subst c; rfl
  split
  · subst c; rfl
  split
  · subst c; rfl
  rename_i hquote hslash hnewline hreturn htab hback hfeed
  have hname : c ∉ namedEscapes := by simp [namedEscapes, *]
  split
  · rename_i hprintable
    simp only [Bool.and_eq_true, decide_eq_true_eq] at hprintable
    rw [unitsOf, if_pos (Or.inr hprintable), List.singleton_append, jsonUnits]
    · rw [if_neg (by simp [hslash]; omega)]
      rfl
    all_goals simp [*]
  rename_i hprintable
  simp only [Bool.and_eq_true, decide_eq_true_eq] at hprintable
  split
  · rename_i hsmall
    rw [unitsOf, if_neg (by simp only [hname, hprintable, or_self, not_false_eq_true]), if_pos hsmall]
    exact jsonUnits_jsonUnitEscape hsmall rest
  · rename_i hlarge
    have hvalid : c.toNat < 0xD800 ∨ 0xDFFF < c.toNat ∧ c.toNat < 0x110000 := c.valid
    rw [unitsOf, if_neg (by simp only [hname, hprintable, or_self, not_false_eq_true]), if_neg hlarge]
    dsimp only
    rw [List.append_assoc, jsonUnits_jsonUnitEscape (by omega), jsonUnits_jsonUnitEscape (by omega), Option.map_map]
    rfl

theorem textOfUnits_unit {n : Nat} (hhigh : isHighSurrogate n = false) (hlow : isLowSurrogate n = false)
    (us : List JsonUnit) : textOfUnits (.unit n :: us) = Char.ofNat n :: textOfUnits us := by
  rcases us with _ | ⟨d | l, us⟩ <;> simp [textOfUnits, hhigh, hlow]

theorem textOfUnits_unitsOf (c : Char) (us : List JsonUnit) : textOfUnits (unitsOf c ++ us) = c :: textOfUnits us := by
  have hvalid : c.toNat < 0xD800 ∨ 0xDFFF < c.toNat ∧ c.toNat < 0x110000 := c.valid
  unfold unitsOf
  split
  · rw [List.singleton_append, textOfUnits]
  split
  · rename_i hsmall
    have hhigh : isHighSurrogate c.toNat = false := by simp [isHighSurrogate]; omega
    have hlow : isLowSurrogate c.toNat = false := by simp [isLowSurrogate]; omega
    rw [List.singleton_append, textOfUnits_unit hhigh hlow, Char.ofNat_toNat]
  · rename_i hlarge
    have hhigh : isHighSurrogate (0xD800 + (c.toNat - 0x10000) / 0x400) = true := by simp [isHighSurrogate]; omega
    have hlow : isLowSurrogate (0xDC00 + (c.toNat - 0x10000) % 0x400) = true := by simp [isLowSurrogate]; omega
    have hpair : 0x10000 + (0xD800 + (c.toNat - 0x10000) / 0x400 - 0xD800) * 0x400 +
        (0xDC00 + (c.toNat - 0x10000) % 0x400 - 0xDC00) = c.toNat := by omega
    rw [List.cons_append, List.singleton_append, textOfUnits, hhigh, hlow, Bool.and_self, if_pos rfl, hpair,
      Char.ofNat_toNat]

theorem jsonUnits_flatMap_jsonEscaped (rest : Text) : ∀ t : Text,
    jsonUnits (t.flatMap jsonEscaped ++ '"' :: rest) = some (t.flatMap unitsOf, rest)
  | [] => rfl
  | c :: t => by
    rw [List.flatMap_cons, List.append_assoc, jsonUnits_jsonEscaped, jsonUnits_flatMap_jsonEscaped rest t]
    rfl

theorem textOfUnits_flatMap_unitsOf : ∀ t : Text, textOfUnits (t.flatMap unitsOf) = t
  | [] => rfl
  | c :: t => by rw [List.flatMap_cons, textOfUnits_unitsOf, textOfUnits_flatMap_unitsOf t]

theorem hexDigit_ne_return : ∀ k < 16, hexDigit k ≠ '\r' := by decide

theorem return_not_mem_jsonUnitEscape (n : Nat) : '\r' ∉ jsonUnitEscape n := by
  intro h
  rcases List.mem_cons.1 h with h | h
  · cases h
  rcases List.mem_cons.1 h with h | h
  · cases h
  obtain ⟨i, -, hi⟩ := List.mem_map.1 h
  exact hexDigit_ne_return _ (Nat.mod_lt _ (by decide)) hi

theorem return_not_mem_jsonEscaped (c : Char) : '\r' ∉ jsonEscaped c := by
  unfold jsonEscaped
  repeat' split
  · decide
  · decide
  · decide
  · decide
  · decide
  · decide
  · decide
  · rename_i hreturn _ _ _ _
    exact fun h => hreturn (List.mem_singleton.1 h).symm
  · exact return_not_mem_jsonUnitEscape _
  · intro h
    rcases List.mem_append.1 h with h | h <;> exact return_not_mem_jsonUnitEscape _ h

/-- **A string that is written** is read back. -/
theorem spells_jsonText (t : Text) : Spells (jsonText t) [.text t] := by
  constructor
  · intro rest _
    have hunits := jsonUnits_flatMap_jsonEscaped rest t
    rw [jsonText, List.cons_append, List.cons_append, List.append_assoc, List.singleton_append, jsonTokens_text hunits,
      textOfUnits_flatMap_unitsOf]
    rfl
  · intro h
    rcases List.mem_append.1 h with h | h
    · rcases List.mem_cons.1 h with h | h
      · cases h
      · obtain ⟨c, -, hc⟩ := List.mem_flatMap.1 h
        exact return_not_mem_jsonEscaped c hc
    · exact absurd (List.mem_singleton.1 h) (by decide)

/-! ## Layout -/

theorem jsonTokens_spaces (rest : Text) : ∀ n : Nat, jsonTokens (List.replicate n ' ' ++ rest) = jsonTokens rest
  | 0 => rfl
  | n + 1 => by rw [List.replicate_succ, List.cons_append, jsonTokens_space (by decide), jsonTokens_spaces rest n]

theorem jsonTokens_jsonIndent (depth : Nat) (rest : Text) :
    jsonTokens (jsonIndent depth ++ rest) = jsonTokens rest := by
  rw [jsonIndent, List.cons_append, jsonTokens_space (by decide), jsonTokens_spaces]

theorem breaks_jsonIndent (depth : Nat) (rest : Text) : Breaks (jsonIndent depth ++ rest) :=
  breaks_cons (by decide) _

theorem return_not_mem_jsonIndent (depth : Nat) : '\r' ∉ jsonIndent depth := by
  intro h
  rcases List.mem_cons.1 h with h | h
  · cases h
  · exact absurd (List.eq_of_mem_replicate h) (by decide)

/-- Items with a comma and a line break between them. -/
theorem spells_joinWith (depth : Nat) {items : List Text} {toks : List (List JsonToken)}
    (h : List.Forall₂ Spells items toks) :
    Spells (joinWith (',' :: jsonIndent depth) items) (joinWith [JsonToken.mark ','] toks) := by
  induction h with
  | nil => exact ⟨fun _ _ => rfl, List.not_mem_nil⟩
  | cons hitem hitems ih =>
    cases hitems with
    | nil => exact hitem
    | cons hnext hmore =>
      rw [joinWith_cons _ _ (List.cons_ne_nil _ _), joinWith_cons _ _ (List.cons_ne_nil _ _)]
      constructor
      · intro rest hrest
        rw [List.append_assoc, List.append_assoc, List.cons_append, hitem.gives _ (breaks_cons (by decide) _),
          jsonTokens_mark (by decide), jsonTokens_jsonIndent, ih.gives rest hrest, List.append_assoc, List.append_assoc,
          List.singleton_append]
      · simp only [List.mem_append, List.mem_cons, not_or]
        exact ⟨⟨hitem.noReturn, by decide, return_not_mem_jsonIndent depth⟩, ih.noReturn⟩

theorem ne_return_of_isJsonMark {c : Char} (h : isJsonMark c = true) : '\r' ≠ c := by
  rintro rfl
  exact absurd h (by decide)

theorem spells_jsonBlock {opening closing : Char} (hopening : isJsonMark opening = true)
    (hclosing : isJsonMark closing = true) (depth : Nat) {items : List Text} {toks : List (List JsonToken)}
    (h : List.Forall₂ Spells items toks) : Spells (jsonBlock opening closing depth items)
      (.mark opening :: joinWith [JsonToken.mark ','] toks ++ [.mark closing]) := by
  have hitems := spells_joinWith (depth + 1) h
  have hopeningReturn := ne_return_of_isJsonMark hopening
  have hclosingReturn := ne_return_of_isJsonMark hclosing
  unfold jsonBlock
  cases h with
  | nil =>
    constructor
    · intro rest _
      change jsonTokens (opening :: closing :: rest) = _
      rw [jsonTokens_mark hopening, jsonTokens_mark hclosing]
      rfl
    · simp [hopeningReturn, hclosingReturn]
  | cons _ _ =>
    rw [if_neg (by simp)]
    constructor
    · intro rest _
      simp only [List.cons_append, List.append_assoc, List.nil_append]
      rw [jsonTokens_mark hopening, jsonTokens_jsonIndent, hitems.gives _ (breaks_jsonIndent depth _),
        jsonTokens_jsonIndent, jsonTokens_mark hclosing]
    · simp only [List.cons_append, List.mem_append, List.mem_cons, List.not_mem_nil, not_or, or_false]
      exact ⟨hopeningReturn, ⟨⟨return_not_mem_jsonIndent _, hitems.noReturn⟩, return_not_mem_jsonIndent _⟩,
        hclosingReturn⟩

end EnvAudit

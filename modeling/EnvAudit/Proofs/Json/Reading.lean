import EnvAudit.Proofs.Json.Grammar
/-!
# How a JSON text is read

A text is cut into pieces with white space before them (`lexed`), and the three readers take whole phrases of the
grammar off its front or stop at a fault; one that is not a fault of form stands for so many digits in a row or so many
brackets (`reads`).  So a text that is read as a value is a document, and a map is read of an object alone (`documentReads`).
Line terminators are white space, so all of this is said of a text as it is in the file.
-/
namespace EnvAudit

/-! ## Pieces -/

inductive JsonPiece : JsonToken → Text → Prop
  | mark {c : Char} (h : isJsonMark c = true) : JsonPiece (.mark c) [c]
  | text {body : Text} (h : IsStringBody body) (s : Text) : JsonPiece (.text s) ('"' :: body ++ ['"'])
  | word {w : Text} (h : ∀ c ∈ w, isJsonWordChar c = true) : JsonPiece (.word w) w

theorem newline_not_mem_piece {k : JsonToken} {p : Text} (h : JsonPiece k p) : '\n' ∉ p := by
  cases h with
  | mark hmark =>
    rw [List.mem_singleton]
    rintro rfl
    exact absurd hmark (by decide)
  | @text body hbody =>
    have hnone : '\n' ∉ body := fun hmem => absurd (printable_of_isStringBody hbody _ hmem) (by decide)
    simp [hnone]
  | word hword => exact fun hmem => absurd (hword _ hmem) (by decide)

/-- How a text is cut: nothing but white space, something that is no piece, or one piece and what is cut of the rest. -/
inductive Lexed (lex : Text → List JsonToken) (t : Text) : List JsonToken → Prop
  | blank (h : IsJsonBlank t) : Lexed lex t []
  | bad : Lexed lex t [.bad]
  | piece {b p rest : Text} {k : JsonToken} (hb : IsJsonBlank b) (hp : JsonPiece k p) (ht : t = b ++ p ++ rest) :
      Lexed lex t (k :: lex rest)

theorem Lexed.space {lex : Text → List JsonToken} {c : Char} (hc : isJsonSpace c = true) {t : Text}
    {ts : List JsonToken} (h : Lexed lex t ts) : Lexed lex (c :: t) ts := by
  cases h with
  | blank h => exact .blank (List.forall_mem_cons.2 ⟨hc, h⟩)
  | bad => exact .bad
  | piece hb hp ht => exact .piece (List.forall_mem_cons.2 ⟨hc, hb⟩) hp (congrArg (List.cons c) ht)

theorem breaks_dropWhile (t : Text) : Breaks (t.dropWhile isJsonWordChar) := by
  intro c hc
  have hnot := List.head?_dropWhile_not isJsonWordChar t
  rw [show (t.dropWhile isJsonWordChar).head? = some c from hc] at hnot
  exact hnot

theorem lexed_jsonTokens : ∀ t : Text, Lexed jsonTokens t (jsonTokens t)
  | [] => .blank fun _ h => nomatch h
  | c :: t => by
    have hempty : IsJsonBlank [] := fun _ h => nomatch h
    by_cases hspace : isJsonSpace c = true
    · rw [jsonTokens_space hspace]
      exact (lexed_jsonTokens t).space hspace
    by_cases hmark : isJsonMark c = true
    · rw [jsonTokens_mark hmark]
      exact .piece hempty (.mark hmark) rfl
    by_cases hquote : c = '"'
    · subst hquote
      cases hunits : jsonUnits t with
      | none =>
        rw [show jsonTokens ('"' :: t) = [.bad] by
          change jsonTokensFrom (t.length + 1) ('"' :: t) = _
          rw [jsonTokensFrom, if_neg hspace, if_neg hmark, if_pos rfl, hunits]]
        exact .bad
      | some p =>
        obtain ⟨us, rest⟩ := p
        obtain ⟨body, rfl, hbody⟩ := exists_body_of_jsonUnits hunits
        rw [jsonTokens_text hunits]
        exact .piece hempty (.text hbody _) (by simp)
    by_cases hword : isJsonWordChar c = true
    · have hall : ∀ d ∈ c :: t.takeWhile isJsonWordChar, isJsonWordChar d = true :=
        List.forall_mem_cons.2 ⟨hword, List.all_eq_true.1 List.all_takeWhile⟩
      have htokens := jsonTokens_word hall (breaks_dropWhile t)
      rw [List.cons_append, List.takeWhile_append_dropWhile] at htokens
      rw [htokens]
      exact .piece hempty (.word hall) (by simp)
    · rw [show jsonTokens (c :: t) = [.bad] by
        change jsonTokensFrom (t.length + 1) (c :: t) = _
        rw [jsonTokensFrom, if_neg hspace, if_neg hmark, if_neg hquote, if_neg hword]]
      exact .bad

/-- The tokens of a file's text, whose line terminators are unified before it is read. -/
def fileTokens (t : Text) : List JsonToken := jsonTokens (unifyNewlines t)

theorem exists_blank_of_unifyNewlines {u : Text} : ∀ {b t : Text}, IsJsonBlank b → unifyNewlines t = b ++ u →
    ∃ b' rest, t = b' ++ rest ∧ IsJsonBlank b' ∧ unifyNewlines rest = u
  | [], t, _, h => ⟨[], t, rfl, (fun _ h => nomatch h), h⟩
  | c :: b, t, hb, h => by
    obtain ⟨hc, hb⟩ := List.forall_mem_cons.1 hb
    obtain ⟨d, rest, rfl, hrest, hd⟩ := exists_of_unifyNewlines_cons h
    obtain ⟨b', rest', rfl, hb', hu⟩ := exists_blank_of_unifyNewlines hb hrest
    refine ⟨d ++ b', rest', (List.append_assoc ..).symm, fun x hx => ?_, hu⟩
    rcases List.mem_append.1 hx with hx | hx
    · rcases hd with rfl | ⟨-, rfl | rfl⟩
      · rwa [List.mem_singleton.1 hx]
      · rw [List.mem_singleton.1 hx]
        decide
      · exact List.all_eq_true.1 (by decide : ['\r', '\n'].all isJsonSpace = true) x hx
    · exact hb' x hx

theorem lexed (t : Text) : Lexed fileTokens t (fileTokens t) := by
  have hunified := lexed_jsonTokens (unifyNewlines t)
  unfold fileTokens
  generalize hts : jsonTokens (unifyNewlines t) = ts at hunified ⊢
  cases hunified with
  | blank h =>
    obtain ⟨b, rest, rfl, hb, hrest⟩ := exists_blank_of_unifyNewlines h (List.append_nil _).symm
    cases rest with
    | nil => exact .blank (by rwa [List.append_nil])
    | cons c rest =>
      by_cases hc : c = '\r'
      · subst hc
        obtain ⟨_, -, hreturn⟩ := exists_unifyNewlines_return rest
        cases hreturn.symm.trans hrest
      · cases (unifyNewlines_cons hc rest).symm.trans hrest
  | bad => exact .bad
  | piece hb hp ht =>
    rw [List.append_assoc] at ht
    obtain ⟨b, rest, rfl, hb, hrest⟩ := exists_blank_of_unifyNewlines hb ht
    obtain ⟨rest', rfl, rfl⟩ := exists_of_unifyNewlines_append (newline_not_mem_piece hp) hrest
    exact .piece hb hp (List.append_assoc ..).symm

/-- Where the next mark stands. -/
theorem exists_mark_of_fileTokens {t : Text} {c : Char} {ts : List JsonToken} (h : fileTokens t = .mark c :: ts) :
    ∃ b rest, t = b ++ c :: rest ∧ IsJsonBlank b ∧ ts = fileTokens rest := by
  have hlexed := lexed t
  rw [h] at hlexed
  cases hlexed with
  | piece hb hp ht =>
    cases hp with
    | mark => exact ⟨_, _, by rw [ht, List.append_assoc]; rfl, hb, rfl⟩

/-- Where the name of a member stands. -/
theorem exists_name_of_fileTokens {t k : Text} {ts : List JsonToken} (h : fileTokens t = .text k :: .mark ':' :: ts) :
    ∃ name rest, t = name ++ ':' :: rest ∧ IsJsonName name ∧ ts = fileTokens rest := by
  have hlexed := lexed t
  rw [h] at hlexed
  generalize hts : JsonToken.mark ':' :: ts = us at hlexed
  cases hlexed with
  | piece hb hp ht =>
    cases hp with
    | text hbody =>
      obtain ⟨b', rest, rfl, hb', rfl⟩ := exists_mark_of_fileTokens hts.symm
      exact ⟨_, rest, by rw [ht]; simp, ⟨_, _, b', rfl, hb, hbody, hb'⟩, rfl⟩

/-! ## Phrases -/

/-- How a reader ends: it takes something off the front of a text, or stops at a fault. -/
inductive Reads {α : Type} (levels : Nat) (t : Text) (takes : α → Text → Prop) :
    Except JsonFault (α × List JsonToken) → Prop
  | taken {a : α} {rest : Text} (h : takes a rest) : Reads levels t takes (.ok (a, fileTokens rest))
  | malformed : Reads levels t takes (.error .malformed)
  | tooLong (h : HasLongNumeral t) : Reads levels t takes (.error .integerTooLong)
  | tooDeep (h : levels ≤ bracketsOpened t) : Reads levels t takes (.error .tooDeep)

section

variable {α β : Type} {levels : Nat} {t : Text} {takes : α → Text → Prop} {takes' : β → Text → Prop}
  {x : Except JsonFault (α × List JsonToken)}

theorem Reads.bind (h : Reads levels t takes x) {f : α × List JsonToken → Except JsonFault (β × List JsonToken)}
    (hf : ∀ a rest, takes a rest → Reads levels t takes' (f (a, fileTokens rest))) : Reads levels t takes' (x >>= f) := by
  cases h with
  | taken h => exact hf _ _ h
  | malformed => exact .malformed
  | tooLong h => exact .tooLong h
  | tooDeep h => exact .tooDeep h

theorem Reads.map (h : Reads levels t takes x) {g : α → β} (hg : ∀ a rest, takes a rest → takes' (g a) rest) :
    Reads levels t takes' (x.map fun p => (g p.1, p.2)) := by
  cases h with
  | taken h => exact .taken (hg _ _ h)
  | malformed => exact .malformed
  | tooLong h => exact .tooLong h
  | tooDeep h => exact .tooDeep h

/-- What is read of a part is read of the text. -/
theorem Reads.of_part (h : Reads levels t takes x) {whole : Text} (hpart : t <:+: whole) :
    Reads levels whole takes x := by
  cases h with
  | taken h => exact .taken h
  | malformed => exact .malformed
  | tooLong h => exact .tooLong (h.mono hpart)
  | tooDeep h => exact .tooDeep (Nat.le_trans h (bracketsOpened_le hpart))

/-- What is read behind an opened bracket is read of the text on one level more. -/
theorem Reads.of_opened (h : Reads levels t takes x) {c : Char} (hc : c = '[' ∨ c = '\x7b') {whole : Text}
    (hpart : c :: t <:+: whole) : Reads (levels + 1) whole takes x := by
  cases h with
  | taken h => exact .taken h
  | malformed => exact .malformed
  | tooLong h => exact .tooLong ((h.mono (List.suffix_cons c t).isInfix).mono hpart)
  | tooDeep h =>
    have hopened : bracketsOpened (c :: t) = bracketsOpened t + 1 :=
      List.countP_cons_of_pos (by rcases hc with rfl | rfl <;> rfl)
    have hwhole := bracketsOpened_le hpart
    exact .tooDeep (by omega)

end

/-- A map is read of an object alone. -/
def OpensAs : Value → Text → Prop
  | .map _, p => p.head? = some '\x7b'
  | _, _ => True

/-- A value, and the white space before it, stands in front of the rest. -/
def TakesValue (t : Text) (v : Value) (rest : Text) : Prop :=
  ∃ b p, t = b ++ p ++ rest ∧ IsJsonBlank b ∧ JsonPhrase .value p ∧ OpensAs v p

/-- A phrase and its closing mark stand in front of the rest. -/
def TakesClosed {α : Type} (sort : JsonSort) (closing : Char) (t : Text) (_ : α) (rest : Text) : Prop :=
  ∃ p, t = p ++ closing :: rest ∧ JsonPhrase sort p

def ReadsValues (fuel : Nat) : Prop :=
  ∀ levels t, Reads levels t (TakesValue t) (readJsonValue levels fuel (fileTokens t))

def ReadsItems (fuel : Nat) : Prop :=
  ∀ levels t, Reads levels t (TakesClosed .items ']' t) (readJsonItems levels fuel (fileTokens t))

def ReadsMembers (fuel : Nat) : Prop :=
  ∀ levels t, Reads levels t (TakesClosed .members '\x7d' t) (readJsonMembers levels fuel (fileTokens t))

variable {fuel : Nat}

theorem readsValues (hitems : ReadsItems fuel) (hmembers : ReadsMembers fuel) : ReadsValues (fuel + 1) := by
  intro levels t
  have hlexed := lexed t
  generalize fileTokens t = ts at hlexed
  cases hlexed with
  | blank => exact .malformed
  | bad => exact .malformed
  | @piece b p rest k hb hp ht =>
    have hopened : p ++ rest <:+: t := ⟨b, [], by rw [List.append_nil, ht, List.append_assoc]⟩
    unfold readJsonValue
    dsimp only
    split
    · cases hp with
      | text hbody => exact .taken ⟨b, _, ht, hb, .string hbody, trivial⟩
    · cases hp with
      | word hword =>
        split
        · rename_i hlast
          simp only [Bool.and_eq_true, decide_eq_true_eq] at hlast
          exact .tooDeep (hlast.1 ▸ Nat.zero_le _)
        have hreads := wordReads p
        generalize readJsonWord p = result at hreads
        cases hreads with
        | word h s => exact .taken ⟨b, p, ht, hb, .word h, trivial⟩
        | malformed => exact .malformed
        | tooLong h => exact .tooLong (h.mono ⟨b, rest, ht.symm⟩)
    · exact .tooDeep (Nat.zero_le _)
    · cases hp with
      | mark =>
        split
        · rename_i hclosed
          obtain ⟨b', rest', rfl, hb', rfl⟩ := exists_mark_of_fileTokens hclosed
          exact .taken ⟨b, _, by simp [ht], hb, .emptyList hb', trivial⟩
        · refine ((hitems _ rest).of_opened (.inl rfl) hopened).map fun vs rest' htaken => ?_
          obtain ⟨p, rfl, hphrase⟩ := htaken
          exact ⟨b, _, by simp [ht], hb, .list hphrase, trivial⟩
    · exact .tooDeep (Nat.zero_le _)
    · cases hp with
      | mark =>
        split
        · rename_i hclosed
          obtain ⟨b', rest', rfl, hb', rfl⟩ := exists_mark_of_fileTokens hclosed
          exact .taken ⟨b, _, by simp [ht], hb, .emptyMap hb', rfl⟩
        · refine ((hmembers _ rest).of_opened (.inr rfl) hopened).map (g := fun es => Value.map (Entries.ofPairs es))
            fun es rest' htaken => ?_
          obtain ⟨p, rfl, hphrase⟩ := htaken
          exact ⟨b, _, by simp [ht], hb, .map hphrase, rfl⟩
    · exact .malformed

theorem readsItems (hvalues : ReadsValues fuel) (hitems : ReadsItems fuel) : ReadsItems (fuel + 1) := by
  intro levels t
  unfold readJsonItems
  refine (hvalues levels t).bind fun v rest htaken => ?_
  obtain ⟨b, p, rfl, hb, hphrase, -⟩ := htaken
  dsimp only
  split
  · rename_i hclosed
    obtain ⟨b', rest', rfl, hb', rfl⟩ := exists_mark_of_fileTokens hclosed
    exact .taken ⟨b ++ p ++ b', by simp, .lastItem (.padded hb hphrase hb')⟩
  · rename_i hcomma
    obtain ⟨b', rest', rfl, hb', rfl⟩ := exists_mark_of_fileTokens hcomma
    have hpart : rest' <:+: b ++ p ++ (b' ++ ',' :: rest') := ⟨b ++ p ++ (b' ++ [',']), [], by simp⟩
    refine ((hitems levels rest').of_part hpart).bind fun vs rest'' htaken => ?_
    obtain ⟨q, rfl, hmore⟩ := htaken
    exact .taken ⟨b ++ p ++ b' ++ ',' :: q, by simp, .item (.padded hb hphrase hb') hmore⟩
  · exact .malformed

theorem readsMembers (hvalues : ReadsValues fuel) (hmembers : ReadsMembers fuel) : ReadsMembers (fuel + 1) := by
  intro levels t
  unfold readJsonMembers
  split
  · rename_i k ts hname
    obtain ⟨name, after, rfl, hisName, rfl⟩ := exists_name_of_fileTokens hname
    have hafter : after <:+: name ++ ':' :: after := ⟨name ++ [':'], [], by simp⟩
    refine ((hvalues levels after).of_part hafter).bind fun v rest htaken => ?_
    obtain ⟨b, p, rfl, hb, hphrase, -⟩ := htaken
    dsimp only
    split
    · rename_i hclosed
      obtain ⟨b', rest', rfl, hb', rfl⟩ := exists_mark_of_fileTokens hclosed
      exact .taken ⟨name ++ ':' :: (b ++ p ++ b'), by simp, .lastMember hisName (.padded hb hphrase hb')⟩
    · rename_i hcomma
      obtain ⟨b', rest', rfl, hb', rfl⟩ := exists_mark_of_fileTokens hcomma
      have hpart : rest' <:+: name ++ ':' :: (b ++ p ++ (b' ++ ',' :: rest')) :=
        ⟨name ++ ':' :: (b ++ p ++ (b' ++ [','])), [], by simp⟩
      refine ((hmembers levels rest').of_part hpart).bind fun es rest'' htaken => ?_
      obtain ⟨q, rfl, hmore⟩ := htaken
      exact .taken ⟨name ++ ':' :: (b ++ p ++ b') ++ ',' :: q, by simp, .member hisName (.padded hb hphrase hb') hmore⟩
    · exact .malformed
  · exact .malformed

theorem reads : ∀ fuel : Nat, ReadsValues fuel ∧ ReadsItems fuel ∧ ReadsMembers fuel
  | 0 => by
    refine ⟨fun levels t => ?_, fun levels t => ?_, fun levels t => ?_⟩
    · rw [readJsonValue]; exact .malformed
    · rw [readJsonItems]; exact .malformed
    · rw [readJsonMembers]; exact .malformed
  | fuel + 1 => by
    obtain ⟨hvalues, hitems, hmembers⟩ := reads fuel
    exact ⟨readsValues hitems hmembers, readsItems hvalues hitems, readsMembers hvalues hmembers⟩

/-! ## Documents -/

/-- How a file's text is read. -/
inductive DocumentReads (levels : Nat) (t : Text) : Except JsonFault Value → Prop
  | document {v : Value} (h : JsonPhrase .padded t) (hobject : ∀ es, v = .map es → IsJsonObject t) :
      DocumentReads levels t (.ok v)
  | malformed : DocumentReads levels t (.error .malformed)
  | tooLong (h : HasLongNumeral t) : DocumentReads levels t (.error .integerTooLong)
  | tooDeep (h : levels ≤ bracketsOpened t) : DocumentReads levels t (.error .tooDeep)

/-- **What is read as a value** is a document, and what is read as a map an object. -/
theorem documentReads (levels : Nat) (t : Text) : DocumentReads levels t (readJson levels (unifyNewlines t)) := by
  have hreads := (reads (2 * (fileTokens t).length + 1)).1 levels t
  change DocumentReads levels t (readJsonValue levels (2 * (fileTokens t).length + 1) (fileTokens t) >>= fun p =>
    if p.2.isEmpty then pure p.1 else throw .malformed)
  generalize readJsonValue levels (2 * (fileTokens t).length + 1) (fileTokens t) = result at hreads
  cases hreads with
  | malformed => exact .malformed
  | tooLong h => exact .tooLong h
  | tooDeep h => exact .tooDeep h
  | @taken v rest h =>
    obtain ⟨b, p, ht, hb, hphrase, hopens⟩ := h
    change DocumentReads levels t (if (fileTokens rest).isEmpty then pure v else throw .malformed)
    by_cases hend : (fileTokens rest).isEmpty = true
    · rw [if_pos hend]
      have hlexed := lexed rest
      rw [List.isEmpty_iff.1 hend] at hlexed
      cases hlexed with
      | blank hrest =>
        subst ht
        refine .document (.padded hb hphrase hrest) fun es hes => ?_
        subst hes
        obtain ⟨m, rfl⟩ := List.head?_eq_some_iff.1 hopens
        exact ⟨b, m, rest, rfl, hb, hphrase, hrest⟩
    · rw [if_neg hend]
      exact .malformed

end EnvAudit

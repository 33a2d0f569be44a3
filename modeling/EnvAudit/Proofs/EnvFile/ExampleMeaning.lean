import EnvAudit.EnvFile.Example
import EnvAudit.Proofs.EnvFile.Written
/-!
# What an example declares

An example is a file like any other, so it can be read.  Its header is over at a blank line, and every variable is
written below its comment, so what is read are the variables of the source in their order, with the keys and comments
they have there (`readEnv_exampleText_keys`).

A value is read back as the placeholder that was written, with one exception (`readEnv_exampleText_value_iff`): a
placeholder that stands between quotes of its own and needs no others is written as it is, and read without them.
-/
namespace EnvAudit

/-! ## Placeholders on one line -/

theorem oneLine_secretPlaceholder {key : Text} (h : IsName key) : '\n' ∉ secretPlaceholder key := by
  have hlower : lowercase key = key.map asciiLower :=
    lowercaseFrom_of_ascii key [] fun c hc => by have := code_of_nameChar (h.all c hc); omega
  have hkey : '\n' ∉ (lowercase key).map fun c => if c = '_' then '-' else c := by
    rw [hlower, List.map_map]
    intro hmem
    obtain ⟨c, hc, heq⟩ := List.mem_map.1 hmem
    dsimp only [Function.comp] at heq
    split at heq
    · cases heq
    · exact ne_of_nameChar (h.all c hc) (by decide) (eq_of_asciiLower_eq heq (by decide))
  unfold secretPlaceholder
  exact List.not_mem_append (List.not_mem_append (by decide) hkey) (by decide)

theorem oneLine_placeholder {key value : Text} (hkey : IsName key) (hvalue : '\n' ∉ value) :
    '\n' ∉ placeholder key value := by
  unfold placeholder
  split
  · exact oneLine_secretPlaceholder hkey
  · split
    · exact hvalue
    · split
      · rename_i scheme rest hcut
        have hscheme : '\n' ∉ scheme := fun hmem => hvalue (by rw [eq_append_of_cutOn hcut]; simp [hmem])
        exact List.not_mem_append hscheme (by decide)
      · exact hvalue

theorem oneLine_exampleValue {key value : Text} (hkey : IsName key) (hvalue : '\n' ∉ value) :
    '\n' ∉ exampleValue key value := by
  have hplace := oneLine_placeholder hkey hvalue
  unfold exampleValue
  dsimp only
  split
  · exact List.not_mem_append (List.not_mem_cons_of_ne_of_not_mem (by decide) hplace) (by decide)
  · exact hplace

/-! ## The lines of an example -/

theorem exampleLines_eq_writtenLines {v : Variable} (h : v.WellFormed) :
    exampleLines v = writtenLines v.comment v.key (exampleValue v.key v.value) := by
  unfold exampleLines writtenLines
  have hnote := h.comment
  revert hnote
  rcases v.comment with _ | _ | ⟨c, cs⟩
  · exact fun _ => rfl
  · exact fun hnote => absurd rfl (hnote [] rfl).ne_nil
  · exact fun _ => rfl

theorem lines_exampleText {vs : List Variable} {source : Text} (hvs : ∀ v ∈ vs, v.WellFormed)
    (hsource : '\n' ∉ source) :
    lines (exampleText vs source) = exampleHeader source ++ (vs.flatMap exampleLines ++ [[]]) := by
  have hheader : ∀ line ∈ exampleHeader source, '\n' ∉ line := by
    unfold exampleHeader
    simp only [List.mem_cons, List.not_mem_nil, or_false]
    rintro line (rfl | rfl | rfl)
    · decide
    · exact List.not_mem_append (by decide) hsource
    · exact List.not_mem_nil
  have hbody : ∀ line ∈ vs.flatMap exampleLines, '\n' ∉ line := by
    intro line hline
    obtain ⟨v, hv, hline⟩ := List.mem_flatMap.1 hline
    rw [exampleLines_eq_writtenLines (hvs v hv)] at hline
    exact oneLine_writtenLines (hvs v hv).comment (hvs v hv).key
      (oneLine_exampleValue (hvs v hv).key (hvs v hv).value) line hline
  unfold exampleText lines unlines
  rw [← joinWith_concat_nil ['\n'] _ (by simp [exampleHeader]), List.append_assoc]
  refine splitOn_joinWith '\n' _ (by simp) fun line hline => ?_
  rcases List.mem_append.1 hline with hline | hline
  · exact hheader line hline
  · rcases List.mem_append.1 hline with hline | hline
    · exact hbody line hline
    · rw [List.mem_singleton.1 hline]
      exact List.not_mem_nil

/-! ## Reading an example -/

/-- A variable and what its example declares. -/
structure DeclaredAgain (v w : Variable) : Prop where
  key : w.key = v.key
  comment : w.comment = v.comment
  value : w.value = unquote (trim (exampleValue v.key v.value))

/-- The blank line ends the header, so its comments are not those of the first variable. -/
theorem variablesFrom_exampleHeader (source : Text) (ls : List Text) :
    variablesFrom 1 none (exampleHeader source ++ ls) = variablesFrom 4 none ls := by
  have hfirst : ['#'] <+: "# Example environment file generated by envguard".toList := by decide
  have hlead : ['#'] <+: "# Source: ".toList := by decide
  obtain ⟨note, hnote⟩ := exists_classify_of_hash hfirst
  obtain ⟨note', hnote'⟩ := exists_classify_of_hash (hlead.trans (List.prefix_append _ source))
  have hblank : classify [] = .blank := rfl
  unfold exampleHeader
  rw [List.cons_append, List.cons_append, List.cons_append, List.nil_append, variablesFrom, hnote]
  dsimp only
  rw [variablesFrom, hnote']
  dsimp only
  rw [variablesFrom, hblank]

theorem variablesFrom_exampleLines : ∀ (vs : List Variable) (n : Nat), (∀ v ∈ vs, v.WellFormed) →
    List.Forall₂ DeclaredAgain vs (variablesFrom n none (vs.flatMap exampleLines ++ [[]]))
  | [], _, _ => List.Forall₂.nil
  | v :: vs, n, h => by
    have hv : v.WellFormed := h v (by simp)
    rw [List.flatMap_cons, List.append_assoc, exampleLines_eq_writtenLines hv,
      variablesFrom_written n hv.comment hv.key]
    exact List.Forall₂.cons ⟨rfl, rfl, rfl⟩ (variablesFrom_exampleLines vs _ fun w hw => h w (by simp [hw]))

/-- **An example declares the variables of its source**, one for one. -/
theorem readEnv_exampleText (t : Text) {source : Text} (hsource : '\n' ∉ source) :
    List.Forall₂ DeclaredAgain (readEnv t) (readEnv (exampleText (readEnv t) source)) := by
  have hwell := wellFormed_of_mem_readEnv t
  have hread : readEnv (exampleText (readEnv t) source) =
      variablesFrom 4 none ((readEnv t).flatMap exampleLines ++ [[]]) := by
    rw [readEnv.eq_1 (exampleText (readEnv t) source), lines_exampleText hwell hsource, variablesFrom_exampleHeader]
  rw [hread]
  exact variablesFrom_exampleLines (readEnv t) 4 hwell

/-- **An example keeps the structure of its source**: the same keys below the same comments, in the same order. -/
theorem readEnv_exampleText_keys (t source : Text) (hsource : '\n' ∉ source) :
    (readEnv (exampleText (readEnv t) source)).map (fun v => (v.key, v.comment)) =
      (readEnv t).map fun v => (v.key, v.comment) := by
  have hall := readEnv_exampleText t hsource
  rw [← List.forall₂_eq_eq_eq, List.forall₂_map_left_iff, List.forall₂_map_right_iff]
  exact hall.flip.imp fun w v hw => Prod.ext hw.key hw.comment

theorem readEnv_exampleText_keys_production :
    '\n' ∉ ".env.production".toList ∧
      (readEnv (exampleText (readEnv "# port\nPORT=80\n\nA = 'b c'".toList) ".env.production".toList)).map
        (fun v => (v.key, v.comment)) = [("PORT".toList, some "port".toList), ("A".toList, none)] :=
  ⟨by decide, (readEnv_exampleText_keys _ _ (by decide)).trans (by decide)⟩

/-! ## Values -/

/-- A placeholder between quotes of its own that needs no others. -/
structure LosesQuotes (p : Text) : Prop where
  enclosed : ∃ q inner, (q = '"' ∨ q = '\'') ∧ p = q :: inner ++ [q]
  unneeded : ∀ c ∈ p, isBlank c = false ∧ c ≠ '#'

theorem needsQuotes_eq_false_iff (p : Text) : needsQuotes p = false ↔ ∀ c ∈ p, isBlank c = false ∧ c ≠ '#' := by
  unfold needsQuotes
  rw [List.any_eq_false]
  simp only [Bool.or_eq_true, decide_eq_true_eq, not_or, Bool.not_eq_true]

theorem unquote_trim_exampleValue_iff (key value : Text) :
    unquote (trim (exampleValue key value)) = placeholder key value ↔ ¬ LosesQuotes (placeholder key value) := by
  unfold exampleValue
  dsimp only
  generalize placeholder key value = p
  split
  · rename_i hneeds
    rw [trim_quoted, unquote_quoted (Or.inl rfl)]
    refine iff_of_true rfl fun hloses => ?_
    rw [(needsQuotes_eq_false_iff p).2 hloses.unneeded] at hneeds
    cases hneeds
  · rename_i hneeds
    have hunneeded := (needsQuotes_eq_false_iff p).1 (by simpa using hneeds)
    have hbare : Bare isBlank p := ⟨fun c hc => (hunneeded c (List.mem_of_mem_head? hc)).1,
      fun c hc => (hunneeded c (List.mem_of_mem_getLast? hc)).1⟩
    rw [show trim p = p from strip_of_bare isBlank p hbare, unquote_eq_self_iff]
    exact not_congr ⟨fun henclosed => ⟨henclosed, hunneeded⟩, LosesQuotes.enclosed⟩

/-- **The value of an example is its placeholder** exactly when that does not lose quotes of its own. -/
theorem readEnv_exampleText_value_iff (t : Text) :
    List.Forall₂ (fun v w => w.value = placeholder v.key v.value ↔ ¬ LosesQuotes (placeholder v.key v.value))
      (readEnv t) (readEnv (exampleText (readEnv t) ".env".toList)) := by
  refine (readEnv_exampleText t (by decide)).imp fun v w hw => ?_
  rw [hw.value]
  exact unquote_trim_exampleValue_iff v.key v.value

/-- A value in quotes within quotes loses both pairs, one when it is read and the other when its example is. -/
theorem not_readEnv_exampleText_value :
    ¬ ∀ t : Text, List.Forall₂ (fun v w => w.value = placeholder v.key v.value)
      (readEnv t) (readEnv (exampleText (readEnv t) ".env".toList)) := by
  intro h
  have hread : readEnv "NAME='\"x\"'".toList = [⟨"NAME".toList, "\"x\"".toList, 1, none⟩] := by decide
  have hagain : readEnv (exampleText (readEnv "NAME='\"x\"'".toList) ".env".toList) =
      [⟨"NAME".toList, "x".toList, 4, none⟩] := by decide
  have hall := h "NAME='\"x\"'".toList
  rw [hagain, hread] at hall
  cases hall with
  | cons hvalue _ => exact absurd hvalue (by decide)

end EnvAudit

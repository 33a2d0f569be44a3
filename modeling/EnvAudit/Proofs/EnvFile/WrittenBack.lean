import EnvAudit.Proofs.EnvFile.Written
/-!
# Variables that are written and read back

A variable can be written on a line of its own, between double quotes and below its note, and then it is read back:
the quotes that are written are the one pair that reading takes away, whatever the value is.  Without quotes a value
comes back if nothing of it is taken for white space around it or for such a pair (`readEnv_writtenBack`).
-/
namespace EnvAudit

/-! ## Declarations -/

structure VariableName where
  text : Text
  isName : IsName text

/-- A variable that is to be written, with the note above it. -/
structure Declaration where
  name : VariableName
  value : Text
  note : Option Text
  oneLine : '\n' ∉ value
  said : ∀ text ∈ note, text ≠ [] ∧ '\n' ∉ text ∧ trim text = text

theorem Declaration.isNote (d : Declaration) : ∀ text ∈ d.note, IsNote text := fun text htext =>
  have hsaid := d.said text htext
  ⟨hsaid.1, hsaid.2.2 ▸ bare_strip isBlank text, hsaid.2.1⟩

/-- The note, if there is one, and below it the name and the value in double quotes. -/
def Declaration.print (d : Declaration) : List Text :=
  (d.note.map ("# ".toList ++ ·)).toList ++ [d.name.text ++ "=\"".toList ++ d.value ++ ['"']]

def printDeclarations (ds : List Declaration) : Text := unlines (ds.flatMap Declaration.print)

/-- What is declared by lines that are numbered from `n` on; a variable stands below its note. -/
def declaredFrom (n : Nat) : List Declaration → List Variable
  | [] => []
  | d :: ds =>
    ⟨d.name.text, d.value, (n + d.note.toList.length : Nat), d.note⟩ :: declaredFrom (n + d.print.length) ds

theorem Declaration.print_eq_writtenLines (d : Declaration) :
    d.print = writtenLines d.note d.name.text ('"' :: d.value ++ ['"']) := by
  unfold Declaration.print writtenLines
  rw [List.append_assoc, List.append_assoc]
  rfl

theorem Declaration.length_print (d : Declaration) : d.print.length = d.note.toList.length + 1 := by
  unfold Declaration.print
  cases d.note <;> rfl

theorem Declaration.oneLine_print (d : Declaration) : ∀ line ∈ d.print, '\n' ∉ line := by
  have hquoted : '\n' ∉ '"' :: d.value ++ ['"'] :=
    List.not_mem_append (List.not_mem_cons_of_ne_of_not_mem (by decide) d.oneLine) (by decide)
  rw [d.print_eq_writtenLines]
  exact oneLine_writtenLines d.isNote d.name.isName hquoted

theorem lines_printDeclarations {ds : List Declaration} (h : ds ≠ []) :
    lines (printDeclarations ds) = ds.flatMap Declaration.print := by
  refine splitOn_joinWith '\n' _ (fun hnil => ?_) fun line hline => ?_
  · obtain ⟨d, hd⟩ := List.exists_mem_of_ne_nil ds h
    have hlength := d.length_print
    rw [List.flatMap_eq_nil_iff.1 hnil d hd] at hlength
    cases hlength
  · obtain ⟨d, -, hline⟩ := List.mem_flatMap.1 hline
    exact d.oneLine_print line hline

theorem variablesFrom_print : ∀ (ds : List Declaration) (n : Nat),
    variablesFrom n none (ds.flatMap Declaration.print) = declaredFrom n ds
  | [], _ => rfl
  | d :: ds, n => by
    rw [List.flatMap_cons, d.print_eq_writtenLines, variablesFrom_written n d.isNote d.name.isName, trim_quoted,
      unquote_quoted (Or.inl rfl), Nat.add_assoc, ← d.length_print, variablesFrom_print ds, declaredFrom]

theorem readEnv_printDeclarations (ds : List Declaration) : readEnv (printDeclarations ds) = declaredFrom 1 ds := by
  cases ds with
  | nil => rfl
  | cons d ds =>
    unfold readEnv
    rw [lines_printDeclarations (List.cons_ne_nil d ds), variablesFrom_print]

/-! ## Values without quotes -/

/-- Two equal quotes enclose the value. -/
def InQuotes (value : Text) : Prop := ∃ q inner, (q = '"' ∨ q = '\'') ∧ value = q :: inner ++ [q]

theorem Unquoted.length_le {written value : Text} (h : Unquoted written value) : value.length ≤ written.length := by
  cases h with
  | quoted q inner hq => simp +arith
  | plain => exact Nat.le_refl _

theorem unquote_trim_eq_self_iff (value : Text) :
    unquote (trim value) = value ↔ trim value = value ∧ ¬ InQuotes value := by
  constructor
  · intro h
    have hlength := ((unquote_iff (trim value) value).1 h).length_le
    have htrim : trim value = value :=
      (strip_isInfix isBlank value).eq_of_length (Nat.le_antisymm (strip_isInfix isBlank value).length_le hlength)
    rw [htrim] at h
    exact ⟨htrim, (unquote_eq_self_iff value).1 h⟩
  · rintro ⟨htrim, hquotes⟩
    rw [htrim]
    exact (unquote_eq_self_iff value).2 hquotes

theorem readEnv_assigned (name : VariableName) {value : Text} (h : '\n' ∉ value) :
    readEnv (name.text ++ '=' :: value) = [⟨name.text, unquote (trim value), 1, none⟩] := by
  have hnote : ∀ said ∈ (none : Option Text), IsNote said := nofun
  have hline := oneLine_writtenLines hnote name.isName h _ (List.mem_singleton_self _)
  unfold readEnv lines
  rw [splitOn_of_not_mem '\n' _ hline]
  exact variablesFrom_written 1 hnote name.isName value []

/-- The line that gives a name this value declares that and nothing else. -/
def ReadsBack (name : VariableName) (value : Text) : Prop :=
  ∃ v, readEnv (name.text ++ '=' :: value) = [v] ∧ v.key = name.text ∧ v.value = value

theorem readsBack_iff (name : VariableName) (value : Text) :
    ReadsBack name value ↔ '\n' ∉ value ∧ trim value = value ∧ ¬ InQuotes value := by
  constructor
  · rintro ⟨v, hread, -, hvalue⟩
    have hwell := wellFormed_of_mem_readEnv _ v (hread ▸ List.mem_singleton_self v)
    have hline : '\n' ∉ value := hvalue ▸ hwell.value
    rw [readEnv_assigned name hline] at hread
    obtain rfl := List.singleton_inj.1 hread
    exact ⟨hline, (unquote_trim_eq_self_iff value).1 hvalue⟩
  · rintro ⟨hline, hsame⟩
    exact ⟨_, readEnv_assigned name hline, rfl, (unquote_trim_eq_self_iff value).2 hsame⟩

/-- **What is written is read back**: between quotes every value is, each variable with its note and on its line, and
without quotes exactly those that neither begin nor end with white space and are in no quotes of their own. -/
theorem readEnv_writtenBack :
    (∀ ds : List Declaration, readEnv (printDeclarations ds) = declaredFrom 1 ds) ∧
      ∀ (name : VariableName) (value : Text),
        ReadsBack name value ↔ '\n' ∉ value ∧ trim value = value ∧ ¬ InQuotes value :=
  ⟨readEnv_printDeclarations, readsBack_iff⟩

end EnvAudit

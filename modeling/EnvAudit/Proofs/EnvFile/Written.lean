import EnvAudit.Proofs.EnvFile.Reading
import EnvAudit.Proofs.Text.Split
/-!
# Written variables

What is read from a text has a form: a key is a name, a value stays on one line, and a comment says something on one
line and has no white space around it (`wellFormed_of_mem_readEnv`).  A variable of that form can be written below its
comment, and then the two lines are read as that variable, with the comment it has and the value that is written
(`variablesFrom_written`).
-/
namespace EnvAudit

/-! ## The form of what is read -/

structure IsNote (note : Text) : Prop where
  ne_nil : note ≠ []
  bare : Bare isBlank note
  oneLine : '\n' ∉ note

structure Variable.WellFormed (v : Variable) : Prop where
  key : IsName v.key
  value : '\n' ∉ v.value
  comment : ∀ note ∈ v.comment, IsNote note

theorem Unquoted.subset {written value : Text} (h : Unquoted written value) : ∀ c ∈ value, c ∈ written := by
  cases h with
  | quoted q inner hq => exact fun c hc => by simp [hc]
  | plain => exact fun c hc => hc

theorem CommentLine.isNote {line note : Text} (h : CommentLine line note) (hline : '\n' ∉ line) (hne : note ≠ []) :
    IsNote note := by
  obtain ⟨rest, hrest, rfl⟩ := h
  refine ⟨hne, bare_strip isBlank rest, fun hmem => ?_⟩
  have hstripped : '\n' ∈ trim line := by
    rw [hrest]
    exact List.mem_cons_of_mem '#' (mem_of_mem_strip hmem)
  exact hline (mem_of_mem_strip hstripped)

theorem AssignmentLine.oneLine {line key rest value : Text} (h : AssignmentLine line key rest)
    (hvalue : Unquoted (trim rest) value) (hline : '\n' ∉ line) : '\n' ∉ value := by
  obtain ⟨-, gap, hrest, -⟩ := h
  intro hmem
  have hrestMem : '\n' ∈ rest := mem_of_mem_strip (hvalue.subset _ hmem)
  have hstripped : '\n' ∈ trim line := by
    rw [hrest]
    simp [hrestMem]
  exact hline (mem_of_mem_strip hstripped)

theorem wellFormed_of_mem_variablesFrom : ∀ (ls : List Text) (n : Nat) (waiting : Option Text),
    (∀ line ∈ ls, '\n' ∉ line) → (∀ note ∈ waiting, IsNote note) → ∀ v ∈ variablesFrom n waiting ls, v.WellFormed
  | [], _, _, _, _ => fun v hv => by cases hv
  | line :: ls, n, waiting, hlines, hwaiting => by
    have hline : '\n' ∉ line := hlines line (by simp)
    have hnone : ∀ note ∈ (none : Option Text), IsNote note := fun note hnote => by cases hnote
    have ih := fun waiting => wellFormed_of_mem_variablesFrom ls (n + 1) waiting fun l hl => hlines l (by simp [hl])
    rw [variablesFrom]
    cases hclass : classify line with
    | blank => exact ih none hnone
    | junk => exact ih waiting hwaiting
    | comment said =>
      obtain ⟨text, htext, rfl⟩ := (classify_comment_iff line said).1 hclass
      refine ih _ fun note hnote => ?_
      split at hnote
      · cases hnote
      · rename_i hne
        cases hnote
        exact htext.isNote hline hne
    | assignment key value =>
      obtain ⟨rest, hassign, hvalue⟩ := (classify_assignment_iff line key value).1 hclass
      intro v hv
      rcases List.mem_cons.1 hv with rfl | hv
      · exact ⟨hassign.1, hassign.oneLine hvalue hline, hwaiting⟩
      · exact ih none hnone v hv

theorem wellFormed_of_mem_readEnv (t : Text) : ∀ v ∈ readEnv t, v.WellFormed :=
  wellFormed_of_mem_variablesFrom (lines t) 1 none (not_mem_of_mem_splitOn '\n' t) fun note hnote => by cases hnote

/-! ## Lines that are written -/

def noteLine (note : Text) : Text := "# ".toList ++ note

def writtenLines (note : Option Text) (key written : Text) : List Text :=
  (note.map noteLine).toList ++ [key ++ '=' :: written]

theorem oneLine_writtenLines {note : Option Text} {key written : Text} (hnote : ∀ said ∈ note, IsNote said)
    (hkey : IsName key) (hwritten : '\n' ∉ written) : ∀ line ∈ writtenLines note key written, '\n' ∉ line := by
  have hname : '\n' ∉ key := fun hmem => ne_of_nameChar (hkey.all '\n' hmem) (by decide) rfl
  intro line hline
  rcases List.mem_append.1 hline with hline | hline
  · obtain ⟨said, hsaid, rfl⟩ := Option.map_eq_some_iff.1 (Option.mem_toList.1 hline)
    exact List.not_mem_append (by decide) (hnote said hsaid).oneLine
  · rw [List.mem_singleton.1 hline]
    exact List.not_mem_append hname (List.not_mem_cons_of_ne_of_not_mem (by decide) hwritten)

theorem classify_hash (rest : Text) : classify ('#' :: rest) = .comment (noteOf (trimEnd rest)) := by
  have htrim : trim ('#' :: rest) = '#' :: trimEnd rest := strip_append_cons isBlank '#' (by decide) [] rest
  unfold classify
  rw [htrim]
  rfl

theorem exists_classify_of_hash {line : Text} (h : ['#'] <+: line) : ∃ note, classify line = .comment note := by
  obtain ⟨rest, rfl⟩ := h
  exact ⟨_, classify_hash rest⟩

theorem classify_noteLine {note : Text} (h : IsNote note) : classify (noteLine note) = .comment (some note) := by
  have hspace : ∀ c ∈ [' '], isBlank c = true := fun c hc => by rw [List.mem_singleton.1 hc]; rfl
  have htrim : trim (trimEnd (' ' :: note)) = note := by
    calc trim (trimEnd (' ' :: note)) = trim ([' '] ++ note) := strip_stripEnd isBlank (' ' :: note)
      _ = trim note := strip_append_left isBlank [' '] note hspace
      _ = note := strip_of_bare isBlank note h.bare
  rw [show noteLine note = '#' :: ' ' :: note from rfl, classify_hash, noteOf, htrim, if_neg]
  simpa using h.ne_nil

theorem classify_assigned {key : Text} (h : IsName key) (written : Text) :
    classify (key ++ '=' :: written) = .assignment key (unquote (trim written)) := by
  have htrim : trim key = key := strip_of_bare isBlank key h.bare
  have hequals : '=' ∉ key := fun hmem => ne_of_nameChar (h.all '=' hmem) (by decide) rfl
  rw [classify_of_name hequals written (htrim.symm ▸ h), htrim]

/-- **What is written is read**: the key, the comment, and what the written value stands for. -/
theorem variablesFrom_written (n : Nat) {note : Option Text} {key : Text} (hnote : ∀ said ∈ note, IsNote said)
    (hkey : IsName key) (written : Text) (rest : List Text) :
    variablesFrom n none (writtenLines note key written ++ rest) =
      ⟨key, unquote (trim written), (n + note.toList.length : Nat), note⟩ ::
        variablesFrom (n + note.toList.length + 1) none rest := by
  cases note with
  | none =>
    rw [show writtenLines none key written ++ rest = (key ++ '=' :: written) :: rest from rfl, variablesFrom,
      classify_assigned hkey]
    rfl
  | some said =>
    rw [show writtenLines (some said) key written ++ rest = noteLine said :: (key ++ '=' :: written) :: rest from rfl,
      variablesFrom, classify_noteLine (hnote said rfl)]
    dsimp only
    rw [variablesFrom, classify_assigned hkey]
    rfl

end EnvAudit

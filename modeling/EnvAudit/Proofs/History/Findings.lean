import EnvAudit.History.Scan
import EnvAudit.Proofs.Text.Strip
import EnvAudit.Proofs.Walk
/-!
# What scanning a history finds

Scanning is a walk whose state is two marks, the commit and the file that were named last.  What a line does to them
is told by how it begins (`readLogLine_iff`), and so is what the marks are behind any lines: each is named by the
nearest line above with its lead (`marks_named`).  So the findings of a log can be told from its lines alone: one for
each added line that a signature knows, in order, each as `Reports` says (`scanHistory_onePerMatch`).
-/
namespace EnvAudit

/-! ## Lines without returns -/

theorem withoutReturns_eq_iff (line bare : Text) :
    withoutReturns line = bare ↔ bare.getLast? ≠ some '\r' ∧ ∃ n, line = bare ++ List.replicate n '\r' := by
  constructor
  · rintro rfl
    refine ⟨fun h => ?_, ?_⟩
    · have hlast := getLast?_stripEnd (fun c => decide (c = '\r')) line '\r' h
      simp at hlast
    · obtain ⟨gone, hline, hgone⟩ := exists_stripEnd (fun c => decide (c = '\r')) line
      have hall : ∀ c ∈ gone, c = '\r' := fun c hc => of_decide_eq_true (hgone c hc)
      exact ⟨gone.length, (List.eq_replicate_of_mem hall) ▸ hline⟩
  · rintro ⟨hlast, n, rfl⟩
    unfold withoutReturns
    rw [stripEnd_append_right _ _ _ (fun c hc => by simp [List.eq_of_mem_replicate hc])]
    exact stripEnd_of_last _ bare (fun c hc => decide_eq_false (fun he => hlast (he ▸ hc)))

/-- Returns at the end do not hide how a line begins. -/
theorem isPrefix_withoutReturns_iff {lead : Text} (h : '\r' ∉ lead) (line : Text) :
    lead <+: withoutReturns line ↔ lead <+: line := by
  obtain ⟨-, n, hline⟩ := (withoutReturns_eq_iff line _).1 rfl
  generalize withoutReturns line = bare at hline
  subst hline
  constructor
  · exact fun hlead => hlead.trans (List.prefix_append _ _)
  · intro hlead
    rcases List.prefix_or_prefix_of_prefix hlead (List.prefix_append bare _) with hbare | ⟨more, rfl⟩
    · exact hbare
    · rw [List.prefix_append_right_inj] at hlead
      cases more with
      | nil => exact (List.append_nil bare).symm ▸ List.prefix_refl bare
      | cons c more =>
        have hc : c = '\r' := List.eq_of_mem_replicate (hlead.subset List.mem_cons_self)
        exact absurd (by simp [hc]) h

theorem withoutReturns_cons {c : Char} (hc : c ≠ '\r') (line : Text) :
    withoutReturns (c :: line) = c :: withoutReturns line :=
  stripEnd_append_cons _ c (decide_eq_false hc) [] line

theorem not_prefix_of_head {c d : Char} (h : c ≠ d) (lead line : Text) : ¬ c :: lead <+: d :: line :=
  fun hlead => h (List.cons_prefix_cons.1 hlead).1

def logLines (log : Text) : List Text := (lines log).map withoutReturns

/-! ## What a line says

A line that begins with `+++` names a file or nothing; it never adds anything. -/

def commitLead : Text := "commit ".toList

def fileLead : Text := "+++ b/".toList

def headerLead : Text := "+++".toList

/-- The first seven characters of what a commit is named by. -/
def shortId (rest : Text) : Text := (trim rest).take 7

inductive Says : Text → LogLine → Prop
  | commit (rest : Text) : Says (commitLead ++ rest) (.commit (shortId rest))
  | file (path : Text) : Says (fileLead ++ path) (.file path)
  | header (line : Text) (h : headerLead <+: line) (hfile : ¬ fileLead <+: line) : Says line .other
  | added (content : Text) (h : ¬ headerLead <+: '+' :: content) : Says ('+' :: content) (.added content)
  | other (line : Text) (hcommit : ¬ commitLead <+: line) (hplus : ¬ ['+'] <+: line) : Says line .other

theorem not_commitLead_of_plus (rest : Text) : ¬ commitLead <+: '+' :: rest := by
  rintro ⟨t, ht⟩
  cases ht

theorem headerLead_of_fileLead {line : Text} (h : fileLead <+: line) : headerLead <+: line :=
  List.IsPrefix.trans ⟨" b/".toList, rfl⟩ h

theorem plus_of_headerLead {line : Text} (h : headerLead <+: line) : ['+'] <+: line :=
  List.IsPrefix.trans ⟨"++".toList, rfl⟩ h

/-- **What a line says**, by how it begins without its returns. -/
theorem readLogLine_iff (line : Text) (kind : LogLine) : readLogLine line = kind ↔ Says (withoutReturns line) kind := by
  unfold readLogLine
  generalize withoutReturns line = bare
  constructor
  · rintro rfl
    dsimp only
    split
    · rename_i rest hrest
      rw [after?_eq_some_iff.1 hrest]
      exact .commit rest
    · rename_i hafter
      have hcommit : ¬ commitLead <+: bare := after?_eq_none_iff.1 hafter
      clear hafter
      split
      · rename_i path hpath
        rw [after?_eq_some_iff.1 hpath]
        exact .file path
      · rename_i hafter
        have hfile : ¬ fileLead <+: bare := after?_eq_none_iff.1 hafter
        clear hafter
        split
        · rename_i hstarts
          exact .header bare (startsWith_iff.1 hstarts) hfile
        · rename_i hstarts
          have hheader : ¬ headerLead <+: bare := fun h => hstarts (startsWith_iff.2 h)
          clear hstarts
          split
          · rename_i content
            exact .added content hheader
          · rename_i hplus
            exact .other _ hcommit (fun ⟨content, h⟩ => hplus content h.symm)
  · intro h
    dsimp only
    cases h with
    | commit rest => rw [show after? "commit ".toList (commitLead ++ rest) = some rest from after?_eq_some_iff.2 rfl]; rfl
    | file path =>
      rw [show after? "commit ".toList (fileLead ++ path) = none from
          after?_eq_none_iff.2 (not_commitLead_of_plus _),
        show after? "+++ b/".toList (fileLead ++ path) = some path from after?_eq_some_iff.2 rfl]
    | header _ h hfile =>
      obtain ⟨rest, rfl⟩ := h
      rw [show after? "commit ".toList (headerLead ++ rest) = none from
          after?_eq_none_iff.2 (not_commitLead_of_plus _),
        show after? "+++ b/".toList (headerLead ++ rest) = none from after?_eq_none_iff.2 hfile,
        show startsWith "+++".toList (headerLead ++ rest) = true from startsWith_iff.2 ⟨rest, rfl⟩]
      rfl
    | added content h =>
      rw [show after? "commit ".toList ('+' :: content) = none from
          after?_eq_none_iff.2 (not_commitLead_of_plus _),
        show after? "+++ b/".toList ('+' :: content) = none from
          after?_eq_none_iff.2 (fun hf => h (headerLead_of_fileLead hf)),
        show startsWith "+++".toList ('+' :: content) = false from
          Bool.eq_false_iff.2 (fun hs => h (startsWith_iff.1 hs))]
      rfl
    | other _ hcommit hplus =>
      have hheader : ¬ headerLead <+: bare := fun h => hplus (plus_of_headerLead h)
      rw [show after? "commit ".toList bare = none from after?_eq_none_iff.2 hcommit,
        show after? "+++ b/".toList bare = none from
          after?_eq_none_iff.2 (fun hf => hheader (headerLead_of_fileLead hf)),
        show startsWith "+++".toList bare = false from
          Bool.eq_false_iff.2 (fun hs => hheader (startsWith_iff.1 hs))]
      dsimp only
      rw [if_neg (by decide)]
      split
      · rename_i content
        exact absurd ⟨content, rfl⟩ hplus
      · rfl

theorem not_commitLead_of_readLogLine {line : Text} {kind : LogLine} (h : readLogLine line = kind)
    (hkind : ∀ id, kind ≠ .commit id) : ¬ commitLead <+: withoutReturns line := by
  rintro ⟨rest, hrest⟩
  have hsays : Says (withoutReturns line) (.commit (shortId rest)) := by
    rw [← hrest]
    exact .commit rest
  exact hkind _ (h.symm.trans ((readLogLine_iff line _).2 hsays))

theorem not_fileLead_of_readLogLine {line : Text} {kind : LogLine} (h : readLogLine line = kind)
    (hkind : ∀ path, kind ≠ .file path) : ¬ fileLead <+: withoutReturns line := by
  rintro ⟨path, hpath⟩
  have hsays : Says (withoutReturns line) (.file path) := by
    rw [← hpath]
    exact .file path
  exact hkind _ (h.symm.trans ((readLogLine_iff line _).2 hsays))

/-! ## The walk -/

structure Marks where
  commit : Text
  file : Text

def scanStep (table : List Signature) (m : Marks) (line : Text) : Marks × Option HistoryFinding :=
  match readLogLine line with
  | .commit id => (⟨id, m.file⟩, none)
  | .file path => (⟨m.commit, path⟩, none)
  | .other => (m, none)
  | .added content => (m, (firstMatch table content).map fun s => ⟨m.commit, m.file, excerpt content, s.name⟩)

theorem scanLines_eq_walk (table : List Signature) : ∀ (commit file : Text) (ls : List Text),
    scanLines table commit file ls = walk (scanStep table) ⟨commit, file⟩ ls
  | _, _, [] => rfl
  | commit, file, line :: rest => by
    rw [scanLines, walk, scanStep]
    cases readLogLine line with
    | commit id => exact scanLines_eq_walk table _ _ rest
    | file path => exact scanLines_eq_walk table _ _ rest
    | other => exact scanLines_eq_walk table _ _ rest
    | added content =>
      dsimp only
      cases firstMatch table content with
      | none => exact scanLines_eq_walk table _ _ rest
      | some s => exact congrArg (_ :: ·) (scanLines_eq_walk table _ _ rest)

theorem scanHistory_eq_walk (table : List Signature) (log : Text) :
    scanHistory table log = walk (scanStep table) ⟨[], []⟩ (lines log) := scanLines_eq_walk table [] [] _

theorem scanStep_eq_some_iff (table : List Signature) (m : Marks) (line : Text) (f : HistoryFinding) :
    (scanStep table m line).2 = some f ↔ ∃ content s, readLogLine line = .added content ∧
      firstMatch table content = some s ∧ f = ⟨m.commit, m.file, excerpt content, s.name⟩ := by
  unfold scanStep
  cases hline : readLogLine line with
  | added content =>
    rw [Option.map_eq_some_iff]
    constructor
    · rintro ⟨s, hs, rfl⟩
      exact ⟨content, s, rfl, hs, rfl⟩
    · rintro ⟨content', s, h, hs, rfl⟩
      obtain rfl := LogLine.added.inj h
      exact ⟨s, hs, rfl⟩
  | _ => simp

/-! ## The marks -/

/-- The nearest line above with this lead gives the name; without one it is empty. -/
def NamedBy (lead : Text) (read : Text → Text) (earlier : List Text) (name : Text) : Prop :=
  (∃ rest, Latest (lead <+: ·) earlier (lead ++ rest) ∧ name = read rest) ∨
    (∀ line ∈ earlier, ¬ lead <+: line) ∧ name = []

theorem namedBy_nil (lead : Text) (read : Text → Text) : NamedBy lead read [] [] :=
  Or.inr ⟨fun _ h => (List.not_mem_nil h).elim, rfl⟩

theorem namedBy_concat_of_lead (lead : Text) (read : Text → Text) (earlier : List Text) (rest : Text) :
    NamedBy lead read (earlier ++ [lead ++ rest]) (read rest) :=
  Or.inl ⟨rest, (latest_concat_of_pos (lead <+: ·) earlier _ (List.prefix_append lead rest)).2 rfl, rfl⟩

theorem NamedBy.concat {lead : Text} {read : Text → Text} {earlier : List Text} {name line : Text}
    (h : NamedBy lead read earlier name) (hline : ¬ lead <+: line) : NamedBy lead read (earlier ++ [line]) name := by
  obtain ⟨rest, hlatest, hname⟩ | ⟨hnone, hname⟩ := h
  · exact Or.inl ⟨rest, (latest_concat_of_neg (lead <+: ·) earlier _ hline).2 hlatest, hname⟩
  · refine Or.inr ⟨fun l hl => ?_, hname⟩
    rcases List.mem_append.1 hl with hl | hl
    · exact hnone l hl
    · rwa [List.mem_singleton.1 hl]

structure Marks.Named (earlier : List Text) (m : Marks) : Prop where
  commit : NamedBy commitLead shortId earlier m.commit
  file : NamedBy fileLead id earlier m.file

/-- **The marks behind some lines** are what the nearest leads above say. -/
theorem marks_named (table : List Signature) (ls : List Text) :
    (walkEnd (scanStep table) ⟨[], []⟩ ls).Named (ls.map withoutReturns) := by
  refine walkEnd_induct (scanStep table) _ (fun ls m => m.Named (ls.map withoutReturns))
    ⟨namedBy_nil _ _, namedBy_nil _ _⟩ (fun ls m line ih => ?_) ls
  rw [List.map_append, List.map_singleton]
  unfold scanStep
  cases hline : readLogLine line with
  | commit name =>
    have hfile := not_fileLead_of_readLogLine hline (fun _ h => nomatch h)
    have hsays := (readLogLine_iff line _).1 hline
    refine ⟨?_, ih.file.concat hfile⟩
    generalize withoutReturns line = bare at hsays
    cases hsays with
    | commit rest => exact namedBy_concat_of_lead commitLead shortId _ rest
  | file path =>
    have hcommit := not_commitLead_of_readLogLine hline (fun _ h => nomatch h)
    have hsays := (readLogLine_iff line _).1 hline
    refine ⟨ih.commit.concat hcommit, ?_⟩
    generalize withoutReturns line = bare at hsays
    cases hsays with
    | file path => exact namedBy_concat_of_lead fileLead id _ path
  | added content =>
    have hcommit := not_commitLead_of_readLogLine hline (fun _ h => nomatch h)
    have hfile := not_fileLead_of_readLogLine hline (fun _ h => nomatch h)
    exact ⟨ih.commit.concat hcommit, ih.file.concat hfile⟩
  | other =>
    have hcommit := not_commitLead_of_readLogLine hline (fun _ h => nomatch h)
    have hfile := not_fileLead_of_readLogLine hline (fun _ h => nomatch h)
    exact ⟨ih.commit.concat hcommit, ih.file.concat hfile⟩

/-! ## Findings by line -/

/-- The first entry of a table that knows the content. -/
def FirstKnown (table : List Signature) (content : Text) (s : Signature) : Prop :=
  s.matches content = true ∧ ∃ before after, table = before ++ s :: after ∧ ∀ x ∈ before, x.matches content = false

theorem firstMatch_eq_some_iff (table : List Signature) (content : Text) (s : Signature) :
    firstMatch table content = some s ↔ FirstKnown table content s := by
  unfold firstMatch FirstKnown
  rw [List.find?_eq_some_iff_append]
  simp only [Bool.not_eq_true']

theorem firstMatch_isSome_iff (table : List Signature) (content : Text) :
    (firstMatch table content).isSome ↔ ∃ s ∈ table, s.matches content = true := List.find?_isSome

/-- All of a content of up to eighty characters, else its beginning and three dots. -/
inductive Shortened (content : Text) : Text → Prop
  | whole (h : content.length ≤ 80) : Shortened content content
  | cut (h : 80 < content.length) : Shortened content (content.take 80 ++ "...".toList)

theorem shortened_excerpt (content : Text) : Shortened content (excerpt content) := by
  unfold excerpt excerptAt excerptLength
  split
  · rename_i h
    exact .cut (by omega)
  · rename_i h
    exact .whole (by omega)

/-- The line at a place adds this content. -/
def AddsAt (ls : List Text) (i : Nat) (content : Text) : Prop :=
  ls[i]? = some ('+' :: content) ∧ ¬ headerLead <+: '+' :: content

def AddsKnown (table : List Signature) (ls : List Text) (i : Nat) : Prop :=
  ∃ content, AddsAt ls i content ∧ ∃ s ∈ table, s.matches content = true

/-- What is reported of the line at a place, by the line and those before it. -/
structure Reports (table : List Signature) (ls : List Text) (i : Nat) (f : HistoryFinding) : Prop where
  commit : NamedBy commitLead shortId (ls.take i) f.commit
  file : NamedBy fileLead id (ls.take i) f.file
  content : ∃ content s, AddsAt ls i content ∧ Shortened content f.excerpt ∧
    FirstKnown table content s ∧ f.signature = s.name

theorem addsAt_logLines_iff (log : Text) (i : Nat) (content : Text) :
    AddsAt (logLines log) i content ↔ ∃ line, (lines log)[i]? = some line ∧ readLogLine line = .added content := by
  unfold AddsAt logLines
  rw [List.getElem?_map]
  constructor
  · rintro ⟨h, hheader⟩
    obtain ⟨line, hline, hbare⟩ := Option.map_eq_some_iff.1 h
    exact ⟨line, hline, (readLogLine_iff line _).2 (hbare ▸ .added content hheader)⟩
  · rintro ⟨line, hline, hadded⟩
    have hsays := (readLogLine_iff line _).1 hadded
    rw [hline, Option.map_some]
    generalize withoutReturns line = bare at hsays
    cases hsays with
    | added content hheader => exact ⟨rfl, hheader⟩

theorem resultAt_scanStep_iff (table : List Signature) (log : Text) (i : Nat) (f : HistoryFinding) :
    ResultAt (scanStep table) ⟨[], []⟩ (lines log) i f ↔ ∃ content s, AddsAt (logLines log) i content ∧
      firstMatch table content = some s ∧
      f = ⟨(walkEnd (scanStep table) ⟨[], []⟩ ((lines log).take i)).commit,
        (walkEnd (scanStep table) ⟨[], []⟩ ((lines log).take i)).file, excerpt content, s.name⟩ := by
  constructor
  · rintro ⟨line, hline, hf⟩
    obtain ⟨content, s, hadded, hs, rfl⟩ := (scanStep_eq_some_iff table _ line f).1 hf
    exact ⟨content, s, (addsAt_logLines_iff log i content).2 ⟨line, hline, hadded⟩, hs, rfl⟩
  · rintro ⟨content, s, hadds, hs, rfl⟩
    obtain ⟨line, hline, hadded⟩ := (addsAt_logLines_iff log i content).1 hadds
    exact ⟨line, hline, (scanStep_eq_some_iff table _ line _).2 ⟨content, s, hadded, hs, rfl⟩⟩

/-- **The findings of a log**: one for each added line that a signature knows, in order, and each is what the lines
above it and the table say. -/
theorem scanHistory_onePerMatch (table : List Signature) (log : Text) :
    OnePerPlace (AddsKnown table (logLines log)) (Reports table (logLines log)) (scanHistory table log) := by
  rw [scanHistory_eq_walk]
  refine (onePerPlace_walk (scanStep table) ⟨[], []⟩ (lines log)).congr (fun i => ?_) (fun i f h => ?_)
  · constructor
    · rintro ⟨f, hf⟩
      obtain ⟨content, s, hadds, hs, -⟩ := (resultAt_scanStep_iff table log i f).1 hf
      exact ⟨content, hadds, (firstMatch_isSome_iff table content).1 (Option.isSome_of_eq_some hs)⟩
    · rintro ⟨content, hadds, hknown⟩
      obtain ⟨s, hs⟩ := Option.isSome_iff_exists.1 ((firstMatch_isSome_iff table content).2 hknown)
      exact ⟨_, (resultAt_scanStep_iff table log i _).2 ⟨content, s, hadds, hs, rfl⟩⟩
  · obtain ⟨content, s, hadds, hs, rfl⟩ := (resultAt_scanStep_iff table log i f).1 h
    have hmarks := marks_named table ((lines log).take i)
    rw [List.map_take] at hmarks
    exact ⟨hmarks.commit, hmarks.file, content, s, hadds, shortened_excerpt content,
      (firstMatch_eq_some_iff table content s).1 hs, rfl⟩

end EnvAudit

import EnvAudit.Proofs.History.Origin
import EnvAudit.Proofs.History.Printed
import EnvAudit.Proofs.Text.PrintedPath
/-!
# Histories by section

A section names its file in a header, `+++ b/` and the path.  A path that needs escapes is printed between quotes, header
and all.  The scan knows the plain spelling only and passes over the other, so all that is reported in a section has its
path from one place (`FileSection.walks`): from its own header if that is plain, and else from the last plain header
above, if there is one.  So the findings have paths of their own sections exactly if no line that is known stands in a
section without a plain header, below a section with one (`takesOwnPaths_printHistory_iff`).
-/
namespace EnvAudit

/-! ## Histories as they are printed

What the lines of a history may say is left open but for how they begin: none that is no addition begins like one, and
none inside of a section begins like a section. -/

def LineText.behind (lead : Text) (h : '\n' ∉ lead) (t : LineText) : LineText :=
  ⟨lead ++ t.text, List.not_mem_append h t.oneLine⟩

structure QuietLine extends LineText where
  noStart : ¬ sectionLead <+: text
  noAddition : ¬ ['+'] <+: text

inductive HunkLine where
  | added (content : LineText) (plain : ¬ "++".toList <+: content.text)
  | other (line : QuietLine)

/-- What a section shows of the file as it has become. -/
inductive PostImage where
  | file (path : Bytes) (hunks : List HunkLine)
  | gone (hunks : List QuietLine)
  /-- Such as a file that is only renamed, or one that is no text. -/
  | unshown

structure FileSection where
  names : LineText
  headers : List QuietLine
  image : PostImage

structure LoggedCommit where
  name : LineText
  about : List QuietLine
  sections : List FileSection

def HunkLine.print : HunkLine → LineText
  | .added content _ => content.behind ['+'] (by decide)
  | .other line => line.toLineText

/-- The header that names a path, between quotes if the path needs it. -/
def postHeader (path : Bytes) : LineText :=
  LineText.behind "+++ ".toList (by decide) ⟨printedPath (encode "b/".toList ++ path), newline_not_mem_printedPath _⟩

def PostImage.print : PostImage → List LineText
  | .file path hunks => postHeader path :: hunks.map HunkLine.print
  | .gone hunks => ⟨"+++ /dev/null".toList, by decide⟩ :: hunks.map QuietLine.toLineText
  | .unshown => []

def FileSection.print (s : FileSection) : List LineText :=
  s.names.behind sectionLead (by decide) :: s.headers.map QuietLine.toLineText ++ s.image.print

def LoggedCommit.print (c : LoggedCommit) : List LineText :=
  c.name.behind commitLead (by decide) :: c.about.map QuietLine.toLineText ++ c.sections.flatMap FileSection.print

def emptyLine : LineText := ⟨[], List.not_mem_nil⟩

/-- The commits of a history, with an empty line between two. -/
def loggedLines (history : List LoggedCommit) : List LineText :=
  joinWith [emptyLine] (history.map LoggedCommit.print) ++ [emptyLine]

def printHistory (history : List LoggedCommit) : Text := unlines ((loggedLines history).map LineText.text)

def sectionsOf (history : List LoggedCommit) : List FileSection := history.flatMap LoggedCommit.sections

/-! ## What a section holds -/

/-- The header is plain, without quotes. -/
def PostImage.namesFile : PostImage → Bool
  | .file path _ => !path.any needsEscape
  | _ => false

def HunkLine.isKnown (table : List Signature) : HunkLine → Bool
  | .added content _ => (firstMatch table (withoutReturns content.text)).isSome
  | .other _ => false

/-- How many added lines are reported. -/
def PostImage.countKnown (table : List Signature) : PostImage → Nat
  | .file _ hunks => hunks.countP (HunkLine.isKnown table)
  | _ => 0

/-! ## Where the paths of a section come from -/

/-- Where the path comes from below the header. -/
def PostImage.originIn (image : PostImage) (o : Origin) : Origin := if image.namesFile then .here else o

def FileSection.originIn (s : FileSection) (o : Origin) : Origin := s.image.originIn o.atStart

def sectionOrigins (table : List Signature) (o : Origin) : List FileSection → List Origin
  | [] => []
  | s :: ss => List.replicate (s.image.countKnown table) (s.originIn o) ++ sectionOrigins table (s.originIn o) ss

def originBehind (o : Origin) (ss : List FileSection) : Origin := ss.foldl (fun o s => s.originIn o) o

theorem sectionOrigins_append (table : List Signature) : ∀ (o : Origin) (ss ts : List FileSection),
    sectionOrigins table o (ss ++ ts) = sectionOrigins table o ss ++ sectionOrigins table (originBehind o ss) ts
  | _, [], _ => rfl
  | o, s :: ss, ts => by
    rw [List.cons_append, sectionOrigins, sectionOrigins, sectionOrigins_append table _ ss ts, List.append_assoc]
    rfl

theorem mem_sectionOrigins_iff {table : List Signature} {x : Origin} : ∀ {ss : List FileSection} {o : Origin},
    x ∈ sectionOrigins table o ss ↔ ∃ before s after, ss = before ++ s :: after ∧ 0 < s.image.countKnown table ∧
      s.originIn (originBehind o before) = x
  | [], o => by
    refine iff_of_false List.not_mem_nil ?_
    rintro ⟨before, s, after, h, -⟩
    exact List.append_ne_nil_of_right_ne_nil before (List.cons_ne_nil s after) h.symm
  | s :: ss, o => by
    rw [sectionOrigins, List.mem_append, List.mem_replicate, mem_sectionOrigins_iff]
    constructor
    · rintro (⟨hknown, rfl⟩ | ⟨before, t, after, rfl, hknown, ht⟩)
      · exact ⟨[], s, ss, rfl, Nat.pos_of_ne_zero hknown, rfl⟩
      · exact ⟨s :: before, t, after, rfl, hknown, ht⟩
    · rintro ⟨before, t, after, h, hknown, ht⟩
      cases before with
      | nil =>
        obtain ⟨rfl, rfl⟩ := List.cons.inj h
        exact .inl ⟨Nat.ne_of_gt hknown, ht.symm⟩
      | cons u before =>
        obtain ⟨rfl, rfl⟩ := List.cons.inj h
        exact .inr ⟨before, t, after, rfl, hknown, ht⟩

theorem originBehind_eq_nowhere_iff : ∀ {ss : List FileSection},
    originBehind .nowhere ss = .nowhere ↔ ∀ t ∈ ss, ¬ t.image.namesFile := by
  intro ss
  induction ss using List.reverseRecOn with
  | nil => exact iff_of_true rfl nofun
  | append_singleton ss t ih =>
    unfold originBehind at ih ⊢
    rw [List.foldl_append, List.forall_mem_append, List.forall_mem_singleton, ← ih]
    change t.originIn _ = _ ↔ _
    unfold FileSection.originIn PostImage.originIn
    by_cases ht : t.image.namesFile
    · rw [if_pos ht]
      exact iff_of_false nofun fun h => h.2 ht
    · rw [if_neg ht, Origin.atStart_eq_nowhere_iff, and_iff_left ht]

/-- **The sections with a path from elsewhere** have no plain header and stand below one that has. -/
theorem originIn_eq_elsewhere_iff {before : List FileSection} {s : FileSection} :
    s.originIn (originBehind .nowhere before) = .elsewhere ↔ ¬ s.image.namesFile ∧ ∃ t ∈ before, t.image.namesFile := by
  unfold FileSection.originIn PostImage.originIn
  by_cases hs : s.image.namesFile
  · rw [if_pos hs]
    exact iff_of_false nofun fun h => h.1 hs
  · rw [if_neg hs, Origin.atStart_eq_elsewhere_iff, and_iff_right hs, ne_eq, originBehind_eq_nowhere_iff]
    push Not
    rfl

/-! ## The lines of a history -/

/-- A line as the scan sees it. -/
def LineText.bare (l : LineText) : Text := withoutReturns l.text

theorem logLines_printHistory (history : List LoggedCommit) :
    logLines (printHistory history) = (loggedLines history).map LineText.bare := by
  have hlines : lines (printHistory history) = (loggedLines history).map LineText.text := by
    refine splitOn_joinWith '\n' _ (by simp [loggedLines]) fun line hline => ?_
    obtain ⟨l, -, rfl⟩ := List.mem_map.1 hline
    exact l.oneLine
  unfold logLines
  rw [hlines, List.map_map]
  rfl

variable (table : List Signature) (o : Origin)

/-- Going along the lines as they are printed. -/
def lineStep (line : LineText) : Origin × Option Origin := originStep table o line.bare

theorem originStep_of_quiet {line : Text} (hstart : ¬ sectionLead <+: line) (hplus : ¬ ['+'] <+: line) :
    originStep table o line = (o, none) := by
  have hfile : ¬ fileLead <+: line := fun h => hplus (plus_of_headerLead (headerLead_of_fileLead h))
  unfold originStep Origin.behind
  rw [if_neg hfile, if_neg hstart, addsKnown_of_not_plus hplus]
  rfl

theorem lineStep_quietLine (line : QuietLine) : lineStep table o line.toLineText = (o, none) := by
  refine originStep_of_quiet table o (fun h => line.noStart ?_) fun h => line.noAddition ?_
  · exact (isPrefix_withoutReturns_iff (by decide) _).1 h
  · exact (isPrefix_withoutReturns_iff (by decide) _).1 h

theorem walks_quiet (ls : List QuietLine) :
    Walks (lineStep table) o (ls.map QuietLine.toLineText) [] o := by
  refine walks_of_still _ fun l hl => ?_
  obtain ⟨line, -, rfl⟩ := List.mem_map.1 hl
  exact lineStep_quietLine table o line

theorem lineStep_hunkLine (line : HunkLine) :
    lineStep table o line.print = (o, if line.isKnown table then some o else none) := by
  cases line with
  | other line => exact lineStep_quietLine table o line
  | added content plain =>
    have hplain : ¬ "++".toList <+: withoutReturns content.text := fun h =>
      plain ((isPrefix_withoutReturns_iff (by decide) _).1 h)
    have hbare : (HunkLine.added content plain).print.bare = '+' :: withoutReturns content.text :=
      withoutReturns_cons (by decide) content.text
    have hfile : ¬ fileLead <+: '+' :: withoutReturns content.text := fun h =>
      hplain ((List.prefix_cons_inj '+').1 (headerLead_of_fileLead h))
    have hstart : ¬ sectionLead <+: '+' :: withoutReturns content.text := not_prefix_of_head (by decide) _ _
    have hstarts : startsWith "++".toList (withoutReturns content.text) = false :=
      Bool.eq_false_iff.2 fun h => hplain (startsWith_iff.1 h)
    unfold lineStep originStep Origin.behind
    rw [hbare, if_neg hfile, if_neg hstart, addsKnown, hstarts]
    rfl

theorem walks_hunks : ∀ hunks : List HunkLine, Walks (lineStep table) o (hunks.map HunkLine.print)
    (List.replicate (hunks.countP (HunkLine.isKnown table)) o) o
  | [] => ⟨rfl, rfl⟩
  | line :: hunks => by
    have hall := (walks_hunks hunks).cons (lineStep_hunkLine table o line)
    by_cases hknown : line.isKnown table
    · rw [if_pos hknown] at hall
      rw [List.countP_cons_of_pos hknown]
      exact hall
    · rw [if_neg hknown] at hall
      rw [List.countP_cons_of_neg hknown]
      exact hall

/-! ## Headers -/

/-- **A header names its path** to the scan exactly if the path is printed as it is. -/
theorem fileLead_postHeader_iff (path : Bytes) : fileLead <+: (postHeader path).bare ↔ path.any needsEscape = false := by
  have hlead : fileLead <+: (postHeader path).bare ↔
      "b/".toList <+: printedPath (encode "b/".toList ++ path) := by
    unfold LineText.bare
    rw [isPrefix_withoutReturns_iff (by decide)]
    exact List.prefix_append_right_inj "+++ ".toList
  have hany : (encode "b/".toList ++ path).any needsEscape = path.any needsEscape := by
    rw [List.any_append, show (encode "b/".toList).any needsEscape = false by decide, Bool.false_or]
  rw [hlead]
  unfold printedPath
  rw [hany]
  cases path.any needsEscape with
  | true => exact iff_of_false (not_prefix_of_head (by decide) _ _) nofun
  | false =>
    refine iff_of_true ?_ rfl
    rw [if_neg Bool.false_ne_true, List.map_append]
    exact List.prefix_append "b/".toList _

example : (postHeader (encode ".env.é".toList)).text = "+++ \"b/.env.\\303\\251\"".toList := by decide

theorem originStep_of_header {line : Text} (h : headerLead <+: line) :
    originStep table o line = (if fileLead <+: line then .here else o, none) := by
  obtain ⟨rest, rfl⟩ := h
  have hstart : ¬ sectionLead <+: headerLead ++ rest := not_prefix_of_head (by decide) _ _
  have hknown : addsKnown table (headerLead ++ rest) = false := by
    rw [Bool.eq_false_iff, ne_eq, show headerLead ++ rest = '+' :: ("++".toList ++ rest) from rfl, addsKnown_cons_iff]
    exact fun h => h.1 (List.prefix_append headerLead rest)
  unfold originStep Origin.behind
  rw [if_neg hstart, hknown]
  rfl

theorem lineStep_postHeader (path : Bytes) : lineStep table o (postHeader path) =
    (if path.any needsEscape then o else .here, none) := by
  have hheader : headerLead <+: (postHeader path).bare :=
    (isPrefix_withoutReturns_iff (by decide) _).2 ⟨' ' :: printedPath (encode "b/".toList ++ path), rfl⟩
  unfold lineStep
  rw [originStep_of_header table o hheader]
  simp only [fileLead_postHeader_iff]
  cases path.any needsEscape <;> rfl

theorem lineStep_start (names : LineText) :
    lineStep table o (names.behind sectionLead (by decide)) = (o.atStart, none) := by
  have hbare : (names.behind sectionLead (by decide)).bare = sectionLead ++ withoutReturns names.text :=
    stripEnd_append_cons _ ' ' (by decide) "diff --git".toList names.text
  have hfile : ¬ fileLead <+: sectionLead ++ withoutReturns names.text := not_prefix_of_head (by decide) _ _
  have hplus : ¬ ['+'] <+: sectionLead ++ withoutReturns names.text := not_prefix_of_head (by decide) _ _
  unfold lineStep originStep Origin.behind
  rw [hbare, if_neg hfile, if_pos (List.prefix_append _ _), addsKnown_of_not_plus hplus]
  rfl

theorem PostImage.walks (image : PostImage) : Walks (lineStep table) o image.print
    (List.replicate (image.countKnown table) (image.originIn o)) (image.originIn o) := by
  cases image with
  | file path hunks =>
    have horigin : (PostImage.file path hunks).originIn o = if path.any needsEscape then o else .here := by
      change (if (!path.any needsEscape) = true then Origin.here else o) = _
      cases path.any needsEscape <;> rfl
    rw [horigin]
    exact (walks_hunks table _ hunks).cons (lineStep_postHeader table o path)
  | gone hunks =>
    have hheader : lineStep table o ⟨"+++ /dev/null".toList, by decide⟩ = (o, none) :=
      originStep_of_header table o (List.prefix_append headerLead _)
    exact (walks_quiet table o hunks).cons hheader
  | unshown => exact ⟨rfl, rfl⟩

/-- **One section**: all that is reported in it has its path from one place. -/
theorem FileSection.walks (s : FileSection) : Walks (lineStep table) o s.print
    (List.replicate (s.image.countKnown table) (s.originIn o)) (s.originIn o) := by
  have hheaders := walks_quiet table o.atStart s.headers
  have himage := s.image.walks table o.atStart
  exact (hheaders.append himage).cons (lineStep_start table o s.names)

theorem walks_sections : ∀ (ss : List FileSection) (o : Origin),
    Walks (lineStep table) o (ss.flatMap FileSection.print) (sectionOrigins table o ss) (originBehind o ss)
  | [], _ => ⟨rfl, rfl⟩
  | s :: ss, o => (s.walks table o).append (walks_sections ss _)

theorem LoggedCommit.walks (c : LoggedCommit) : Walks (lineStep table) o c.print
    (sectionOrigins table o c.sections) (originBehind o c.sections) := by
  have hname : lineStep table o (c.name.behind commitLead (by decide)) = (o, none) := by
    refine originStep_of_quiet table o (fun h => ?_) fun h => ?_
    · exact not_prefix_of_head (by decide) _ _ ((isPrefix_withoutReturns_iff (by decide) _).1 h)
    · exact not_prefix_of_head (by decide) _ _ ((isPrefix_withoutReturns_iff (by decide) _).1 h)
  have habout := walks_quiet table o c.about
  have hsections := walks_sections table c.sections o
  exact (habout.append hsections).cons hname

theorem walks_history : ∀ (history : List LoggedCommit) (o : Origin), Walks (lineStep table) o
    (history.flatMap LoggedCommit.print) (sectionOrigins table o (sectionsOf history))
    (originBehind o (sectionsOf history))
  | [], _ => ⟨rfl, rfl⟩
  | c :: history, o => by
    have hall := (c.walks table o).append (walks_history history _)
    have hsections : sectionsOf (c :: history) = c.sections ++ sectionsOf history := List.flatMap_cons
    have hbehind : originBehind o (c.sections ++ sectionsOf history) =
        originBehind (originBehind o c.sections) (sectionsOf history) := List.foldl_append
    rw [hsections, sectionOrigins_append, hbehind]
    exact hall

/-- Where the paths come from, section by section. -/
theorem origins_printHistory (history : List LoggedCommit) :
    origins table (logLines (printHistory history)) = sectionOrigins table .nowhere (sectionsOf history) := by
  have hempty : ∀ o, Walks (lineStep table) o [emptyLine] [] o := fun o =>
    walks_of_still _ (List.forall_mem_singleton.2 (originStep_of_quiet table o (by decide) (by decide)))
  have hcommits := Walks.joinWith hempty (walks_history table history .nowhere)
  have hall := (hcommits.append (hempty _)).results
  unfold origins
  rw [logLines_printHistory, walk_map]
  rwa [List.append_nil] at hall

/-- **The findings of a history take their own paths** exactly if no section whose header is between quotes has an added
line that is known, below a section whose header is plain. -/
theorem takesOwnPaths_printHistory_iff (history : List LoggedCommit) : TakesOwnPaths table (printHistory history) ↔
    ∀ before s after, sectionsOf history = before ++ s :: after → 0 < s.image.countKnown table → ¬ s.image.namesFile →
      ∀ t ∈ before, ¬ t.image.namesFile := by
  rw [takesOwnPaths_iff, origins_printHistory, mem_sectionOrigins_iff]
  simp only [originIn_eq_elsewhere_iff]
  push Not
  rfl

/-! ## A header that is passed over -/

/-- A section for a new file with one line. -/
def newFile (names : LineText) (path : Bytes) (content : LineText) (plain : ¬ "++".toList <+: content.text) :
    FileSection where
  names := names
  headers := [⟨⟨"--- /dev/null".toList, by decide⟩, by decide, by decide⟩]
  image := .file path [.added content plain]

def plainSection : FileSection :=
  newFile ⟨"a/.env b/.env".toList, by decide⟩ (encode ".env".toList) ⟨"PORT=80".toList, by decide⟩ (by decide)

def quotedSection : FileSection :=
  newFile ⟨"\"a/.env.\\303\\251\" \"b/.env.\\303\\251\"".toList, by decide⟩ (encode ".env.é".toList)
    ⟨"KEY=1".toList, by decide⟩ (by decide)

def accentedHistory : List LoggedCommit :=
  [{ name := ⟨List.replicate 40 '1', by decide⟩
     about := [⟨⟨"Author: me <me@host>".toList, by decide⟩, by decide, by decide⟩]
     sections := [plainSection, quotedSection] }]

/-- **A header between quotes** leaves the findings below it to the file before. -/
theorem not_takesOwnPaths_printHistory : ¬ ∀ (table : List Signature) (history : List LoggedCommit),
    TakesOwnPaths table (printHistory history) := by
  intro h
  have hown := takesOwnPaths_iff.1 (h keyTable accentedHistory)
  rw [origins_printHistory, mem_sectionOrigins_iff] at hown
  refine hown ⟨[plainSection], quotedSection, [], rfl, by decide, originIn_eq_elsewhere_iff.2 ⟨by decide, ?_⟩⟩
  exact ⟨plainSection, List.mem_singleton_self _, by decide⟩

end EnvAudit

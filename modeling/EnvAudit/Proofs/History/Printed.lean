import EnvAudit.Pattern.Token
import EnvAudit.Proofs.History.Findings
import EnvAudit.Proofs.Text.Classes
import EnvAudit.Proofs.Text.Split
/-!
# Scanning a log as it is printed

A log is printed commit by commit: the commit's name, its headers and message, and then each of its files, with the
headers of the file and the lines of its hunks.  The scan tells these apart by how they begin and by nothing else, so
an added line whose content begins with `++` looks like a header of the file.  Such a line is never reported, and one
with `++ b/` names the file anew for the added lines below it, up to the next file.  All other added lines are
scanned, under the commit and the file they were printed in (`scanHistory_printLog`).
-/
namespace EnvAudit

/-! ## What is printed -/

/-- Text without a line end. -/
structure LineText where
  text : Text
  oneLine : '\n' ∉ text

/-- What stands on a line of a file. -/
structure Content extends LineText where
  unreturned : text.getLast? ≠ some '\r'

inductive DiffLine where
  | hunk (range : LineText)
  | context (content : Content)
  | removed (content : Content)
  | added (content : Content)

def isPathChar (c : Char) : Bool := isAsciiWord c || c = '.' || c = '-' || c = '/'

/-- A path that is printed without quotes. -/
structure PlainPath where
  text : Text
  plain : ∀ c ∈ text, isPathChar c = true

def extendedLeads : List Text := [
  "old mode ".toList, "new mode ".toList, "new file mode ".toList, "copy from ".toList, "copy to ".toList,
  "rename from ".toList, "rename to ".toList, "similarity index ".toList, "dissimilarity index ".toList,
  "index ".toList]

structure ExtendedHeader where
  lead : Text
  known : lead ∈ extendedLeads
  rest : LineText

structure FileDiff where
  path : PlainPath
  extended : List ExtendedHeader
  old : LineText
  body : List DiffLine

structure CommitHash where
  digits : Text
  length : digits.length = 40
  hex : ∀ c ∈ digits, isHexDigit c = true

/-- A header such as the author's begins with a capital letter. -/
structure CommitHeader where
  first : Char
  upper : isAsciiUpper first = true
  rest : LineText

structure Commit where
  hash : CommitHash
  headers : List CommitHeader
  message : List LineText
  files : List FileDiff

/-! ## Printing -/

def DiffLine.print : DiffLine → Text
  | .hunk range => "@@".toList ++ range.text
  | .context content => ' ' :: content.text
  | .removed content => '-' :: content.text
  | .added content => '+' :: content.text

def ExtendedHeader.print (h : ExtendedHeader) : Text := h.lead ++ h.rest.text

def FileDiff.headers (f : FileDiff) : List Text :=
  ("diff --git a/".toList ++ f.path.text ++ " b/".toList ++ f.path.text) :: f.extended.map ExtendedHeader.print ++
    ["--- ".toList ++ f.old.text]

def FileDiff.print (f : FileDiff) : List Text :=
  f.headers ++ (fileLead ++ f.path.text) :: f.body.map DiffLine.print

def CommitHeader.print (h : CommitHeader) : Text := h.first :: h.rest.text

/-- The lines of a commit between its name and its files, with an empty line before the message and one before the
files. -/
def Commit.preamble (c : Commit) : List Text :=
  c.headers.map CommitHeader.print ++ [] :: c.message.map ("    ".toList ++ ·.text) ++
    (if c.files.isEmpty then [] else [[]])

def Commit.print (c : Commit) : List Text :=
  (commitLead ++ c.hash.digits) :: (c.preamble ++ c.files.flatMap FileDiff.print)

/-- The commits of a log, with an empty line between two. -/
def logText (log : List Commit) : List Text := joinWith [[]] (log.map Commit.print)

def printLog (log : List Commit) : Text := unlines (logText log ++ [[]])

/-! ## What is reported -/

/-- The path that an added line seems to give. -/
def DiffLine.path? : DiffLine → Option Text
  | .added content => after? "++ b/".toList content.text
  | _ => none

/-- The path that the nearest line above seems to give, if one does. -/
def pathBelow (path : Text) (earlier : List DiffLine) : Text := (earlier.reverse.findSome? DiffLine.path?).getD path

/-- What is reported of a line below some lines of the same file. -/
def reportedLine (table : List Signature) (commit path : Text) (earlier : List DiffLine) :
    DiffLine → Option HistoryFinding
  | .added content =>
    if "++".toList <+: content.text then none
    else (firstMatch table content.text).map fun s => ⟨commit, pathBelow path earlier, excerpt content.text, s.name⟩
  | _ => none

def FileDiff.reported (table : List Signature) (commit : Text) (f : FileDiff) : List HistoryFinding :=
  withEarlier (reportedLine table commit f.path.text) f.body

def Commit.reported (table : List Signature) (c : Commit) : List HistoryFinding :=
  c.files.flatMap (FileDiff.reported table (c.hash.digits.take 7))

/-- What a line is to give when every added line is scanned under its own file. -/
def expectedLine (table : List Signature) (commit path : Text) : DiffLine → Option HistoryFinding
  | .added content => (firstMatch table content.text).map fun s => ⟨commit, path, excerpt content.text, s.name⟩
  | _ => none

def FileDiff.expected (table : List Signature) (commit : Text) (f : FileDiff) : List HistoryFinding :=
  f.body.filterMap (expectedLine table commit f.path.text)

def Commit.expected (table : List Signature) (c : Commit) : List HistoryFinding :=
  c.files.flatMap (FileDiff.expected table (c.hash.digits.take 7))

/-! ## Idle lines

Most lines of a log are neither a commit, nor a file, nor an addition. -/

structure Idle (line : Text) : Prop where
  oneLine : '\n' ∉ line
  read : readLogLine line = .other

theorem idle_nil : Idle [] := ⟨List.not_mem_nil, (readLogLine_iff [] _).2 (.other [] (by decide) (by decide))⟩

theorem idle_of_mem_blank {line : Text} (h : line ∈ [[]]) : Idle line := List.mem_singleton.1 h ▸ idle_nil

theorem idle_of_not_lead {line : Text} (hline : '\n' ∉ line) (hcommit : ¬ commitLead <+: line)
    (hplus : ¬ ['+'] <+: line) : Idle line := by
  refine ⟨hline, (readLogLine_iff _ _).2 (.other _ (fun h => hcommit ?_) fun h => hplus ?_)⟩
  · exact (isPrefix_withoutReturns_iff (by decide) line).1 h
  · exact (isPrefix_withoutReturns_iff (by decide) line).1 h

theorem idle_of_head {c : Char} {rest : Text} (hc : c ∉ ['c', '+']) (hline : '\n' ∉ c :: rest) : Idle (c :: rest) := by
  simp only [List.mem_cons, List.not_mem_nil, or_false, not_or] at hc
  exact idle_of_not_lead hline (not_prefix_of_head (Ne.symm hc.1) _ _) (not_prefix_of_head (Ne.symm hc.2) _ _)

theorem not_mem_of_class {p : Char → Bool} {c : Char} {t : Text} (hc : p c = false) (h : ∀ x ∈ t, p x = true) :
    c ∉ t := fun hm => Bool.false_ne_true (hc.symm.trans (h c hm))

theorem PlainPath.oneLine (p : PlainPath) : '\n' ∉ p.text := not_mem_of_class (by decide) p.plain

theorem CommitHash.oneLine (h : CommitHash) : '\n' ∉ h.digits := not_mem_of_class (by decide) h.hex

theorem CommitHeader.idle_print (h : CommitHeader) : Idle h.print := by
  have hupper : ∀ x ∈ [h.first], isAsciiUpper x = true := fun x hx => List.mem_singleton.1 hx ▸ h.upper
  have hne : ∀ c, isAsciiUpper c = false → h.first ≠ c := fun c hc he =>
    not_mem_of_class hc hupper (List.mem_singleton.2 he.symm)
  refine idle_of_head ?_ ?_
  · simp [hne 'c' (by decide), hne '+' (by decide)]
  · exact List.not_mem_cons_of_ne_of_not_mem (hne '\n' (by decide)).symm h.rest.oneLine

theorem not_prefix_of_take {lead own : Text} (n : Nat) (hlead : n ≤ lead.length) (hown : n ≤ own.length)
    (hne : own.take n ≠ lead.take n) (t : Text) : ¬ lead <+: own ++ t := by
  rintro ⟨u, hu⟩
  have htake := congrArg (List.take n) hu
  rw [List.take_append_of_le_length hlead, List.take_append_of_le_length hown] at htake
  exact hne htake.symm

theorem extendedLeads_idle : ∀ lead ∈ extendedLeads, '\n' ∉ lead ∧ 3 ≤ lead.length ∧
    lead.take 3 ≠ commitLead.take 3 ∧ lead.take 1 ≠ ['+'].take 1 := by decide

theorem ExtendedHeader.idle_print (h : ExtendedHeader) : Idle h.print := by
  obtain ⟨hline, hlength, hcommit, hplus⟩ := extendedLeads_idle h.lead h.known
  refine idle_of_not_lead (List.not_mem_append hline h.rest.oneLine) ?_ ?_
  · exact not_prefix_of_take 3 (by decide) hlength hcommit h.rest.text
  · exact not_prefix_of_take 1 (by decide) (Nat.le_trans (by decide) hlength) hplus h.rest.text

theorem FileDiff.idle_headers (f : FileDiff) : ∀ line ∈ f.headers, Idle line := by
  intro line hline
  unfold FileDiff.headers at hline
  simp only [List.mem_append, List.mem_cons, List.mem_map, List.not_mem_nil, or_false] at hline
  rcases hline with (rfl | ⟨h, -, rfl⟩) | rfl
  · have hfrom : '\n' ∉ "diff --git a/".toList ++ f.path.text ++ " b/".toList :=
      List.not_mem_append (List.not_mem_append (by decide) f.path.oneLine) (by decide)
    exact idle_of_head (by decide) (List.not_mem_append hfrom f.path.oneLine)
  · exact h.idle_print
  · have hold : '\n' ∉ "--- ".toList ++ f.old.text := List.not_mem_append (by decide) f.old.oneLine
    exact idle_of_head (by decide) hold

theorem Commit.idle_preamble (c : Commit) : ∀ line ∈ c.preamble, Idle line := by
  intro line hline
  unfold Commit.preamble at hline
  simp only [List.mem_append, List.mem_cons, List.mem_map] at hline
  rcases hline with (⟨h, -, rfl⟩ | rfl | ⟨m, -, rfl⟩) | hblank
  · exact h.idle_print
  · exact idle_nil
  · have hsaid : '\n' ∉ "    ".toList ++ m.text := List.not_mem_append (by decide) m.oneLine
    exact idle_of_head (by decide) hsaid
  · split at hblank
    · cases hblank
    · exact idle_of_mem_blank hblank

/-! ## The lines of a printed log -/

theorem DiffLine.oneLine_print : ∀ d : DiffLine, '\n' ∉ d.print
  | .hunk range => by simp [DiffLine.print, range.oneLine]
  | .context content => by simp [DiffLine.print, content.oneLine]
  | .removed content => by simp [DiffLine.print, content.oneLine]
  | .added content => by simp [DiffLine.print, content.oneLine]

theorem FileDiff.oneLine_print (f : FileDiff) : ∀ line ∈ f.print, '\n' ∉ line := by
  intro line hline
  rcases List.mem_append.1 hline with hline | hline
  · exact (f.idle_headers line hline).oneLine
  · rcases List.mem_cons.1 hline with rfl | hline
    · exact List.not_mem_append (by decide) f.path.oneLine
    · obtain ⟨d, -, rfl⟩ := List.mem_map.1 hline
      exact d.oneLine_print

theorem Commit.oneLine_print (c : Commit) : ∀ line ∈ c.print, '\n' ∉ line := by
  intro line hline
  rcases List.mem_cons.1 hline with rfl | hline
  · exact List.not_mem_append (by decide) c.hash.oneLine
  · rcases List.mem_append.1 hline with hline | hline
    · exact (c.idle_preamble line hline).oneLine
    · obtain ⟨f, -, hf⟩ := List.mem_flatMap.1 hline
      exact f.oneLine_print line hf

theorem lines_printLog (log : List Commit) : lines (printLog log) = logText log ++ [[]] := by
  refine splitOn_joinWith '\n' _ (by simp) (fun line hline => ?_)
  rcases List.mem_append.1 hline with hline | hline
  · rcases mem_joinWith hline with hline | ⟨part, hpart, hline⟩
    · exact (idle_of_mem_blank hline).oneLine
    · obtain ⟨c, -, rfl⟩ := List.mem_map.1 hpart
      exact c.oneLine_print line hline
  · exact (idle_of_mem_blank hline).oneLine

/-! ## Names and additions -/

theorem withoutReturns_of_getLast? {line : Text} (h : line.getLast? ≠ some '\r') : withoutReturns line = line :=
  (withoutReturns_eq_iff line line).2 ⟨h, 0, (List.append_nil line).symm⟩

theorem withoutReturns_of_not_mem {line : Text} (h : '\r' ∉ line) : withoutReturns line = line :=
  withoutReturns_of_getLast? (fun hlast => h (List.mem_of_getLast? hlast))

theorem isBlank_of_isHexDigit {c : Char} (h : isHexDigit c = true) : isBlank c = false := by
  refine isBlank_of_code ?_
  unfold isHexDigit isAsciiDigit at h
  simp only [Bool.or_eq_true, Bool.and_eq_true, decide_eq_true_eq] at h
  rcases h with (h | ⟨hlow, hhigh⟩) | ⟨hlow, hhigh⟩
  · omega
  · have hlow : 97 ≤ c.toNat := hlow
    have hhigh : c.toNat ≤ 102 := hhigh
    omega
  · have hlow : 65 ≤ c.toNat := hlow
    have hhigh : c.toNat ≤ 70 := hhigh
    omega

theorem Commit.readLogLine_name (c : Commit) :
    readLogLine (commitLead ++ c.hash.digits) = .commit (c.hash.digits.take 7) := by
  have hreturn : '\r' ∉ commitLead ++ c.hash.digits :=
    List.not_mem_append (by decide) (not_mem_of_class (by decide) c.hash.hex)
  have htrim : trim c.hash.digits = c.hash.digits :=
    strip_of_bare isBlank _ ⟨fun x hx => isBlank_of_isHexDigit (c.hash.hex x (List.mem_of_head? hx)),
      fun x hx => isBlank_of_isHexDigit (c.hash.hex x (List.mem_of_getLast? hx))⟩
  have hsays := Says.commit c.hash.digits
  unfold shortId at hsays
  rw [htrim] at hsays
  refine (readLogLine_iff _ _).2 ?_
  rwa [withoutReturns_of_not_mem hreturn]

theorem FileDiff.readLogLine_name (f : FileDiff) : readLogLine (fileLead ++ f.path.text) = .file f.path.text := by
  have hreturn : '\r' ∉ fileLead ++ f.path.text :=
    List.not_mem_append (by decide) (not_mem_of_class (by decide) f.path.plain)
  refine (readLogLine_iff _ _).2 ?_
  rw [withoutReturns_of_not_mem hreturn]
  exact .file f.path.text

/-- **What an added line is read as** depends on whether it looks like a header. -/
theorem readLogLine_added (content : Content) : readLogLine (DiffLine.added content).print =
    match after? "++ b/".toList content.text with
    | some path => .file path
    | none => if "++".toList <+: content.text then .other else .added content.text := by
  have hlast : ('+' :: content.text).getLast? ≠ some '\r' := by
    rw [List.getLast?_cons]
    have := content.unreturned
    cases h : content.text.getLast? with
    | none => simp
    | some c => simpa [h] using this
  refine (readLogLine_iff _ _).2 ?_
  rw [DiffLine.print, withoutReturns_of_getLast? hlast]
  have hheader : headerLead <+: '+' :: content.text ↔ "++".toList <+: content.text := List.prefix_cons_inj '+'
  have hfile : fileLead <+: '+' :: content.text ↔ "++ b/".toList <+: content.text := List.prefix_cons_inj '+'
  cases hpath : after? "++ b/".toList content.text with
  | some path =>
    rw [after?_eq_some_iff.1 hpath]
    exact .file path
  | none =>
    dsimp only
    split
    · rename_i hplus
      exact .header _ (hheader.2 hplus) (fun h => after?_eq_none_iff.1 hpath (hfile.1 h))
    · rename_i hplus
      exact .added _ (fun h => hplus (hheader.1 h))

/-! ## The scan of a printed log -/

theorem pathBelow_concat (path : Text) (earlier : List DiffLine) (d : DiffLine) :
    pathBelow path (earlier ++ [d]) = d.path?.getD (pathBelow path earlier) := by
  unfold pathBelow
  rw [List.reverse_append, List.reverse_singleton, List.singleton_append, List.findSome?_cons]
  cases d.path? <;> rfl

theorem scanStep_of_idle {table : List Signature} {line : Text} (h : Idle line) (m : Marks) :
    scanStep table m line = (m, none) := by
  unfold scanStep
  rw [h.read]

theorem walks_idle (table : List Signature) (m : Marks) (ls : List Text) (h : ∀ line ∈ ls, Idle line) :
    Walks (scanStep table) m ls [] m := walks_of_still ls (fun line hline => scanStep_of_idle (h line hline) m)

/-- **One line of a file**: the file mark is the path below the lines before it. -/
theorem scanStep_print (table : List Signature) (commit path : Text) (earlier : List DiffLine) (d : DiffLine) :
    scanStep table ⟨commit, pathBelow path earlier⟩ d.print =
      (⟨commit, pathBelow path (earlier ++ [d])⟩, reportedLine table commit path earlier d) := by
  rw [pathBelow_concat]
  cases d with
  | hunk range => exact scanStep_of_idle (idle_of_head (by decide) (DiffLine.hunk range).oneLine_print) _
  | context content => exact scanStep_of_idle (idle_of_head (by decide) (DiffLine.context content).oneLine_print) _
  | removed content => exact scanStep_of_idle (idle_of_head (by decide) (DiffLine.removed content).oneLine_print) _
  | added content =>
    unfold scanStep
    rw [readLogLine_added, DiffLine.path?, reportedLine]
    cases hpath : after? "++ b/".toList content.text with
    | some rest =>
      have hplus : "++".toList <+: content.text := ⟨" b/".toList ++ rest, (after?_eq_some_iff.1 hpath).symm⟩
      dsimp only
      rw [if_pos hplus]
      rfl
    | none =>
      by_cases hplus : "++".toList <+: content.text
      · rw [if_pos hplus, if_pos hplus]
        rfl
      · rw [if_neg hplus, if_neg hplus]
        rfl

theorem FileDiff.walks (table : List Signature) (commit file : Text) (f : FileDiff) :
    ∃ file', Walks (scanStep table) ⟨commit, file⟩ f.print (f.reported table commit) ⟨commit, file'⟩ := by
  have hbody := walks_withEarlier (reportedLine table commit f.path.text)
    (fun earlier => (⟨commit, pathBelow f.path.text earlier⟩ : Marks)) DiffLine.print
    (scanStep_print table commit f.path.text) f.body
  have hname : scanStep table ⟨commit, file⟩ (fileLead ++ f.path.text) = (⟨commit, f.path.text⟩, none) := by
    unfold scanStep
    rw [f.readLogLine_name]
  exact ⟨_, (walks_idle table _ f.headers f.idle_headers).append (hbody.cons hname)⟩

theorem walks_files (table : List Signature) (commit : Text) : ∀ (files : List FileDiff) (file : Text),
    ∃ file', Walks (scanStep table) ⟨commit, file⟩ (files.flatMap FileDiff.print)
      (files.flatMap (FileDiff.reported table commit)) ⟨commit, file'⟩
  | [], file => ⟨file, ⟨rfl, rfl⟩⟩
  | f :: files, file => by
    obtain ⟨file₁, hf⟩ := f.walks table commit file
    obtain ⟨file₂, hfiles⟩ := walks_files table commit files file₁
    exact ⟨file₂, hf.append hfiles⟩

theorem Commit.walks (table : List Signature) (m : Marks) (c : Commit) :
    ∃ m', Walks (scanStep table) m c.print (c.reported table) m' := by
  obtain ⟨file, hfiles⟩ := walks_files table (c.hash.digits.take 7) c.files m.file
  have hname : scanStep table m (commitLead ++ c.hash.digits) = (⟨c.hash.digits.take 7, m.file⟩, none) := by
    unfold scanStep
    rw [c.readLogLine_name]
  exact ⟨_, ((walks_idle table _ c.preamble c.idle_preamble).append hfiles).cons hname⟩

/-- Lines that change nothing can stand between the parts of a walk. -/
theorem Walks.joinWith {σ α β : Type} {step : σ → α → σ × Option β} {sep : List α}
    (hsep : ∀ s, Walks step s sep [] s) : ∀ {ps : List (List α)} {s t : σ} {out : List β},
    Walks step s ps.flatten out t → Walks step s (EnvAudit.joinWith sep ps) out t
  | [], _, _, _, h => h
  | [p], _, _, _, h => by rwa [List.flatten_singleton] at h
  | p :: q :: ps, s, t, out, h => by
    rw [List.flatten_cons] at h
    have hp : Walks step s p (walk step s p) (walkEnd step s p) := ⟨rfl, rfl⟩
    have hrest : Walks step (walkEnd step s p) (q :: ps).flatten (walk step (walkEnd step s p) (q :: ps).flatten) t :=
      ⟨rfl, by rw [← walkEnd_append, h.state]⟩
    have hall := (hp.append (hsep _)).append (Walks.joinWith hsep hrest)
    rw [← h.results, walk_append, joinWith_cons sep p (List.cons_ne_nil q ps)]
    rwa [List.append_nil] at hall

theorem walks_commits (table : List Signature) : ∀ (log : List Commit) (m : Marks),
    ∃ m', Walks (scanStep table) m (log.flatMap Commit.print) (log.flatMap (Commit.reported table)) m'
  | [], m => ⟨m, ⟨rfl, rfl⟩⟩
  | c :: log, m => by
    obtain ⟨m₁, hc⟩ := c.walks table m
    obtain ⟨m₂, hlog⟩ := walks_commits table log m₁
    exact ⟨m₂, hc.append hlog⟩

theorem walks_logText (table : List Signature) (log : List Commit) (m : Marks) :
    ∃ m', Walks (scanStep table) m (logText log) (log.flatMap (Commit.reported table)) m' := by
  obtain ⟨m', hlog⟩ := walks_commits table log m
  refine ⟨m', Walks.joinWith (fun s => walks_idle table s [[]] fun _ hline => idle_of_mem_blank hline) ?_⟩
  exact hlog

theorem walks_printLog (table : List Signature) (log : List Commit) :
    ∃ m, Walks (scanStep table) ⟨[], []⟩ (lines (printLog log)) (log.flatMap (Commit.reported table)) m := by
  obtain ⟨m, hlog⟩ := walks_logText table log ⟨[], []⟩
  have hend := walks_idle table m [[]] (fun _ hline => idle_of_mem_blank hline)
  have hall := hlog.append hend
  rw [List.append_nil, ← lines_printLog] at hall
  exact ⟨m, hall⟩

/-- **The findings of a printed log**: every added line is scanned, under its commit and file, unless it looks like a
header of the file. -/
theorem scanHistory_printLog (table : List Signature) (log : List Commit) :
    scanHistory table (printLog log) = log.flatMap (Commit.reported table) := by
  obtain ⟨m, hlog⟩ := walks_printLog table log
  rw [scanHistory_eq_walk, hlog.results]

/-! ## Lines that look like headers

What is lost is lost to them alone. -/

def LooksLikeHeader (d : DiffLine) : Prop := ∃ content, d = .added content ∧ "++".toList <+: content.text

theorem path?_of_not_looksLikeHeader {d : DiffLine} (h : ¬ LooksLikeHeader d) : d.path? = none := by
  cases d with
  | added content =>
    refine after?_eq_none_iff.2 (fun hpath => h ⟨content, rfl, ?_⟩)
    exact List.IsPrefix.trans ⟨" b/".toList, rfl⟩ hpath
  | _ => rfl

theorem FileDiff.reported_of_plain (table : List Signature) (commit : Text) (f : FileDiff)
    (h : ∀ d ∈ f.body, ¬ LooksLikeHeader d) : f.reported table commit = f.expected table commit := by
  refine withEarlier_eq_filterMap _ _ f.body (fun before d after hbody => ?_)
  have hbefore : before.reverse.findSome? DiffLine.path? = none :=
    List.findSome?_eq_none_iff.2 (fun x hx => path?_of_not_looksLikeHeader (h x (by simp_all)))
  cases d with
  | added content =>
    have hplus : ¬ "++".toList <+: content.text := fun hp => h (.added content) (by simp [hbody]) ⟨content, rfl, hp⟩
    rw [reportedLine, if_neg hplus, expectedLine, pathBelow, hbefore, Option.getD_none]
  | _ => rfl

theorem scanHistory_printLog_of_plain (table : List Signature) (log : List Commit)
    (h : ∀ c ∈ log, ∀ f ∈ c.files, ∀ d ∈ f.body, ¬ LooksLikeHeader d) :
    scanHistory table (printLog log) = log.flatMap (Commit.expected table) := by
  obtain ⟨m, hlog⟩ := walks_printLog table log
  rw [scanHistory_eq_walk, hlog.results]
  refine List.flatMap_congr (fun c hc => List.flatMap_congr (fun f hf => ?_))
  exact f.reported_of_plain table _ (h c hc f hf)

/-- One file with three added lines, the first two of which look like headers. -/
def headerLikeLog : List Commit :=
  [{ hash := ⟨List.replicate 40 '1', by decide, List.all_eq_true.1 (by decide)⟩
     headers := [⟨'A', by decide, ⟨"uthor: me <me@host>".toList, by decide⟩⟩]
     message := [⟨"Add keys".toList, by decide⟩]
     files :=
       [{ path := ⟨".env".toList, List.all_eq_true.1 (by decide)⟩
          extended := []
          old := ⟨"/dev/null".toList, by decide⟩
          body :=
            [.hunk ⟨" -0,0 +1,3 @@".toList, by decide⟩,
             .added ⟨⟨"++KEY".toList, by decide⟩, by decide⟩,
             .added ⟨⟨"++ b/other".toList, by decide⟩, by decide⟩,
             .added ⟨⟨"KEY".toList, by decide⟩, by decide⟩] }] }]

def keyPattern : Pattern := Pattern.all ("KEY".toList.map fun c => .one ⟨[.single c], false, .exact⟩)

def keyTable : List Signature := [⟨.text "key".toList, "KEY".toList, keyPattern, .high, .text []⟩]

/-- **An added line can escape**: of two lines that are known, one is not reported and the other is reported of a file
that the log does not hold. -/
theorem not_scanHistory_printLog_expected : ¬ ∀ (table : List Signature) (log : List Commit),
    (scanHistory table (printLog log)).map (fun f => (f.commit, f.file)) =
      (log.flatMap (Commit.expected table)).map (fun f => (f.commit, f.file)) := by
  intro h
  have hscan := h keyTable headerLikeLog
  revert hscan
  decide

end EnvAudit

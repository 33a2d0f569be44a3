import EnvAudit.Proofs.History.Findings
import EnvAudit.Proofs.History.Running
import EnvAudit.Proofs.Text.Split
import EnvAudit.Proofs.Text.Utf8
import EnvAudit.Signature.Bundled
/-!
# Truncated scans

A scan with a limit reads the first bytes of a log, and the cut can fall anywhere: within a character, a header or a
secret.  The lines that end before it are read as they are in the whole log (`scanHistory_append_of_ended`), so all
that the cut can change is what the line it falls in says, and that line adds at most one finding
(`scanRepository_truncated`).
-/
namespace EnvAudit

/-! ## Bytes that end with a line -/

/-- The bytes up to the last newline, and with it. -/
def wholeLines (bs : Bytes) : Bytes := stripEnd (fun b => decide (b ≠ 10)) bs

/-- No line is left open behind these bytes. -/
def Ended (bs : Bytes) : Prop := bs = [] ∨ ∃ before, bs = before ++ [10]

theorem ended_wholeLines (bs : Bytes) : Ended (wholeLines bs) := by
  rcases List.eq_nil_or_concat (wholeLines bs) with h | ⟨before, b, h⟩
  · exact Or.inl h
  · have hlast : decide (b ≠ 10) = false :=
      getLast?_stripEnd _ bs b (by rw [show stripEnd _ bs = before.concat b from h]; simp)
    have hb : b = 10 := by simpa using hlast
    exact Or.inr ⟨before, by rw [h, hb, List.concat_eq_append]⟩

theorem exists_wholeLines (bs : Bytes) : ∃ cutLine, bs = wholeLines bs ++ cutLine ∧ 10 ∉ cutLine := by
  obtain ⟨cutLine, hbs, hcutLine⟩ := exists_stripEnd (fun b : UInt8 => decide (b ≠ 10)) bs
  exact ⟨cutLine, hbs, fun h => by simpa using hcutLine 10 h⟩

theorem lines_decodeLossy_of_not_mem {bs : Bytes} (h : 10 ∉ bs) : lines (decodeLossy bs) = [decodeLossy bs] :=
  splitOn_of_not_mem '\n' _ fun hmem => h (newline_mem_of_mem_decodeLossy hmem)

/-- The lines that end within these bytes. -/
def endedLines (bs : Bytes) : List Text := (lines (decodeLossy bs)).dropLast

theorem lines_append_of_ended {whole : Bytes} (h : Ended whole) (rest : Bytes) :
    lines (decodeLossy (whole ++ rest)) = endedLines whole ++ lines (decodeLossy rest) := by
  obtain rfl | ⟨before, rfl⟩ := h
  · rfl
  · have hsplit : ∀ bs, lines (decodeLossy (before ++ 10 :: bs)) = lines (decodeLossy before) ++ lines (decodeLossy bs) :=
      fun bs => by rw [decodeLossy_append_newline]; exact splitOn_append_cons '\n' _ _
    have hended : endedLines (before ++ [10]) = lines (decodeLossy before) := by
      rw [endedLines, hsplit []]
      exact List.dropLast_concat
    rw [hended, List.append_assoc, List.singleton_append, hsplit]

/-! ## Scanning goes on -/

/-- **Behind lines that have ended** a scan goes on with the marks they leave. -/
theorem scanHistory_append_of_ended (table : List Signature) {whole : Bytes} (h : Ended whole) (rest : Bytes) :
    scanHistory table (decodeLossy (whole ++ rest)) = scanHistory table (decodeLossy whole) ++
      walk (scanStep table) (walkEnd (scanStep table) ⟨[], []⟩ (endedLines whole)) (lines (decodeLossy rest)) := by
  have hwhole : lines (decodeLossy whole) = endedLines whole ++ [[]] := by
    have hnone := lines_append_of_ended h []
    rwa [List.append_nil] at hnone
  rw [scanHistory_eq_walk, scanHistory_eq_walk, lines_append_of_ended h, hwhole, walk_append, walk_append,
    show walk (scanStep table) _ [[]] = [] from rfl, List.append_nil]

theorem ResultAt.reports {table : List Signature} {log : Text} {i : Nat} {f : HistoryFinding}
    (h : ResultAt (scanStep table) ⟨[], []⟩ (lines log) i f) : Reports table (logLines log) i f := by
  obtain ⟨content, s, hadds, hs, rfl⟩ := (resultAt_scanStep_iff table log i f).1 h
  have hmarks := marks_named table ((lines log).take i)
  rw [List.map_take] at hmarks
  exact ⟨hmarks.commit, hmarks.file, content, s, hadds, shortened_excerpt content,
    (firstMatch_eq_some_iff table content s).1 hs, rfl⟩

/-- What the last line of a log adds, if it adds anything. -/
inductive AddsLast (table : List Signature) (log : Text) (before : List HistoryFinding) : List HistoryFinding → Prop
  | nothing : AddsLast table log before before
  | finding (f : HistoryFinding) (h : Reports table (logLines log) ((logLines log).length - 1) f) :
      AddsLast table log before (before ++ [f])

theorem addsLast_scanHistory (table : List Signature) (bs : Bytes) :
    AddsLast table (decodeLossy bs) (scanHistory table (decodeLossy (wholeLines bs)))
      (scanHistory table (decodeLossy bs)) := by
  obtain ⟨cutLine, hbs, hcutLine⟩ := exists_wholeLines bs
  have hlines : lines (decodeLossy bs) = endedLines (wholeLines bs) ++ [decodeLossy cutLine] := by
    conv => lhs; rw [hbs]
    rw [lines_append_of_ended (ended_wholeLines bs), lines_decodeLossy_of_not_mem hcutLine]
  have hscan := scanHistory_append_of_ended table (ended_wholeLines bs) cutLine
  rw [← hbs, lines_decodeLossy_of_not_mem hcutLine, walk, walk, List.append_nil] at hscan
  rw [hscan]
  cases hf : (scanStep table (walkEnd (scanStep table) ⟨[], []⟩ (endedLines (wholeLines bs))) (decodeLossy cutLine)).2 with
  | none =>
    rw [Option.toList_none, List.append_nil]
    exact .nothing
  | some f =>
    refine .finding f (ResultAt.reports ⟨decodeLossy cutLine, ?_, ?_⟩)
    · rw [logLines, List.length_map, hlines, List.length_append, List.length_singleton, Nat.add_sub_cancel,
        List.getElem?_concat_length]
    · rw [logLines, List.length_map, hlines, List.length_append, List.length_singleton, Nat.add_sub_cancel,
        List.take_left]
      exact hf

theorem scanHistory_wholeLines_prefix (table : List Signature) (output : Bytes) (n : Nat) :
    scanHistory table (decodeLossy (wholeLines (output.take n))) <+: scanHistory table (decodeLossy output) := by
  obtain ⟨cutLine, hcut, -⟩ := exists_wholeLines (output.take n)
  have houtput : output = wholeLines (output.take n) ++ (cutLine ++ output.drop n) := by
    rw [← List.append_assoc, ← hcut, List.take_append_drop]
  conv => rhs; rw [houtput, scanHistory_append_of_ended table (ended_wholeLines _)]
  exact List.prefix_append _ _

/-! ## Scans of a repository -/

open Session

/-- What is scanned of a log, whether git printed all of it and was content or was stopped. -/
theorem outcome_scanRepository {w : World} {output errors : Bytes} {status : Int} {limit depth : Value} {l : Limit}
    {read : Bytes} {truncated : Bool} (hgit : w.git = .ran output errors status)
    (hdepth : depth.shownFault? w.host.shownLevels = none) (hlimit : limitOf w.host.memory limit = .ok l)
    (hcut : l.cut output = (read, truncated)) (hstatus : truncated = true ∨ status = 0) (table : List Signature)
    (repo : Text) :
    ((scanRepository table limit repo depth).outcome w).1 = .ok (scanHistory table (decodeLossy read)) := by
  obtain ⟨es, result, hread, houtcome⟩ := exists_logRead limit repo depth w
  have hresult : result = .ok (decodeLossy read) := by
    rw [hgit] at hread
    cases hread with
    | noDepth h => cases hdepth.symm.trans h
    | noLimit _ h => cases hlimit.symm.trans h
    | cut _ h hcut' | whole _ h hcut' =>
      obtain rfl := Except.ok.inj (hlimit.symm.trans h)
      rw [(Prod.mk.inj (hcut.symm.trans hcut')).1]
    | gitFailed _ h hcut' hfailed =>
      obtain rfl := Except.ok.inj (hlimit.symm.trans h)
      obtain ⟨-, rfl⟩ := Prod.mk.inj (hcut.symm.trans hcut')
      exact absurd (hstatus.resolve_left Bool.false_ne_true) hfailed
  subst hresult
  obtain ⟨w', hscan⟩ := exists_outcome_scanRepository_of_ok table houtcome
  rw [hscan]

/-- **A truncated scan reports what the whole one reports first.**  The findings of the lines that end before the cut
come first in both, and what it cuts adds at most one to them: a finding of the line that the cut falls in.  (Both scans
run on one host, which has memory for the greater limit and can write the depth; else there is no scan.) -/
theorem scanRepository_truncated (table : List Signature) (repo : Text) (depth : Value) (output errors errors' : Bytes)
    (status : Int) (n m : Nat) (whole stopped : World) (hwhole : whole.git = .ran output errors 0)
    (hstopped : stopped.git = .ran output errors' status) (hn : n < output.length) (hm : output.length ≤ m)
    (hhost : stopped.host = whole.host) (hdepth : depth.shownFault? whole.host.shownLevels = none)
    (hbound : m < whole.host.memory) :
    ∃ all some ended, ((scanRepository table (.int m) repo depth).outcome whole).1 = .ok all ∧
      ((scanRepository table (.int n) repo depth).outcome stopped).1 = .ok some ∧
      ended = scanHistory table (decodeLossy (wholeLines (output.take n))) ∧
      ended <+: all ∧ AddsLast table (decodeLossy (output.take n)) ended some := by
  have hread : (Limit.atMost m).cut output = (output, false) := by
    change (output.take m, decide (m < output.length)) = _
    rw [List.take_of_length_le hm, decide_eq_false (by omega)]
  have hcut : (Limit.atMost n).cut output = (output.take n, true) := by
    change (output.take n, decide (n < output.length)) = _
    rw [decide_eq_true hn]
  rw [← hhost] at hdepth
  have hfits : n < stopped.host.memory := by rw [hhost]; omega
  exact ⟨_, _, _, outcome_scanRepository hwhole (hhost ▸ hdepth) (limitOf_int hbound) hread (Or.inr rfl) table repo,
    outcome_scanRepository hstopped hdepth (limitOf_int hfits) hcut (Or.inl rfl) table repo, rfl,
    scanHistory_wholeLines_prefix table output n, addsLast_scanHistory table (output.take n)⟩

/-- A key of a known form, and behind it a line that is cut within its last character. -/
def keyLog : Bytes := encode "+++ b/.env\n+KEY=AKIA0123456789ABCDEF\n+NAME=\u00e9".toList

theorem scanRepository_truncated_keyLog :
    keyLog.length = 45 ∧ ∃ all some ended,
      ((scanRepository bundledTable (.int 45) ['.'] (.int 1)).outcome (.bare (.ran keyLog [] 0))).1 = .ok all ∧
      ((scanRepository bundledTable (.int 44) ['.'] (.int 1)).outcome (.bare (.ran keyLog [] (-9)))).1 = .ok some ∧
      ended = scanHistory bundledTable (decodeLossy (wholeLines (keyLog.take 44))) ∧
      ended <+: all ∧ AddsLast bundledTable (decodeLossy (keyLog.take 44)) ended some :=
  ⟨by decide, scanRepository_truncated bundledTable ['.'] (.int 1) keyLog [] [] (-9) 44 45 (.bare (.ran keyLog [] 0))
    (.bare (.ran keyLog [] (-9))) rfl rfl (by decide) (by decide) rfl rfl (by decide)⟩

end EnvAudit

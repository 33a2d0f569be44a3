import EnvAudit.Proofs.EnvFile.Backup
import EnvAudit.Proofs.EnvFile.Settled
import EnvAudit.Proofs.Text.ReadBack
/-!
# Fixing a file again

What fixing writes is read by the next run.  The rules cut a line at characters only, at the equals sign, at white
space, at the hash sign of a comment and at quotes, and bring in nothing but quotes.  So no two kept bytes come to stand
side by side that did not before, and a fixed text is read back (`ReadBack.fixText`).  No carriage return is in it
either, so the next run has the units that the last one wrote (`envUnitsOf_encodeGlyphs_fixText`) and finds them settled
(`fixText_snd_again`).

A dry run and a run without fixes leave the world as it is, and a real run changes no more than the file and its backup
(`fixRuns_fixFile`).
-/
namespace EnvAudit

open Session

/-! ## Units that are characters -/

theorem exists_char_of_looksBlank {g : Glyph} (h : looksBlank g = true) : ∃ c, g = .char c := by
  cases g with
  | char c => exact ⟨c, rfl⟩
  | raw b => exact absurd (show isBlank replacement = true from h) (by decide)

theorem exists_char_of_isQuoteMark {g : Glyph} (h : isQuoteMark g = true) : ∃ c, g = .char c := by
  cases g with
  | char c => exact ⟨c, rfl⟩
  | raw b => exact absurd (show isQuote replacement = true from h) (by decide)

theorem readBack_assigned_iff {k v : List Glyph} : ReadBack (assigned (k, v)) ↔ ReadBack k ∧ ReadBack v :=
  readBack_append_char_iff (s := k) (t := v) (c := '=')

/-! ## What the rules leave -/

namespace ReadBack

variable {l v : List Glyph}

theorem trimUnitsStart (h : ReadBack l) : ReadBack (trimUnitsStart l) := by
  obtain ⟨gone, hl, hblank⟩ := exists_stripStart looksBlank l
  rw [hl] at h
  exact h.of_append_left fun g hg => exists_char_of_looksBlank (hblank g hg)

theorem trimUnits (h : ReadBack l) : ReadBack (trimUnits l) := by
  obtain ⟨gone, hl, hblank⟩ := exists_stripEnd looksBlank (EnvAudit.trimUnitsStart l)
  have hstart := h.trimUnitsStart
  rw [hl] at hstart
  exact hstart.of_append_right fun g hg => exists_char_of_looksBlank (hblank g hg)

theorem withoutComment (h : ReadBack v) (hline : OneLine v) : ReadBack (withoutComment v) := by
  unfold EnvAudit.withoutComment
  split
  · exact h
  · rcases dropComment?_spec v hline with ⟨kept, hkept, ⟨gap, rest, hv, -, hblank⟩, -⟩ | ⟨hnone, -⟩
    · rw [hv] at h
      rw [hkept]
      exact (readBack_append_char_iff.1 h).1.of_append_right fun g hg => exists_char_of_looksBlank (hblank g hg)
    · rw [hnone]
      exact h

theorem withQuotes (h : ReadBack v) : ReadBack (withQuotes v) := by
  unfold EnvAudit.withQuotes
  split
  · exact h
  · exact readBack_cons_char_iff.2 (readBack_append_char_iff.2 ⟨h.trimUnits, rfl⟩)

theorem withoutNumberQuotes (h : ReadBack v) : ReadBack (withoutNumberQuotes v) := by
  have htrim := h.trimUnits
  unfold EnvAudit.withoutNumberQuotes
  split
  · rename_i q r rest hv
    split
    · rename_i hnumber
      rw [Bool.and_eq_true, Bool.and_eq_true, decide_eq_true_eq] at hnumber
      obtain ⟨c, rfl⟩ := exists_char_of_isQuoteMark hnumber.1.1
      rw [hv, readBack_cons_char_iff, ← List.dropLast_append_getLast? _ hnumber.1.2] at htrim
      exact (readBack_append_char_iff.1 htrim).1
    · exact h
  · exact h

theorem fixedValue (h : ReadBack v) (hline : OneLine v) : ReadBack (fixedValue v) :=
  (h.trimUnitsStart.withoutComment (oneLine_trimUnitsStart hline)).withQuotes.withoutNumberQuotes

theorem fixLine (h : ReadBack l) (hline : OneLine l) (n : Int) : ReadBack (fixLine n l).1 := by
  cases hfix : isFixable l with
  | false =>
    rw [fixLine_of_not_fixable n l hfix]
    exact h
  | true =>
    obtain ⟨k, v, rfl, hk⟩ := exists_assigned l ((isFixable_iff l).1 hfix).2
    obtain ⟨hkey, hvalue⟩ := readBack_assigned_iff.1 h
    rw [fixLine_fst n k v hk hfix, readBack_assigned_iff]
    exact ⟨hkey.trimUnits, hvalue.fixedValue (oneLine_assigned_iff.1 hline).2⟩

/-- **A fixed text is read back** if the text is. -/
theorem fixText {t : List Glyph} (h : ReadBack t) : ReadBack (fixText t).1 := by
  rw [← joinWith_splitOn newlineMark t, readBack_joinWith_iff] at h
  rw [← joinWith_splitOn newlineMark (EnvAudit.fixText t).1, readBack_joinWith_iff, splitOn_fixText]
  intro line hline
  obtain ⟨⟨n, raw⟩, hraw, rfl⟩ := List.mem_map.1 hline
  have hmem := mem_of_mem_numbered hraw
  exact (h raw hmem).fixLine (oneLine_of_mem_splitOn t raw hmem) n

end ReadBack

/-! ## Files -/

/-- The units of a file are those of what is written for them. -/
theorem envUnitsOf_encodeGlyphs {t : List Glyph} (h : ReadBack t) (hreturn : Glyph.char '\r' ∉ t) :
    envUnitsOf (encodeGlyphs t) = t := by
  unfold envUnitsOf
  rw [h]
  exact unifyNewlines_of_view (Glyph.view_ne_of_not_mem (by decide) hreturn)

theorem readBack_envUnitsOf (content : Bytes) : ReadBack (envUnitsOf content) :=
  (readBack_decodeKeeping content).unifyNewlines

/-- **The next run reads what the last one wrote.** -/
theorem envUnitsOf_encodeGlyphs_fixText (content : Bytes) :
    envUnitsOf (encodeGlyphs (fixText (envUnitsOf content)).1) = (fixText (envUnitsOf content)).1 := by
  refine envUnitsOf_encodeGlyphs (readBack_envUnitsOf content).fixText fun hreturn => ?_
  rcases mem_fixText hreturn with hunit | hquote | hnewline
  · exact (mem_unifyNewlines _ _ hunit).1 rfl
  · exact absurd hquote (by decide)
  · exact absurd hnewline (by decide)

/-- **Nothing is left to fix** in what was written. -/
theorem fixText_snd_again (content : Bytes) :
    (fixText (envUnitsOf (encodeGlyphs (fixText (envUnitsOf content)).1))).2 = [] := by
  rw [envUnitsOf_encodeGlyphs_fixText, fixText_of_settledLines _ (settledLine_of_mem_fixText (envUnitsOf content))]

/-- What fixing does with a file of these units, where the real run ends with `result` in the world `w'`. -/
structure FixRuns (w : World) (given : Text) (units : List Glyph) (result : Except Halt (List (Fix Glyph)))
    (w' : World) : Prop where
  dry : outcome (fixFile given true) w = (.ok (fixText units).2, w)
  /-- Both runs tell the same fixes, unless the real one cannot write the backup. -/
  real : result = .ok (fixText units).2 ∨
    ∃ f, w.tree.writeFile w.cwd (backupOf (.ofText given)) (encodeGlyphs units) = .error f ∧
      result = .error (.failure f) ∧ w' = w
  elsewhere : ∀ place, place ≠ (Path.ofText given).resolveFrom w.cwd →
    place ≠ (backupOf (.ofText given)).resolveFrom w.cwd → w'.tree.entry? place = w.tree.entry? place
  clean : (fixText units).2 = [] → w' = w
  /-- A run after the real one, dry or not, leaves the fixed file and the backup as they are. -/
  again : ∀ fixes, result = .ok fixes → ∀ dryRun, outcome (fixFile given dryRun) w' = (.ok [], w')

variable {w : World} {given : Text} {content : Bytes}

/-- **Fixing a file**: a dry run tells what the real run does, the real run writes the file and its backup and nothing
else, and what it has fixed stays fixed. -/
theorem fixRuns_fixFile (hread : w.tree.readFile w.cwd (.ofText given) = .ok content) :
    FixRuns w given (envUnitsOf content) (outcome (fixFile given false) w).1 (outcome (fixFile given false) w).2 := by
  have hdry : outcome (fixFile given true) w = (.ok (fixText (envUnitsOf content)).2, w) :=
    outcome_fixFile_of_unchanged hread (.inr rfl)
  have hends := fixEnds_fixFile hread false
  revert hends
  generalize (outcome (fixFile given false) w).1 = result
  generalize (outcome (fixFile given false) w).2 = w'
  rintro (hsame | ⟨hfixes, -, hsave⟩ | ⟨hfixes, -, hsave, hfix⟩)
  · have hnone := hsame.resolve_right Bool.false_ne_true
    refine ⟨hdry, .inl rfl, fun _ _ _ => rfl, fun _ => rfl, fun fixes hfixes dryRun => ?_⟩
    rw [outcome_fixFile_of_unchanged hread (.inl hnone), hnone]
  · exact ⟨hdry, .inr ⟨_, hsave, rfl, rfl⟩, fun _ _ _ => rfl, fun hnone => absurd hnone hfixes, nofun⟩
  · rename_i saved fixed events
    refine ⟨hdry, .inl rfl, fun place hfile hbackup => ?_, fun hnone => absurd hnone hfixes, fun _ _ dryRun => ?_⟩
    · obtain ⟨-, _, -, -, rfl⟩ := FileTree.writeFile_eq_ok hsave
      obtain ⟨-, _, -, -, rfl⟩ := FileTree.writeFile_eq_ok hfix
      rw [FileTree.entry?_put, if_neg hfile, FileTree.entry?_put, if_neg hbackup]
    · have hagain : fixed.readFile w.cwd (.ofText given) = .ok (encodeGlyphs (fixText (envUnitsOf content)).1) :=
        FileTree.readFile_of_writeFile hfix
      have hnone := fixText_snd_again content
      rw [outcome_fixFile_of_unchanged (w := { w with tree := fixed, events := events }) hagain (.inl hnone), hnone]

/-- Two bytes of one character with a comment between them, and three kinds of line terminators. -/
def cutByteFile : Bytes := encode "A = ".toList ++ [0xc3, 13, 10, 0xa9, 13] ++ encode "B=".toList ++ [0xc3] ++
  encode " #".toList ++ [0xa9, 10]

def cutByteWorld : World := World.holding [(".env".toList, cutByteFile)]

theorem fixRuns_fixFile_cutByteFile : (fixText (envUnitsOf cutByteFile)).2 ≠ [] ∧
    FixRuns cutByteWorld ".env".toList (envUnitsOf cutByteFile) (outcome (fixFile ".env".toList false) cutByteWorld).1
      (outcome (fixFile ".env".toList false) cutByteWorld).2 :=
  ⟨by decide, fixRuns_fixFile rfl⟩

end EnvAudit

import EnvAudit.Proofs.EnvFile.Files
import EnvAudit.Proofs.EnvFile.FixedValue
import EnvAudit.Proofs.Text.Kept
/-!
# What a fixed file leaves behind

Fixing a file writes two files, the backup first (`outcome_fixFile_of_saved`).  They are at different places
(`resolveFrom_backupOf_ne`), so neither undoes the other.  The backup has the bytes of the file with every line
terminator made a newline, which are the bytes of the file only if there is no carriage return in it; line by line the
fixed file is the backup wherever no fix is reported (`fixFile_backup`).
-/
namespace EnvAudit

open Session

/-! ## Two places -/

/-- **A file and its backup** are at different places. -/
theorem resolveFrom_backupOf_ne (p : Path) (cwd : Place) : p.resolveFrom cwd ≠ (backupOf p).resolveFrom cwd := by
  have hbackup : ∀ n, n ++ backupSuffix ≠ Path.parentName := by
    intro n h
    have hlength := congrArg List.length h
    rw [List.length_append] at hlength
    change n.length + 7 = 2 at hlength
    omega
  have hroot : (backupOf p).isAbsolute = p.isAbsolute := rfl
  have hnames : (backupOf p).names = p.names.dropLast ++ [p.name ++ backupSuffix] := rfl
  unfold Path.resolveFrom
  rw [hroot, hnames, Path.stepsFrom_append]
  generalize (if p.isAbsolute then [] else cwd) = start
  change _ ≠ (if p.name ++ backupSuffix = Path.parentName then _ else _)
  rw [if_neg (hbackup p.name)]
  unfold Path.name
  rcases List.eq_nil_or_concat p.names with hnil | ⟨ns, n, hlast⟩
  · rw [hnil]
    exact fun h => absurd (List.self_eq_append_right.1 h) (List.cons_ne_nil _ _)
  · rw [hlast, List.concat_eq_append, List.dropLast_concat, Path.stepsFrom_append, List.getLastD_concat]
    change (if n = Path.parentName then _ else _) ≠ _
    split
    · intro h
      have hlength := congrArg List.length h
      rw [List.length_dropLast, List.length_append] at hlength
      change _ = _ + 1 at hlength
      omega
    · intro h
      have hname := List.singleton_inj.1 (List.append_cancel_left h)
      exact absurd (List.self_eq_append_right.1 hname) (by decide)

/-! ## How fixing ends -/

/-- How fixing a file that can be read ends, and in which world. -/
inductive FixEnds (w : World) (p : Path) (units : List Glyph) (dryRun : Bool) :
    Except Halt (List (Fix Glyph)) → World → Prop
  | unchanged (h : (fixText units).2 = [] ∨ dryRun = true) : FixEnds w p units dryRun (.ok (fixText units).2) w
  | unsaved {f : Failure} (hfixes : (fixText units).2 ≠ []) (hreal : dryRun = false)
      (hsave : w.tree.writeFile w.cwd (backupOf p) (encodeGlyphs units) = .error f) :
      FixEnds w p units dryRun (.error (.failure f)) w
  | fixed {saved fixed : FileTree} {events : List Event} (hfixes : (fixText units).2 ≠ []) (hreal : dryRun = false)
      (hsave : w.tree.writeFile w.cwd (backupOf p) (encodeGlyphs units) = .ok saved)
      (hfix : saved.writeFile w.cwd p (encodeGlyphs (fixText units).1) = .ok fixed) :
      FixEnds w p units dryRun (.ok (fixText units).2) { w with tree := fixed, events := events }

variable {w : World} {given : Text} {before : Bytes}

/-- **Fixing a file that can be read** leaves all as it was, fails before anything is written, or writes both files. -/
theorem fixEnds_fixFile (hread : w.tree.readFile w.cwd (.ofText given) = .ok before) (dryRun : Bool) :
    FixEnds w (.ofText given) (envUnitsOf before) dryRun (outcome (fixFile given dryRun) w).1
      (outcome (fixFile given dryRun) w).2 := by
  have hcontent : outcome (envFileContent given (.ofText given)) w = (.ok before, w) :=
    outcome_envFileContent_of_readFile hread
  unfold fixFile
  rw [outcome_bind_of_ok hcontent]
  generalize hunits : envUnitsOf before = units
  by_cases hskip : (fixText units).2 = [] ∨ dryRun = true
  · have hcond : (!(fixText units).2.isEmpty && !dryRun) = false := by
      rcases hskip with h | h <;> simp [h]
    dsimp only
    rw [if_neg (by rw [hcond]; exact Bool.false_ne_true)]
    exact .unchanged hskip
  · have hcond : (!(fixText units).2.isEmpty && !dryRun) = true := by
      simpa [not_or] using hskip
    obtain ⟨hfixes, hreal⟩ := not_or.1 hskip
    have hreal : dryRun = false := by simpa using hreal
    dsimp only
    rw [if_pos hcond]
    cases hsave : w.tree.writeFile w.cwd (backupOf (.ofText given)) (encodeGlyphs units) with
    | error f =>
      have hsaved : outcome (writeFile (backupOf (.ofText given)) (encodeGlyphs units)) w = (.error (.failure f), w) :=
        outcome_changeTree_of_error hsave
      rw [outcome_bind_of_error hsaved]
      exact .unsaved hfixes hreal hsave
    | ok saved =>
      have hsaved : outcome (writeFile (backupOf (.ofText given)) (encodeGlyphs units)) w =
          (.ok ⟨⟩, { w with tree := saved }) := outcome_changeTree_of_ok hsave
      -- the backup is elsewhere, so the file is still there and can be written
      have hkept := FileTree.readFile_of_writeFile_of_ne hread hsave (resolveFrom_backupOf_ne _ _)
      obtain ⟨fixed, hfix⟩ := FileTree.exists_writeFile_of_readFile hkept (encodeGlyphs (fixText units).1)
      have hfixed : outcome (writeFile (.ofText given) (encodeGlyphs (fixText units).1)) { w with tree := saved } =
          (.ok ⟨⟩, { w with tree := fixed }) := outcome_changeTree_of_ok hfix
      rw [outcome_bind_of_ok hsaved, outcome_bind_of_ok hfixed]
      exact .fixed hfixes hreal hsave hfix

theorem FixEnds.eq_of_unchanged {p : Path} {units : List Glyph} {dryRun : Bool} {w' : World}
    {result : Except Halt (List (Fix Glyph))} (h : FixEnds w p units dryRun result w')
    (hsame : (fixText units).2 = [] ∨ dryRun = true) : (result, w') = (.ok (fixText units).2, w) := by
  cases h with
  | unchanged => rfl
  | unsaved hfixes hreal => exact absurd hsame (not_or.2 ⟨hfixes, by simp [hreal]⟩)
  | fixed hfixes hreal => exact absurd hsame (not_or.2 ⟨hfixes, by simp [hreal]⟩)

theorem outcome_fixFile_of_unchanged (hread : w.tree.readFile w.cwd (.ofText given) = .ok before) {dryRun : Bool}
    (hsame : (fixText (envUnitsOf before)).2 = [] ∨ dryRun = true) :
    outcome (fixFile given dryRun) w = (.ok (fixText (envUnitsOf before)).2, w) :=
  (fixEnds_fixFile hread dryRun).eq_of_unchanged hsame

/-! ## Bytes and lines -/

theorem faithful_envUnitsOf (content : Bytes) : Faithful (envUnitsOf content) :=
  faithful_unifyNewlines (faithful_decodeKeeping content)

theorem encodeGlyphs_envUnitsOf (content : Bytes) : encodeGlyphs (envUnitsOf content) = unifiedBytes content := by
  unfold envUnitsOf
  rw [(faithful_decodeKeeping content).encodeGlyphs_unifyNewlines, encodeGlyphs_decodeKeeping]

theorem faithful_fixText {t : List Glyph} (h : Faithful t) : Faithful (fixText t).1 := by
  intro b hb
  rcases mem_fixText hb with hunit | hquote | hnewline
  · exact h b hunit
  · cases hquote
  · cases hnewline

/-- **What fixing a file leaves.**  The backup is the file as it is read, with a newline for every line terminator, so
it has the bytes of the file exactly if no carriage return is among them.  The fixed file has the lines of the backup,
and differs from it only in lines that the fixes name. -/
theorem fixFile_backup {w' : World} {fixes : List (Fix Glyph)}
    (hread : w.tree.readFile w.cwd (.ofText given) = .ok before)
    (hfix : outcome (fixFile given false) w = (.ok fixes, w')) (hfixes : fixes ≠ []) :
    ∃ saved after, w'.tree.readFile w'.cwd (backupOf (.ofText given)) = .ok saved ∧
      w'.tree.readFile w'.cwd (.ofText given) = .ok after ∧
      saved = unifiedBytes before ∧ (saved = before ↔ 13 ∉ before) ∧
      (splitOn 10 after).length = (splitOn 10 saved).length ∧
      ∀ i : Nat, (∀ f ∈ fixes, f.line ≠ (i : Int) + 1) → (splitOn 10 after)[i]? = (splitOn 10 saved)[i]? := by
  have hends := fixEnds_fixFile hread false
  rw [hfix] at hends
  cases hends with
  | unchanged h => exact absurd (h.resolve_right Bool.false_ne_true) hfixes
  | fixed _ _ hsave hwrite =>
    have hunits := faithful_envUnitsOf before
    have hbackup := FileTree.readFile_of_writeFile hsave
    refine ⟨encodeGlyphs (envUnitsOf before), encodeGlyphs (fixText (envUnitsOf before)).1,
      FileTree.readFile_of_writeFile_of_ne hbackup hwrite (resolveFrom_backupOf_ne _ _).symm,
      FileTree.readFile_of_writeFile hwrite, encodeGlyphs_envUnitsOf before, ?_, ?_, ?_⟩
    · rw [encodeGlyphs_envUnitsOf]
      exact unifiedBytes_eq_self_iff before
    · rw [hunits.splitOn_encodeGlyphs, (faithful_fixText hunits).splitOn_encodeGlyphs, List.length_map, List.length_map,
        length_splitOn_fixText]
    · intro i hi
      rw [hunits.splitOn_encodeGlyphs, (faithful_fixText hunits).splitOn_encodeGlyphs, List.getElem?_map,
        List.getElem?_map, getElem?_splitOn_fixText_of_unnamed hi]

/-- A line with a byte that is no character, a line to be fixed, and no newline behind it. -/
def keptByteFile : Bytes := encode "A=".toList ++ [0xff, 10] ++ encode "B = 2".toList

def keptByteWorld : World := World.holding [(".env".toList, keptByteFile)]

def keptByteRun : Except Halt (List (Fix Glyph)) × World :=
  outcome (fixFile ".env".toList false) keptByteWorld

theorem fixFile_backup_keptByteFile : ∃ saved after,
    keptByteRun.2.tree.readFile keptByteRun.2.cwd (backupOf (.ofText ".env".toList)) = .ok saved ∧
      keptByteRun.2.tree.readFile keptByteRun.2.cwd (.ofText ".env".toList) = .ok after ∧
      saved = unifiedBytes keptByteFile ∧ (saved = keptByteFile ↔ 13 ∉ keptByteFile) ∧
      (splitOn 10 after).length = (splitOn 10 saved).length ∧
      ∀ i : Nat, (∀ f ∈ (fixText (envUnitsOf keptByteFile)).2, f.line ≠ (i : Int) + 1) →
        (splitOn 10 after)[i]? = (splitOn 10 saved)[i]? :=
  @fixFile_backup keptByteWorld ".env".toList keptByteFile _ _ rfl rfl (by decide)

/-- **A file with a carriage return** is not what its backup holds. -/
theorem not_fixFile_backup_original : ¬ ∀ (w w' : World) (given : Text) (before : Bytes) (fixes : List (Fix Glyph)),
    w.tree.readFile w.cwd (.ofText given) = .ok before → outcome (fixFile given false) w = (.ok fixes, w') →
      fixes ≠ [] → w'.tree.readFile w'.cwd (backupOf (.ofText given)) = .ok before := by
  intro hbackup
  have h := hbackup (World.holding [(".env".toList, encode "A=1\r\nB = 2\n".toList)]) _ ".env".toList _ _ rfl rfl
    (by decide)
  revert h
  decide

end EnvAudit

import EnvAudit.Proofs.EnvFile.Files
import EnvAudit.Proofs.EnvFile.Reading
import EnvAudit.Proofs.Text.Terminators
/-!
# Env files put one behind the other

A blank line gives up the comment that waits, so what stands above it and what stands below it are read without each
other, but for the numbers of the lines (`readEnv_append_blankLine`).  On the bytes this takes two newlines.  The first
may end an unfinished character, and would belong to a carriage return before it; else each of them ends a line,
whatever the bytes around them are (`readEnvFile_append_blankLine`).
-/
namespace EnvAudit

def Variable.movedDown (v : Variable) (count : Nat) : Variable := { v with line := v.line + count }

/-! ## Texts -/

theorem variablesFrom_add (n count : Nat) : ∀ (waiting : Option Text) (ls : List Text),
    variablesFrom (n + count) waiting ls = (variablesFrom n waiting ls).map (·.movedDown count)
  | _, [] => rfl
  | waiting, line :: rest => by
    have hrest : ∀ waiting, variablesFrom (n + count + 1) waiting rest =
        (variablesFrom (n + 1) waiting rest).map (·.movedDown count) := fun waiting => by
      rw [Nat.add_right_comm, variablesFrom_add (n + 1) count waiting rest]
    rw [variablesFrom, variablesFrom]
    cases classify line with
    | blank => exact hrest none
    | comment note => exact hrest note
    | junk => exact hrest waiting
    | assignment key value =>
      dsimp only
      rw [List.map_cons, hrest none]
      rfl

theorem variablesFrom_append_blank (n : Nat) (waiting : Option Text) (ls ms : List Text) :
    variablesFrom n waiting (ls ++ [] :: ms) =
      variablesFrom n waiting ls ++ variablesFrom (n + ls.length + 1) none ms := by
  have hnumber := walkEnd_readStep_number ls n waiting
  rw [variablesFrom_eq_walk, variablesFrom_eq_walk, variablesFrom_eq_walk, walk_append, ← hnumber]
  rfl

/-- **Around a blank line** a text is read in parts. -/
theorem readEnv_append_blankLine (s t : Text) : readEnv (s ++ '\n' :: '\n' :: t) =
    readEnv s ++ (readEnv t).map (·.movedDown (s.count '\n' + 2)) := by
  have hlines : lines (s ++ '\n' :: '\n' :: t) = lines s ++ [] :: lines t := by
    have hempty : splitOn '\n' ('\n' :: t) = [] :: splitOn '\n' t := splitOn_append_cons '\n' [] t
    unfold lines
    rw [splitOn_append_cons, hempty]
  have hcount : (lines s).length = s.count '\n' + 1 := length_splitOn '\n' s
  unfold readEnv
  rw [hlines, variablesFrom_append_blank, hcount, Nat.add_assoc 1, variablesFrom_add]

/-! ## Files -/

theorem envTextOf_eq_decodeLossy (content : Bytes) : envTextOf content = decodeLossy (unifiedBytes content) :=
  unifyNewlines_decodeLossy content

theorem count_newline_envTextOf (content : Bytes) : (envTextOf content).count '\n' = terminators content := by
  rw [envTextOf_eq_decodeLossy, count_newline_decodeLossy, count_unifiedBytes]

theorem envTextOf_append_newlines {x : Bytes} (hx : x.getLast? ≠ some 13) (y : Bytes) :
    envTextOf (x ++ 10 :: 10 :: y) = envTextOf x ++ '\n' :: '\n' :: envTextOf y := by
  have hblank : decodeLossy (10 :: unifiedBytes y) = '\n' :: decodeLossy (unifiedBytes y) :=
    decodeLossy_append_newline [] _
  rw [envTextOf_eq_decodeLossy, envTextOf_eq_decodeLossy, envTextOf_eq_decodeLossy, unifiedBytes_append_newline hx,
    unifiedBytes_cons (by decide), decodeLossy_append_newline, hblank]

theorem readEnvFile_append_blankLine {x : Bytes} (hx : x.getLast? ≠ some 13) (y : Bytes) :
    readEnvFile (x ++ 10 :: 10 :: y) = readEnvFile x ++ (readEnvFile y).map (·.movedDown (terminators x + 2)) := by
  unfold readEnvFile
  rw [envTextOf_append_newlines hx, readEnv_append_blankLine, count_newline_envTextOf]

/-- A file with this content is read as these variables, whichever file it is. -/
def FileReads (content : Bytes) (vs : List Variable) : Prop :=
  ∀ (w : World) (given : Text) (p : Path), w.tree.readFile w.cwd p = .ok content →
    (Session.outcome (readVariables given p) w).1 = .ok vs

theorem fileReads_iff (content : Bytes) (vs : List Variable) : FileReads content vs ↔ vs = readEnvFile content := by
  constructor
  · intro h
    let w := World.holding [(".env".toList, content)]
    let p := Path.ofText ".env".toList
    have hfile : w.tree.readFile w.cwd p = .ok content := rfl
    obtain ⟨es, -, hread⟩ := exists_outcome_readVariables p.text hfile
    have hvs := h w p.text p hfile
    rw [hread] at hvs
    exact (Except.ok.inj hvs).symm
  · rintro rfl w given p h
    obtain ⟨es, -, hread⟩ := exists_outcome_readVariables given h
    rw [hread]

/-- **A file put behind another**, with a blank line between, whatever bytes they hold: the variables of the one and
then those of the other, as many lines further down as the first has with the blank line. -/
theorem fileReads_append_blankLine {x : Bytes} (hx : x.getLast? ≠ some 13) (y : Bytes) :
    FileReads x (readEnvFile x) ∧ FileReads y (readEnvFile y) ∧
      FileReads (x ++ 10 :: 10 :: y) (readEnvFile x ++ (readEnvFile y).map (·.movedDown (terminators x + 2))) := by
  simp only [fileReads_iff, true_and]
  exact (readEnvFile_append_blankLine hx y).symm

/-- The first file ends in the middle of a character, and the second begins with the byte that would complete it. -/
theorem fileReads_append_blankLine_cutCharacter :
    let x : Bytes := encode "A=1\r\nB=".toList ++ [0xC3]
    let y : Bytes := 0xA9 :: encode "\n# note\rC=2".toList
    x.getLast? ≠ some 13 ∧ terminators x = 1 ∧
      readEnvFile x = [⟨['A'], ['1'], 1, none⟩, ⟨['B'], [replacement], 2, none⟩] ∧
      readEnvFile y = [⟨['C'], ['2'], 3, some "note".toList⟩] ∧
      FileReads (x ++ 10 :: 10 :: y)
        [⟨['A'], ['1'], 1, none⟩, ⟨['B'], [replacement], 2, none⟩, ⟨['C'], ['2'], 6, some "note".toList⟩] := by
  intro x y
  have hx : x.getLast? ≠ some 13 := by decide
  have hvs : readEnvFile x = [⟨['A'], ['1'], 1, none⟩, ⟨['B'], [replacement], 2, none⟩] := by decide
  have hus : readEnvFile y = [⟨['C'], ['2'], 3, some "note".toList⟩] := by decide
  have hall := (fileReads_append_blankLine hx y).2.2
  rw [hvs, hus] at hall
  exact ⟨hx, by decide, hvs, hus, hall⟩

end EnvAudit

import EnvAudit.EnvFile.Files
import EnvAudit.Proofs.World.FileTree
import EnvAudit.Proofs.World.Session
/-!
# Env files that are read

Reading an env file leaves the world as it is but for what is recorded, all of it below the level of a warning
(`exists_outcome_readVariables`).  A path that leads to no regular file is a problem and nothing else.
-/
namespace EnvAudit

open Session

variable {w : World} {given : Text} {p : Path} {content : Bytes}

theorem outcome_envFileContent_of_readFile (h : w.tree.readFile w.cwd p = .ok content) :
    outcome (envFileContent given p) w = (.ok content, w) := by
  have hfile : outcome (isFile p) w = (.ok true, w) := by
    rw [outcome_isFile, FileTree.isFile_eq_true_iff.2 ⟨content, h⟩]
    rfl
  have hread : outcome (readFile p) w = (.ok content, w) := by
    rw [outcome_readFile, h]
    rfl
  unfold envFileContent
  rw [outcome_bind_of_ok hfile]
  exact hread

theorem outcome_envFileContent_of_not_isFile (h : w.tree.isFile w.cwd p = .ok false) :
    outcome (envFileContent given p) w = (.error (.problem (.envFileMissing given p.text)), w) := by
  have hfile : outcome (isFile p) w = (.ok false, w) := by
    rw [outcome_isFile, h]
    rfl
  unfold envFileContent
  rw [outcome_bind_of_ok hfile]
  rfl

/-- What is recorded for debugging alone. -/
def Event.IsDebug (e : Event) : Prop := ∃ r : Record, e = .record r ∧ r.level = .debug

theorem Event.IsDebug.isQuiet {e : Event} (h : e.IsDebug) : e.IsQuiet := by
  obtain ⟨r, rfl, -⟩ := h
  rfl

/-- **The variables of a file that can be read** are those of its text. -/
theorem exists_outcome_readVariables (given : Text) (h : w.tree.readFile w.cwd p = .ok content) : ∃ es : List Event,
    (∀ e ∈ es, e.IsDebug) ∧
      outcome (readVariables given p) w = (.ok (readEnvFile content), { w with events := es ++ w.events }) := by
  have hcontent : outcome (envFileContent given p) w = (.ok content, w) := outcome_envFileContent_of_readFile h
  have hskipped := outcome_forIn_emit (fun n => .record ⟨parserLog.toList, .debug,
    "Skipping line ".toList ++ decimal n ++ ": not a KEY=VALUE assignment".toList⟩) (junkLines (envTextOf content)) w
  unfold readVariables
  rw [outcome_bind_of_ok hcontent]
  refine ⟨.record _ :: ((junkLines (envTextOf content)).map _).reverse, ?_, outcome_bind_of_ok hskipped _⟩
  intro e he
  rcases List.mem_cons.1 he with rfl | he
  · exact ⟨_, rfl, rfl⟩
  · obtain ⟨n, -, rfl⟩ := List.mem_map.1 (List.mem_reverse.1 he)
    exact ⟨_, rfl, rfl⟩

theorem outcome_readVariables_of_not_isFile (h : w.tree.isFile w.cwd p = .ok false) :
    outcome (readVariables given p) w = (.error (.problem (.envFileMissing given p.text)), w) := by
  have hcontent : outcome (envFileContent given p) w = (.error (.problem (.envFileMissing given p.text)), w) :=
    outcome_envFileContent_of_not_isFile h
  exact outcome_bind_of_error hcontent _

/-- Nothing is read of a path that leads to no regular file, or is too long to tell. -/
theorem exists_outcome_readVariables_of_not_isFile (given : Text) (h : w.tree.isFile w.cwd p ≠ .ok true) :
    ∃ e, outcome (readVariables given p) w = (.error e, w) := by
  cases hfile : w.tree.isFile w.cwd p with
  | ok there =>
    cases there with
    | true => exact absurd hfile h
    | false => exact ⟨_, outcome_readVariables_of_not_isFile hfile⟩
  | error f =>
    have hrefused : outcome (isFile p) w = (.error (.failure f), w) := by
      rw [outcome_isFile, hfile]
      rfl
    have hcontent : outcome (envFileContent given p) w = (.error (.failure f), w) := outcome_bind_of_error hrefused _
    exact ⟨_, outcome_bind_of_error hcontent _⟩

/-! ## Secrets -/

theorem exists_outcome_detectLogged (table : List Signature) (vs : List Variable) (w : World) : ∃ e : Event,
    e.IsDebug ∧ outcome (detectLogged table vs) w = (.ok (detect table vs), { w with events := e :: w.events }) :=
  ⟨.record _, ⟨_, rfl, rfl⟩, rfl⟩

theorem exists_outcome_detectInFile (table : List Signature) (given : Text)
    (h : w.tree.readFile w.cwd p = .ok content) : ∃ es : List Event, (∀ e ∈ es, e.IsDebug) ∧
      outcome (detectInFile table given p) w =
        (.ok (detect table (readEnvFile content)), { w with events := es ++ w.events }) := by
  obtain ⟨es, hdebug, hread⟩ := exists_outcome_readVariables given h
  obtain ⟨e, he, hdetect⟩ := exists_outcome_detectLogged table (readEnvFile content) { w with events := es ++ w.events }
  exact ⟨e :: es, List.forall_mem_cons.2 ⟨he, hdebug⟩, (outcome_bind_of_ok hread _).trans hdetect⟩

theorem outcome_detectInFile_of_not_isFile (table : List Signature) (h : w.tree.isFile w.cwd p = .ok false) :
    outcome (detectInFile table given p) w = (.error (.problem (.envFileMissing given p.text)), w) :=
  outcome_bind_of_error (outcome_readVariables_of_not_isFile h) _

/-! ## Files left alone -/

theorem leavesFiles_readVariables (given : Text) (p : Path) : LeavesFiles (readVariables given p) := by
  have hcontent : LeavesFiles (envFileContent given p) := by
    refine (leavesFiles_isFile p).bind fun there => ?_
    cases there with
    | true => exact leavesFiles_readFile p
    | false => exact (leavesFiles_throw _).bind fun _ => leavesFiles_readFile p
  refine hcontent.bind fun content => ?_
  refine LeavesFiles.bind (fun w => ?_) fun _ => (leavesFiles_emit _).bind fun _ => leavesFiles_pure _
  exact congrArg (fun ending : Except Halt PUnit × World => ending.2.tree) (outcome_forIn_emit _ _ w)

theorem leavesFiles_detectInFile (table : List Signature) (given : Text) (p : Path) :
    LeavesFiles (detectInFile table given p) :=
  (leavesFiles_readVariables given p).bind fun _ => (leavesFiles_emit _).bind fun _ => leavesFiles_pure _

end EnvAudit

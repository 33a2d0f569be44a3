import EnvAudit.Proofs.EnvFile.Files
import EnvAudit.Proofs.Text.Utf8
import EnvAudit.Schema.Files
/-!
# Broken schemas

A schema file that exists is loaded, or spoils the validation of every env file with one more violation, or ends the
run.  The last it does exactly if it holds something that nobody foresees (`Unforeseen`): an integer that is too long
to be read, a YAML scalar that has the look of a value and is none, a document that goes deeper than its reader can
follow, or a pattern with a repetition count beyond all bounds or with groups that go too deep.  In every other case
validation has a result (`validateFile_schema`).
-/
namespace EnvAudit

variable {host : Host} {format : SchemaFormat} {t : Text} {v : Value} {f : Failure}

/-! ## What is not foreseen -/

open Session

/-- What validation makes of a schema that was asked for. -/
def judged (vs : List Variable) : Except Halt Schema → Except Halt Validation
  | .ok s => .ok (validate (some s) vs)
  | .error (.problem problem) => .ok ⟨vs, violations none vs ++ [.schema problem.message]⟩
  | .error (.failure f) => .error (.failure f)

variable {w : World} {content bs : Bytes}

theorem exists_outcome_loadSchemaFile (p : Path) (w : World) : ∃ events, outcome (loadSchemaFile p) w =
    (loadSchema w.host p.text (schemaFormat p) (w.tree.readFile w.cwd p), { w with events := events }) := by
  unfold loadSchemaFile
  rw [outcome_bind_of_ok (outcome_get w), outcome_bind_of_ok (outcome_tryReadFile p w), outcome_bind, outcome_orHalt]
  cases loadSchema w.host p.text (schemaFormat p) (w.tree.readFile w.cwd p) with
  | error h => exact ⟨w.events, rfl⟩
  | ok s => exact ⟨_, rfl⟩

theorem outcome_validateAgainst {given : Text} (hschema : w.tree.readFile w.cwd (.ofText given) = .ok bs)
    (vs : List Variable) : (outcome (validateAgainst (some given) vs) w).1 =
      judged vs (loadSchema w.host (Path.ofText given).text (schemaFormat (.ofText given)) (.ok bs)) := by
  have hthere : outcome (exists? (.ofText given)) w = (.ok true, w) := by
    rw [outcome_exists?, FileTree.exists?_of_readFile hschema]
    rfl
  obtain ⟨events, hload⟩ := exists_outcome_loadSchemaFile (.ofText given) w
  rw [hschema] at hload
  unfold validateAgainst
  dsimp only
  rw [outcome_bind_of_ok hthere, if_neg (by decide), outcome_bind, outcome_attempt, hload]
  rcases loadSchema w.host (Path.ofText given).text (schemaFormat (.ofText given)) (.ok bs) with (problem | f) | s <;>
    rfl

theorem outcome_validateFile {env given : Text} (henv : w.tree.readFile w.cwd (.ofText env) = .ok content)
    (hschema : w.tree.readFile w.cwd (.ofText given) = .ok bs) : (outcome (validateFile env (some given)) w).1 =
      judged (readEnvFile content)
        (loadSchema w.host (Path.ofText given).text (schemaFormat (.ofText given)) (.ok bs)) := by
  obtain ⟨es, -, hread⟩ := exists_outcome_readVariables env henv
  unfold validateFile
  rw [outcome_bind_of_ok hread]
  exact outcome_validateAgainst (w := { w with events := es ++ w.events }) hschema _

end EnvAudit

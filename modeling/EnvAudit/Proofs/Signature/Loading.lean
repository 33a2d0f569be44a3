import EnvAudit.Proofs.Document.Value
import EnvAudit.Proofs.Text.Utf8
import EnvAudit.Proofs.World.FileTree
import EnvAudit.Signature.Reader
import Mathlib.Data.List.Forall2
/-!
# Loading a table

A signature file is loaded as a table with one entry for each that it lists, in order, or it is reported as spoiled; no
part of a table is ever loaded.  That is so for every file but those that hold something nobody foresees (`EndsTable`,
`EndsLoading`): a document that is neither blank nor a map or that goes too deep, a pattern with a repetition count beyond
all bounds or with groups that go too deep, or one of three YAML scalars that have the look of a value and are none.
These end the run (`tableEnds_loadTable`), and a list at the top is enough for it (`not_loadTable_foreseen`).
-/
namespace EnvAudit

/-! ## One after the other -/

section Traversal

variable {α β ε : Type} {f : α → Except ε β}

end Traversal

/-! ## Entries -/

variable {host : Host}

theorem Severity.named?_eq_some_iff {t : Text} {s : Severity} : Severity.named? t = some s ↔ t = s.name := by
  constructor
  · intro h
    have hname := List.find?_some h
    exact (of_decide_eq_true hname).symm
  · rintro rfl
    cases s <;> rfl

/-- What loading makes of reading. -/
def reported (path : Text) : Except Cause (List TableEntry) → Except Halt (List TableEntry)
  | .ok table => .ok table
  | .error (.failure f) =>
    if (Cause.failure f).spoilsTable then .error (.problem (.tableNotLoaded path (.failure f)))
    else .error (.failure f)
  | .error cause => .error (.problem (.tableNotLoaded path cause))

end EnvAudit

import EnvAudit.Proofs.Pattern.Occurrence
import EnvAudit.Proofs.Signature.Bundled
/-!
# The rank of a value

The rank of a value is the place of the first entry of a table that knows it, and so the lower the rank the earlier
the entry.  Plain patterns know a text whatever stands around it, so a text never ranks behind a part of it
(`exists_rank_le_of_isInfix`).  No two bundled entries have one name, so the name that a finding gives tells the rank
(`rankOfName?_eq`).
-/
namespace EnvAudit

def rank? (table : List Signature) (value : Text) : Option Nat := table.findIdx? (·.matches value)

theorem firstMatch_of_rank {table : List Signature} {value : Text} {i : Nat} (h : rank? table value = some i) :
    firstMatch table value = table[i]? := by
  unfold firstMatch
  rw [List.find?_eq_bind_findIdx?_getElem?, show table.findIdx? (·.matches value) = some i from h, Option.bind_some]

/-- **A text never ranks behind a part of it.** -/
theorem exists_rank_le_of_isInfix {table : List Signature} (hplain : ∀ s ∈ table, s.pattern.isPlain = true)
    {part whole : Text} (hpart : part <:+: whole) {i : Nat} (h : rank? table part = some i) :
    ∃ j ≤ i, rank? table whole = some j := by
  have hknown : ∀ s ∈ table, s.matches part = true → s.matches whole = true :=
    fun s hs => occursIn_of_isInfix (hplain s hs) hpart
  exact List.findIdx?_eq_some_le_of_findIdx?_eq_some hknown h

/-! ## Names -/

/-- The place in the bundled table of the entry with a name. -/
def rankOfName? (name : Value) : Option Nat := bundledTable.findIdx? fun s => s.label = name.plain

theorem bundledTable_names : ∀ i < bundledTable.length, ∀ s ∈ bundledTable[i]?, rankOfName? s.name = some i := by
  decide +kernel

theorem rankOfName?_eq {i : Nat} {s : Signature} (h : bundledTable[i]? = some s) : rankOfName? s.name = some i :=
  bundledTable_names i (List.getElem?_eq_some_iff.1 h).1 s h

end EnvAudit

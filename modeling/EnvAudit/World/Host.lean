import EnvAudit.Text.Basic
/-!
# Hosts

What a run finds on the machine that it runs on: how deep its readers, its writers and its search patterns can go before
the stack is at its end, how much memory one read can ask for, and the names of characters, which are a table of their
own standard.  Nothing here is changed by a run, and what is said of all worlds is said of all hosts.
-/
namespace EnvAudit

/-- More bytes than one block of memory can have. -/
def blockBound : Nat := Nat.pow 2 63 - 33

structure Host where
  /-- The character that a name stands for. -/
  characterNamed : Text → Option Char
  /-- Lists and maps inside one another in a JSON text. -/
  jsonLevels : Nat
  /-- Collections inside one another in a YAML text. -/
  yamlLevels : Nat
  /-- Calls of the pattern reader inside one another. -/
  patternCalls : Nat
  /-- Calls inside one another while a value is copied. -/
  copyCalls : Nat
  /-- Values inside one another below a value that is shown. -/
  shownLevels : Nat
  /-- The bytes that one read must stay below. -/
  memory : Nat
  jsonLevels_pos : 0 < jsonLevels
  copyCalls_scalar : 3 ≤ copyCalls
  memory_le : memory ≤ blockBound

/-- A host with a stack of a thousand calls, an address space of 47 bits and the names of no characters. -/
def Host.usual : Host where
  characterNamed _ := none
  jsonLevels := 990
  yamlLevels := 490
  patternCalls := 990
  copyCalls := 990
  shownLevels := 990
  memory := Nat.pow 2 47
  jsonLevels_pos := by decide
  copyCalls_scalar := by decide
  memory_le := by decide

instance : Inhabited Host := ⟨.usual⟩

end EnvAudit

import EnvAudit.Pattern.Match
/-!
# Schemas

A schema lists required keys and gives rules for single ones: whether the key is required, and a pattern that must
occur in its value.
-/
namespace EnvAudit

/-- A pattern as it is written and as it is read. -/
structure WrittenPattern where
  source : Text
  pattern : Pattern
  deriving Repr

structure Rule where
  required : Bool
  pattern : Option WrittenPattern
  description : Option Text
  deriving Repr

structure Schema where
  required : List Text
  rules : List (Text × Rule)
  deriving Repr

namespace Schema

def empty : Schema := ⟨[], []⟩

/-- Each key once, in the order of first appearance. -/
def distinct (seen : List Text) : List Text → List Text
  | [] => []
  | k :: ks => if seen.contains k then distinct seen ks else k :: distinct (k :: seen) ks

/-- The listed keys, then those whose rule requires them. -/
def requiredKeys (s : Schema) : List Text :=
  distinct [] (s.required ++ (s.rules.filter fun r => r.2.required).map (·.1))

def patterns (s : Schema) : List (Text × WrittenPattern) :=
  s.rules.filterMap fun r => r.2.pattern.map fun p => (r.1, p)

end Schema

end EnvAudit

import EnvAudit.Yaml.Token
import EnvAudit.Pattern.Reader
import EnvAudit.Pattern.Match
/-!
# Nodes

A node is what a document says before its scalars are read: a tagged text, a sequence or a mapping.  A scalar without
a tag that is not quoted gets one from its spelling: numbers, truth values, times and nulls are each a pattern, tried
for the first characters that can begin them.
-/
namespace EnvAudit.Yaml

inductive Tag where
  | null
  | bool
  | int
  | float
  | text
  | binary
  | time
  /-- The key under which a mapping takes over the entries of others. -/
  | merge
  /-- The key under which a mapping states its value as a scalar. -/
  | default
  | seq
  | map
  | set
  | orderedMap
  | pairs
  | unknown
  /-- A mapping that takes over entries from something without entries. -/
  | badMerge
  deriving DecidableEq, Repr

inductive Node where
  | scalar (tag : Tag) (text : Text)
  | seq (tag : Tag) (items : List Node)
  | map (tag : Tag) (entries : List (Node × Node))
  /-- A collection of this name inside itself. -/
  | inside (anchor : Text) (tag : Tag) (isMap : Bool)
  deriving Repr

def Node.null : Node := .scalar .null []

/-! ## Collections inside themselves

An alias can stand inside the collection that it names.  Nothing is asked of a document below its fourth level, so such
a collection is kept as four copies of itself, one inside the other; where one is shown, it ends there. -/

mutual
/-- The node with another in the place of the collection inside itself. -/
def filled (anchor : Text) (m : Node) : Node → Node
  | .scalar tag t => .scalar tag t
  | .seq tag ns => .seq tag (filledItems anchor m ns)
  | .map tag es => .map tag (filledEntries anchor m es)
  | .inside a tag isMap => if a = anchor then m else .inside a tag isMap

def filledItems (anchor : Text) (m : Node) : List Node → List Node
  | [] => []
  | n :: ns => filled anchor m n :: filledItems anchor m ns

def filledEntries (anchor : Text) (m : Node) : List (Node × Node) → List (Node × Node)
  | [] => []
  | (k, v) :: es => (filled anchor m k, filled anchor m v) :: filledEntries anchor m es
end

/-- A collection that has been read under its name, if it has one. -/
def Node.copied (n : Node) : Option Text → Node
  | none => n
  | some anchor => filled anchor (filled anchor (filled anchor n n) n) n

/-! ## Tags by name -/

def standardLead : Text := "tag:yaml.org,2002:".toList

def standardTags : List (Text × Tag) := [
  ("null".toList, .null), ("bool".toList, .bool), ("int".toList, .int), ("float".toList, .float),
  ("str".toList, .text), ("binary".toList, .binary), ("timestamp".toList, .time), ("merge".toList, .merge),
  ("value".toList, .default), ("seq".toList, .seq), ("map".toList, .map), ("set".toList, .set),
  ("omap".toList, .orderedMap), ("pairs".toList, .pairs)]

def Tag.named (name : Text) : Tag :=
  match after? standardLead name with
  | none => .unknown
  | some short => ((standardTags.find? fun t => t.1 = short).map (·.2)).getD .unknown

/-! ## Tags by spelling -/

/-- A pattern of this module, all of which can be read. -/
def form (t : String) : Pattern := (readPattern .usual t.toList).toOption.getD .empty

def boolForm : Pattern :=
  form "^(?:yes|Yes|YES|no|No|NO|true|True|TRUE|false|False|FALSE|on|On|ON|off|Off|OFF)$"

def floatForm : Pattern := .any [
  form "^[-+]?(?:[0-9][0-9_]*)\\.[0-9_]*(?:[eE][-+][0-9]+)?$",
  form "^\\.[0-9][0-9_]*(?:[eE][-+][0-9]+)?$",
  form "^[-+]?[0-9][0-9_]*(?::[0-5]?[0-9])+\\.[0-9_]*$",
  form "^[-+]?\\.(?:inf|Inf|INF)$",
  form "^\\.(?:nan|NaN|NAN)$"]

def intForm : Pattern := .any [
  form "^[-+]?0b[0-1_]+$",
  form "^[-+]?0[0-7_]+$",
  form "^[-+]?(?:0|[1-9][0-9_]*)$",
  form "^[-+]?0x[0-9a-fA-F_]+$",
  form "^[-+]?[1-9][0-9_]*(?::[0-5]?[0-9])+$"]

def mergeForm : Pattern := form "^(?:<<)$"

def nullForm : Pattern := form "^(?:~|null|Null|NULL|)$"

def dayForm : Pattern := form "^[0-9][0-9][0-9][0-9]-[0-9][0-9]-[0-9][0-9]$"

def momentForm : Pattern :=
  .seq (form "^[0-9][0-9][0-9][0-9]-[0-9][0-9]?-[0-9][0-9]?(?:[Tt]|[ \\t]+)[0-9][0-9]?:[0-9][0-9]:[0-9][0-9]")
    (form "(?:\\.[0-9]*)?(?:[ \\t]*(?:Z|[-+][0-9][0-9]?(?::[0-9][0-9])?))?$")

def timeForm : Pattern := .alt dayForm momentForm

def defaultForm : Pattern := form "^(?:=)$"

/-- What is documented as the spelling of a node's own marks; no scalar is read from it. -/
def markForm : Pattern := form "^(?:!|&|\\*)$"

/-- The forms in the order in which they are tried, each with the characters that can begin it. -/
def forms : List (Text × Pattern × Tag) := [
  ("yYnNtTfFoO".toList, boolForm, .bool),
  ("-+0123456789.".toList, floatForm, .float),
  ("-+0123456789".toList, intForm, .int),
  ("<".toList, mergeForm, .merge),
  ("~nN\x00".toList, nullForm, .null),
  ("0123456789".toList, timeForm, .time),
  ("=".toList, defaultForm, .default),
  ("!&*".toList, markForm, .unknown)]

/-- An empty scalar is looked up under NUL, with which no scalar begins unless it is quoted. -/
def Tag.ofSpelling (t : Text) : Tag :=
  let lead := t.headD '\x00'
  let fits (f : Text × Pattern × Tag) : Bool := f.1.contains lead && f.2.1.opens t
  ((forms.find? fits).map (·.2.2)).getD .text

/-! ## Merging

A mapping takes over the entries of the mappings under its merge keys, before its own, so that its own win.  Of
several under one key the first wins. -/

def Node.isMergeKey : Node → Bool
  | .scalar .merge _ => true
  | .seq .merge _ => true
  | .map .merge _ => true
  | .inside _ .merge _ => true
  | _ => false

/-- A key that states a default is a text like any other once its mapping is read as one. -/
def Node.asKey : Node → Node
  | .scalar .default t => .scalar .text t
  | .seq .default ns => .seq .text ns
  | .map .default es => .map .text es
  | .inside anchor .default isMap => .inside anchor .text isMap
  | n => n

/-- A mapping has no more to take over from itself. -/
def Node.entries? : Node → Option (List (Node × Node))
  | .map .badMerge _ => none
  | .map _ es => some es
  | .inside _ _ true => some []
  | _ => none

/-- What stands under a merge key: the entries of a mapping, or those of a list of mappings, the last first. -/
def Node.takenOver? : Node → Option (List (Node × Node))
  | .seq _ ns => (ns.reverse.mapM Node.entries?).map List.flatten
  | .inside _ _ false => some []
  | n => n.entries?

def mergeEntries (es : List (Node × Node)) : Option (List (Node × Node)) := do
  let taken ← (es.filter fun e => e.1.isMergeKey).mapM fun e => e.2.takenOver?
  some (taken.flatten ++ (es.filter fun e => !e.1.isMergeKey).map fun e => (e.1.asKey, e.2))

def Tag.isMapping : Tag → Bool
  | .map | .set => true
  | _ => false

mutual
/-- The node with every mapping's merge keys resolved. -/
def Node.merged : Node → Node
  | .scalar tag t => .scalar tag t
  | .seq tag ns => .seq tag (mergedItems ns)
  | .map tag es =>
    let es := mergedEntries es
    if tag.isMapping then
      match mergeEntries es with
      | some all => .map tag all
      | none => .map .badMerge es
    else .map tag es
  | .inside anchor tag isMap => .inside anchor tag isMap

def mergedItems : List Node → List Node
  | [] => []
  | n :: ns => n.merged :: mergedItems ns

def mergedEntries : List (Node × Node) → List (Node × Node)
  | [] => []
  | (k, v) :: es => (k.merged, v.merged) :: mergedEntries es
end

end EnvAudit.Yaml

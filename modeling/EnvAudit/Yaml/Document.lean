import EnvAudit.Yaml.Node
/-!
# From tokens to a document

The reader is a descent over the tokens, with so many levels for collections inside one another.  Beside the tokens left
it carries the nodes that anchors name.  A collection is named before it is read, so that an alias can stand inside it.
-/
namespace EnvAudit.Yaml

structure Composer where
  tokens : List Token
  anchors : List (Text × Node)
  handles : List (Text × Text)

namespace Composer

def next (c : Composer) : Token := c.tokens.headD .streamEnd

def drop (c : Composer) : Composer := { c with tokens := c.tokens.tail }

def node? (c : Composer) (name : Text) : Option Node :=
  (c.anchors.find? fun a => a.1 = name).map (·.2)

/-- What is wrong where another token is asked for. -/
def unexpected {α : Type} (c : Composer) : Except Fault α :=
  match c.next with
  | .fault f => .error f
  | _ => .error .malformed

/-- Names a node; the name of a collection that is still being read is given to it as a whole. -/
def setAnchor (c : Composer) (anchor : Option Text) (n : Node) : Composer :=
  match anchor with
  | none => c
  | some name => { c with anchors := (name, n) :: c.anchors }

end Composer

/-! ## Properties -/

structure Properties where
  anchor : Option Text
  /-- The full name of the tag; one exclamation mark asks for a tag by spelling. -/
  tag : Option Text

def fullTag (c : Composer) : Option Text → Text → Option Text
  | none, suffix => some suffix
  | some handle, suffix => ((c.handles.find? fun h => h.1 = handle).map (·.2)).map (· ++ suffix)

/-- An anchor and a tag in either order. -/
def readProperties (c : Composer) : Except Fault (Properties × Composer) :=
  let written : Option Text × Option (Option Text × Text) × Composer :=
    match c.tokens with
    | .anchor a :: .tag h s :: rest => (some a, some (h, s), { c with tokens := rest })
    | .anchor a :: rest => (some a, none, { c with tokens := rest })
    | .tag h s :: .anchor a :: rest => (some a, some (h, s), { c with tokens := rest })
    | .tag h s :: rest => (none, some (h, s), { c with tokens := rest })
    | _ => (none, none, c)
  match written with
  | (anchor, none, c) => .ok (⟨anchor, none⟩, c)
  | (anchor, some (h, s), c) =>
    match fullTag c h s with
    | none => .error .malformed
    | some t => .ok (⟨anchor, some t⟩, c)

namespace Properties

def isNamed (p : Properties) : Bool := p.anchor.isSome || p.tag.isSome

/-- Without a tag a plain scalar has the one of its spelling and a quoted one is text. -/
def scalarTag (p : Properties) (text : Text) (isPlain : Bool) : Tag :=
  match p.tag with
  | none => if isPlain then .ofSpelling text else .text
  | some t => if t = ['!'] then .ofSpelling text else .named t

def collectionTag (p : Properties) (usual : Tag) : Tag :=
  match p.tag with
  | none => usual
  | some t => if t = ['!'] then usual else .named t

end Properties

/-! ## What may follow

Where nothing is written between two marks, an empty node stands. -/

def endsBlockItem : Token → Bool
  | .entry | .blockEnd => true
  | _ => false

def endsLooseItem : Token → Bool
  | .entry | .key | .value | .blockEnd => true
  | _ => false

def endsBlockNode : Token → Bool
  | .key | .value | .blockEnd => true
  | _ => false

def endsFlowPair : Token → Bool
  | .value | .flowEntry | .flowSequenceEnd => true
  | _ => false

def endsFlowMapping : Token → Bool
  | .value | .flowEntry | .flowMappingEnd => true
  | _ => false

/-- How deep inside what a node stands: a block collection cannot begin in brackets, and only the value or the key of
a block mapping can be a sequence at the mapping's own column. -/
inductive Place where
  | flow
  | block
  | entry
  deriving DecidableEq, Repr

/-! ## The descent -/

/-- The levels inside a collection. -/
def inner : Nat → Except Fault Nat
  | 0 => .error .tooDeep
  | levels + 1 => .ok levels

mutual
def readNode (place : Place) (levels : Nat) : Nat → Composer → Except Fault (Node × Composer)
  | 0, _ => .error .malformed
  | fuel + 1, c =>
    match c.next with
    | .alias name =>
      match c.node? name with
      | some n => .ok (n, c.drop)
      | none => .error .malformed
    | _ => do
      let (p, c) ← readProperties c
      if let .fault f := c.next then throw f
      if p.anchor.any fun a => (c.node? a).isSome then throw .malformed
      let seqTag := p.collectionTag .seq
      let mapTag := p.collectionTag .map
      let openSeq := p.anchor.elim c fun a => c.setAnchor p.anchor (.inside a seqTag false)
      let openMap := p.anchor.elim c fun a => c.setAnchor p.anchor (.inside a mapTag true)
      let named (n : Node) (c : Composer) : Node × Composer := (n, c.setAnchor p.anchor n)
      match c.next with
      | .scalar t isPlain => return named (.scalar (p.scalarTag t isPlain) t) c.drop
      | .flowSequence =>
        let (ns, c) ← readFlowItems true (← inner levels) fuel openSeq.drop
        return named ((Node.seq seqTag ns).copied p.anchor) c
      | .flowMapping =>
        let (es, c) ← readFlowEntries true (← inner levels) fuel openMap.drop
        return named ((Node.map mapTag es).copied p.anchor) c
      | t =>
        if t = .entry && place = .entry then
          let (ns, c) ← readLooseItems (← inner levels) fuel openSeq
          return named ((Node.seq seqTag ns).copied p.anchor) c
        else if t = .blockSequence && place ≠ .flow then
          let (ns, c) ← readBlockItems (← inner levels) fuel openSeq.drop
          return named ((Node.seq seqTag ns).copied p.anchor) c
        else if t = .blockMapping && place ≠ .flow then
          let (es, c) ← readBlockEntries (← inner levels) fuel openMap.drop
          return named ((Node.map mapTag es).copied p.anchor) c
        else if p.isNamed then return named (.scalar (p.scalarTag [] true) []) c
        else throw .malformed
termination_by structural fuel => fuel

/-- A node, or an empty one where none is written. -/
def readNodeUnless (ends : Token → Bool) (place : Place) (levels : Nat) :
    Nat → Composer → Except Fault (Node × Composer)
  | 0, _ => .error .malformed
  | fuel + 1, c => if ends c.next then .ok (.null, c) else readNode place levels fuel c
termination_by structural fuel => fuel

def readBlockItems (levels : Nat) : Nat → Composer → Except Fault (List Node × Composer)
  | 0, _ => .error .malformed
  | fuel + 1, c =>
    match c.next with
    | .entry => do
      let (n, c) ← readNodeUnless endsBlockItem .block levels fuel c.drop
      let (ns, c) ← readBlockItems levels fuel c
      return (n :: ns, c)
    | .blockEnd => .ok ([], c.drop)
    | _ => c.unexpected
termination_by structural fuel => fuel

/-- Items of a sequence without a block of its own; what is no item ends it. -/
def readLooseItems (levels : Nat) : Nat → Composer → Except Fault (List Node × Composer)
  | 0, _ => .error .malformed
  | fuel + 1, c =>
    match c.next with
    | .entry => do
      let (n, c) ← readNodeUnless endsLooseItem .block levels fuel c.drop
      let (ns, c) ← readLooseItems levels fuel c
      return (n :: ns, c)
    | _ => .ok ([], c)
termination_by structural fuel => fuel

/-- A value behind its colon, or an empty one. -/
def readValue (ends : Token → Bool) (place : Place) (levels : Nat) : Nat → Composer → Except Fault (Node × Composer)
  | 0, _ => .error .malformed
  | fuel + 1, c => if c.next = .value then readNodeUnless ends place levels fuel c.drop else .ok (.null, c)
termination_by structural fuel => fuel

def readBlockEntries (levels : Nat) : Nat → Composer → Except Fault (List (Node × Node) × Composer)
  | 0, _ => .error .malformed
  | fuel + 1, c =>
    match c.next with
    | .key => do
      let (k, c) ← readNodeUnless endsBlockNode .entry levels fuel c.drop
      let (v, c) ← readValue endsBlockNode .entry levels fuel c
      let (es, c) ← readBlockEntries levels fuel c
      return ((k, v) :: es, c)
    | .blockEnd => .ok ([], c.drop)
    | _ => c.unexpected
termination_by structural fuel => fuel

/-- Items between brackets; a key among them makes a mapping of one entry. -/
def readFlowItems (first : Bool) (levels : Nat) : Nat → Composer → Except Fault (List Node × Composer)
  | 0, _ => .error .malformed
  | fuel + 1, c =>
    if c.next = .flowSequenceEnd then .ok ([], c.drop)
    else if !first && c.next ≠ .flowEntry then c.unexpected
    else
      let c := if first then c else c.drop
      match c.next with
      | .flowSequenceEnd => .ok ([], c.drop)
      | .key => do
        let below ← inner levels
        let (k, c) ← readNodeUnless endsFlowPair .flow below fuel c.drop
        let (v, c) ← readValue endsFlowPair .flow below fuel c
        let (ns, c) ← readFlowItems false levels fuel c
        return (.map .map [(k, v)] :: ns, c)
      | _ => do
        let (n, c) ← readNode .flow levels fuel c
        let (ns, c) ← readFlowItems false levels fuel c
        return (n :: ns, c)
termination_by structural fuel => fuel

/-- Entries between braces; a node without a key mark is a key without a value. -/
def readFlowEntries (first : Bool) (levels : Nat) : Nat → Composer → Except Fault (List (Node × Node) × Composer)
  | 0, _ => .error .malformed
  | fuel + 1, c =>
    if c.next = .flowMappingEnd then .ok ([], c.drop)
    else if !first && c.next ≠ .flowEntry then c.unexpected
    else
      let c := if first then c else c.drop
      match c.next with
      | .flowMappingEnd => .ok ([], c.drop)
      | .key => do
        let (k, c) ← readNodeUnless endsFlowMapping .flow levels fuel c.drop
        let (v, c) ← readValue endsFlowMapping .flow levels fuel c
        let (es, c) ← readFlowEntries false levels fuel c
        return ((k, v) :: es, c)
      | _ => do
        let (k, c) ← readNode .flow levels fuel c
        let (es, c) ← readFlowEntries false levels fuel c
        return ((k, .null) :: es, c)
termination_by structural fuel => fuel
end

/-! ## Documents -/

/-- The directives before a document: at most one version, of the first major number, and each handle once. -/
def readDirectives : Bool → Composer → List Token → Option Composer
  | sawVersion, c, .version major :: ts =>
    if sawVersion || major ≠ 1 then none else readDirectives true c ts
  | sawVersion, c, .tagHandle handle lead :: ts =>
    if c.handles.any fun h => h.1 = handle then none
    else readDirectives sawVersion { c with handles := c.handles ++ [(handle, lead)] } ts
  | sawVersion, c, .unknownDirective :: ts => readDirectives sawVersion c ts
  | _, c, ts => some { c with tokens := ts }

def isDirective : Token → Bool
  | .version _ | .tagHandle _ _ | .unknownDirective => true
  | _ => false

def usualHandles : List (Text × Text) := [(['!'], ['!']), (['!', '!'], standardLead)]

def endsDocument (t : Token) : Bool := isDirective t || t = .documentStart || t = .documentEnd || t = .streamEnd

/-- The one document of a text, if there is any. -/
def readDocument (levels : Nat) (ts : List Token) : Except Fault (Option Node) := do
  let fuel := 3 * ts.length + 3
  let start : Composer := ⟨ts, [], []⟩
  let (n, rest) ←
    if start.next = .streamEnd then pure (none, start)
    else if isDirective start.next || start.next = .documentStart then
      match readDirectives false start ts with
      | none => throw .malformed
      | some c =>
        if c.next ≠ .documentStart then c.unexpected
        else
          let named := usualHandles.filter fun h => !c.handles.any fun g => g.1 = h.1
          let (n, c) ← readNodeUnless endsDocument .block levels fuel { c.drop with handles := c.handles ++ named }
          pure (some n, c)
    else
      let (n, c) ← readNode .block levels fuel { start with handles := usualHandles }
      pure (some n, c)
  -- behind it the directives of a second document are read before that one is refused
  match readDirectives false start (rest.tokens.dropWhile (· = .documentEnd)) with
  | none => throw .malformed
  | some c => match c.tokens with
    | [] => return n
    | [.streamEnd] => return n
    | _ => c.unexpected

end EnvAudit.Yaml

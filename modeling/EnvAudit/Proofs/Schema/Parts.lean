import EnvAudit.Proofs.Document.Value
import EnvAudit.Schema.Reader
/-!
# The parts of a schema

A document that is read as a schema has parts, each of which has to be of some kind: the document itself, the required
list and its items, the rules, and in each rule whether it is required, its pattern and its description
(`documentParts`).  A part is looked at only if the part around it is what it has to be.  The issues of a JSON value are
one for each part that does not fit, in the order of the parts (`partIssues_schemaIssues`).
-/
namespace EnvAudit

/-! ## Truth values -/

/-- A truth value as it is written: itself, zero or one, or a word for it in whatever case. -/
inductive SaysTruth : Value → Bool → Prop
  | bool (b : Bool) : SaysTruth (.bool b) b
  | zero : SaysTruth (.int 0) false
  | one : SaysTruth (.int 1) true
  | numZero {x : Float} (h : wholeValue? x = some 0) : SaysTruth (.num x) false
  | numOne {x : Float} (h : wholeValue? x = some 1) : SaysTruth (.num x) true
  | falseWord {t : Text} (h : t.map asciiLower ∈ falseWords) : SaysTruth (.text t) false
  | trueWord {t : Text} (h : t.map asciiLower ∈ trueWords) : SaysTruth (.text t) true

theorem truthOfInt_eq_known_iff {n : Int} {b : Bool} :
    truthOfInt n = .known b ↔ n = 0 ∧ b = false ∨ n = 1 ∧ b = true := by
  unfold truthOfInt
  by_cases hzero : n = 0
  · subst hzero
    simp [eq_comm]
  · by_cases hone : n = 1
    · subst hone
      simp [eq_comm]
    · simp [hzero, hone]

/-- Zero and one have room wherever a number has to fit. -/
theorem truthOfInt_if_eq_known_iff {n : Int} {fits : Bool} (hzero : n = 0 → fits = true) (hone : n = 1 → fits = true)
    {b : Bool} :
    (if fits then truthOfInt n else .wrongKind) = .known b ↔ n = 0 ∧ b = false ∨ n = 1 ∧ b = true := by
  cases fits with
  | true => exact truthOfInt_eq_known_iff
  | false =>
    refine iff_of_false nofun ?_
    rintro (⟨h, -⟩ | ⟨h, -⟩)
    · cases hzero h
    · cases hone h

theorem readTruth_int_eq_known_iff {n : Int} {b : Bool} : readTruth (.int n) = .known b ↔ SaysTruth (.int n) b := by
  unfold readTruth
  dsimp only
  rw [truthOfInt_if_eq_known_iff (by rintro rfl; rfl) (by rintro rfl; rfl)]
  constructor
  · rintro (⟨rfl, rfl⟩ | ⟨rfl, rfl⟩)
    · exact .zero
    · exact .one
  · intro h
    cases h with
    | zero => exact .inl ⟨rfl, rfl⟩
    | one => exact .inr ⟨rfl, rfl⟩

theorem readTruth_num_eq_known_iff {x : Float} {b : Bool} : readTruth (.num x) = .known b ↔ SaysTruth (.num x) b := by
  have hmeaning : SaysTruth (.num x) b ↔ wholeValue? x = some 0 ∧ b = false ∨ wholeValue? x = some 1 ∧ b = true := by
    constructor
    · intro h
      cases h with
      | numZero h => exact .inl ⟨h, rfl⟩
      | numOne h => exact .inr ⟨h, rfl⟩
    · rintro (⟨h, rfl⟩ | ⟨h, rfl⟩)
      · exact .numZero h
      · exact .numOne h
  rw [hmeaning]
  unfold readTruth
  dsimp only
  cases wholeValue? x with
  | none => simp
  | some n =>
    dsimp only
    rw [truthOfInt_if_eq_known_iff (by rintro rfl; rfl) (by rintro rfl; rfl), Option.some_inj, Option.some_inj]

theorem not_mem_trueWords_of_mem_falseWords : ∀ t ∈ falseWords, t ∉ trueWords := by decide

theorem truthOfWord_eq_known_iff {t : Text} {b : Bool} : truthOfWord t = .known b ↔
    t.map asciiLower ∈ falseWords ∧ b = false ∨ t.map asciiLower ∈ trueWords ∧ b = true := by
  unfold truthOfWord
  simp only [List.contains_iff_mem]
  by_cases htrue : t.map asciiLower ∈ trueWords
  · have hfalse : t.map asciiLower ∉ falseWords := fun h => not_mem_trueWords_of_mem_falseWords _ h htrue
    simp [htrue, hfalse, eq_comm]
  · by_cases hfalse : t.map asciiLower ∈ falseWords <;> simp [htrue, hfalse, eq_comm]

theorem readTruth_text_eq_known_iff {t : Text} {b : Bool} : readTruth (.text t) = .known b ↔ SaysTruth (.text t) b := by
  change truthOfWord t = _ ↔ _
  rw [truthOfWord_eq_known_iff]
  constructor
  · rintro (⟨h, rfl⟩ | ⟨h, rfl⟩)
    · exact .falseWord h
    · exact .trueWord h
  · intro h
    cases h with
    | falseWord h => exact .inl ⟨h, rfl⟩
    | trueWord h => exact .inr ⟨h, rfl⟩

theorem readTruth_eq_known_iff {v : Value} (hv : IsJsonValue v) {b : Bool} :
    readTruth v = .known b ↔ SaysTruth v b := by
  cases hv with
  | bool =>
    constructor
    · intro h
      cases h
      exact .bool _
    · intro h
      cases h
      rfl
  | int n => exact readTruth_int_eq_known_iff
  | num x => exact readTruth_num_eq_known_iff
  | text t => exact readTruth_text_eq_known_iff
  | null | list | map => exact ⟨nofun, nofun⟩

/-! ## Parts -/

/-- What a part has to be. -/
inductive PartKind where
  | model
  | list
  | map
  | text
  | truth
  | pattern
  | description

namespace PartKind

def Fits (host : Host) : PartKind → Value → Prop
  | model, v => v.IsMap
  | list, v => ∃ vs, v = .list vs
  | map, v => v.IsMap
  | text, v => v.IsText
  | truth, v => ∃ b, SaysTruth v b
  | pattern, v => v = .null ∨ ∃ t p, v = .text t ∧ readPattern host t = .ok p
  | description, v => v = .null ∨ v.IsText

/-- What a part that does not fit is called. -/
def labels : PartKind → List Text
  | model => ["model_type".toList]
  | list => ["list_type".toList]
  | map => ["dict_type".toList]
  | text => ["string_type".toList]
  | truth => ["bool_type".toList, "bool_parsing".toList]
  | pattern => ["string_type".toList, "value_error".toList]
  | description => ["string_type".toList]

end PartKind

structure Part where
  place : List Text
  kind : PartKind
  value : Value

def Part.Fits (host : Host) (p : Part) : Prop := p.kind.Fits host p.value

/-- The part under a name, if there is one. -/
def partUnder (place : List Text) (es : Entries) (name : Text) (kind : PartKind) : List Part :=
  (es.getText? name).elim [] fun v => [⟨place ++ [name], kind, v⟩]

def ruleParts (place : List Text) (v : Value) : List Part :=
  ⟨place, .model, v⟩ :: match v with
    | .map es =>
      partUnder place es "required".toList .truth ++ partUnder place es "pattern".toList .pattern ++
      partUnder place es "description".toList .description
    | _ => []

def requiredParts (v : Value) : List Part :=
  ⟨requiredPlace, .list, v⟩ :: match v with
    | .list vs => (numbered 0 vs).map fun p => ⟨requiredPlace ++ [decimal p.1], .text, p.2⟩
    | _ => []

def rulesParts (v : Value) : List Part :=
  ⟨rulesPlace, .map, v⟩ :: match v with
    | .map rs => rs.flatMap fun r => ruleParts (rulesPlace ++ [keyText r.1]) r.2
    | _ => []

/-- The parts that are looked at, in the order of the document: the required list before the rules. -/
def documentParts (d : Value) : List Part :=
  ⟨[], .model, d⟩ :: match d with
    | .map es =>
      (Entries.getText? es "required".toList).elim [] requiredParts ++
      (Entries.getText? es "variables".toList).elim [] rulesParts
    | _ => []

/-! ## Issues -/

/-- One issue for each part that does not fit, in the order of the parts. -/
inductive PartIssues (host : Host) : List Part → List Issue → Prop
  | nil : PartIssues host [] []
  | fits {p : Part} {ps : List Part} {is : List Issue} (hfits : p.Fits host) (hrest : PartIssues host ps is) :
      PartIssues host (p :: ps) is
  | violates {p : Part} {ps : List Part} {i : Issue} {is : List Issue} (hviolates : ¬ p.Fits host)
      (hplace : i.place = p.place) (hlabel : i.kind ∈ p.kind.labels) (hrest : PartIssues host ps is) :
      PartIssues host (p :: ps) (i :: is)

variable {host : Host}

namespace PartIssues

theorem append {ps qs : List Part} {is js : List Issue} (h : PartIssues host ps is) (h' : PartIssues host qs js) :
    PartIssues host (ps ++ qs) (is ++ js) := by
  induction h with
  | nil => exact h'
  | fits hfits _ ih => exact .fits hfits ih
  | violates hviolates hplace hlabel _ ih => exact .violates hviolates hplace hlabel ih

theorem flatMap {α : Type} {f : α → List Part} {g : α → List Issue} : ∀ {xs : List α},
    (∀ x ∈ xs, PartIssues host (f x) (g x)) → PartIssues host (xs.flatMap f) (xs.map g).flatten
  | [], _ => .nil
  | x :: xs, h => by
    rw [List.flatMap_cons, List.map_cons, List.flatten_cons]
    exact (h x List.mem_cons_self).append (flatMap fun y hy => h y (List.mem_cons_of_mem x hy))

/-- There is no issue exactly if every part fits. -/
theorem eq_nil_iff {ps : List Part} {is : List Issue} (h : PartIssues host ps is) : is = [] ↔ ∀ p ∈ ps, p.Fits host := by
  induction h with
  | nil => exact ⟨fun _ => nofun, fun _ => rfl⟩
  | fits hfits _ ih => rw [ih, List.forall_mem_cons, and_iff_right hfits]
  | violates hviolates => exact ⟨nofun, fun h => absurd (h _ List.mem_cons_self) hviolates⟩

/-- What is absent has no parts and no issues. -/
theorem elim {o : Option Value} {f : Value → List Part} {g : Value → List Issue}
    (h : ∀ v, o = some v → PartIssues host (f v) (g v)) : PartIssues host (o.elim [] f) (o.elim [] g) := by
  cases o with
  | none => exact .nil
  | some v => exact h v rfl

theorem one {place : List Text} {kind : PartKind} {v : Value} (hviolates : ¬ kind.Fits host v) {label : Text}
    (hlabel : label ∈ kind.labels) : PartIssues host [⟨place, kind, v⟩] [⟨place, label⟩] :=
  .violates hviolates rfl hlabel .nil

end PartIssues

theorem partIssues_textIssue (place : List Text) {v : Value} (hv : IsJsonValue v) :
    PartIssues host [⟨place, .text, v⟩] (textIssue place v) := by
  cases hv with
  | text t => exact .fits ⟨t, rfl⟩ .nil
  | _ => exact .one (by nofun) (.head _)

theorem partIssues_truthIssue (place : List Text) {v : Value} (hv : IsJsonValue v) :
    PartIssues host [⟨place, .truth, v⟩] (truthIssue place v) := by
  unfold truthIssue
  cases hread : readTruth v with
  | known b => exact .fits ⟨b, (readTruth_eq_known_iff hv).1 hread⟩ .nil
  | unknown | wrongKind =>
    have hviolates : ¬ PartKind.truth.Fits host v := fun ⟨b, hb⟩ => by
      cases hread.symm.trans ((readTruth_eq_known_iff hv).2 hb)
    exact .one hviolates (by decide)

theorem partIssues_descriptionIssue (place : List Text) {v : Value} (hv : IsJsonValue v) :
    PartIssues host [⟨place, .description, v⟩] (if v.isNull then [] else textIssue place v) := by
  cases hv with
  | null => exact .fits (.inl rfl) .nil
  | text t => exact .fits (.inr ⟨t, rfl⟩) .nil
  | _ => exact .one (by exact not_or.2 ⟨nofun, nofun⟩) (.head _)

theorem partIssues_patternIssue (place : List Text) {v : Value} (hv : IsJsonValue v) :
    PartIssues host [⟨place, .pattern, v⟩] (if v.isNull then [] else patternIssue host place v) := by
  cases hv with
  | null => exact .fits (.inl rfl) .nil
  | text t =>
    change PartIssues host _ (patternIssue host place (.text t))
    unfold patternIssue readText?
    dsimp only
    cases hread : readPattern host t with
    | ok p => exact .fits (.inr ⟨t, p, rfl, hread⟩) .nil
    | error fault =>
      have hviolates : ¬ PartKind.pattern.Fits host (.text t) := by
        rintro (h | ⟨_, p, h, hok⟩)
        · cases h
        · cases h
          cases hread.symm.trans hok
      exact .one hviolates (by decide)
  | _ => exact .one (by exact not_or.2 ⟨nofun, nofun⟩) (.head _)

theorem partIssues_ruleIssues (place : List Text) {v : Value} (hv : IsJsonValue v) :
    PartIssues host (ruleParts place v) (ruleIssues host place v) := by
  cases v with
  | map es =>
    have htruth := @PartIssues.elim host _ _ _ fun v h =>
      partIssues_truthIssue (place ++ ["required".toList]) (hv.getText? (k := "required".toList) h)
    have hpattern := @PartIssues.elim host _ _ _ fun v h =>
      partIssues_patternIssue (place ++ ["pattern".toList]) (hv.getText? (k := "pattern".toList) h)
    have hdescription := @PartIssues.elim host _ _ _ fun v h =>
      partIssues_descriptionIssue (place ++ ["description".toList]) (hv.getText? (k := "description".toList) h)
    exact .fits ⟨es, rfl⟩ ((htruth.append hpattern).append hdescription)
  | _ => exact .one (by nofun) (.head _)

theorem partIssues_requiredIssues {v : Value} (hv : IsJsonValue v) :
    PartIssues host (requiredParts v) (requiredIssues v) := by
  cases hv with
  | @list vs hvs =>
    have hitems : PartIssues host ((numbered 0 vs).flatMap fun p => [⟨requiredPlace ++ [decimal p.1], .text, p.2⟩])
        (requiredIssues (.list vs)) :=
      .flatMap fun p hp => partIssues_textIssue _ (hvs p.2 (mem_of_mem_numbered hp))
    rw [← List.map_eq_flatMap] at hitems
    exact .fits ⟨vs, rfl⟩ hitems
  | _ => exact .one (by nofun) (.head _)

theorem partIssues_rulesIssues {v : Value} (hv : IsJsonValue v) :
    PartIssues host (rulesParts v) (rulesIssues host v) := by
  cases hv with
  | @map rs hnames hvalues =>
    refine .fits ⟨rs, rfl⟩ (.flatMap fun r hr => ?_)
    obtain ⟨t, ht⟩ := hnames r hr
    unfold entryIssues
    rw [ht]
    exact partIssues_ruleIssues _ (hvalues r hr)
  | _ => exact .one (by nofun) (.head _)

/-- **Every part that does not fit** has its issue. -/
theorem partIssues_schemaIssues {d : Value} (hd : IsJsonValue d) :
    PartIssues host (documentParts d) (schemaIssues host d) := by
  cases d with
  | map es =>
    have hrequired := @PartIssues.elim host _ _ _ fun v h =>
      partIssues_requiredIssues (hd.getText? (k := "required".toList) h)
    have hrules := @PartIssues.elim host _ _ _ fun v h => partIssues_rulesIssues (hd.getText? (k := "variables".toList) h)
    exact .fits ⟨es, rfl⟩ (hrequired.append hrules)
  | _ => exact .one (by nofun) (.head _)

example : (schemaIssues .usual (.map [
    (.text "variables".toList, .map [
      (.text "B".toList, .int 1),
      (.text "A".toList, .map [(.text "pattern".toList, .text "(".toList), (.text "required".toList, .int 2)])]),
    (.text "required".toList, .list [.text "A".toList, .null])])).map Issue.text =
    ["required.1:string_type".toList, "variables.B:model_type".toList, "variables.A.required:bool_parsing".toList,
      "variables.A.pattern:value_error".toList] := by decide +kernel

end EnvAudit

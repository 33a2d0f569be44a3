import EnvAudit.Proofs.Schema.Parts
import Mathlib.Data.List.Forall2
/-!
# Which documents are schemas

A JSON value is read as a schema exactly if it is one (`IsSchema`), and the schema that is read says what the document
says, with the required keys and the rules in their order (`SchemaSays`).  A value that is none is refused with one
issue for each part that does not fit (`schemaReads_readSchema`).  Only a pattern that ends the reading is left out: one
with a repetition count beyond all bounds, or with groups beyond the calls of the host.
-/
namespace EnvAudit

variable {host : Host}

/-! ## Schemas among the documents -/

/-- A map, in which every part is absent or of its kind. -/
def IsRule (host : Host) (v : Value) : Prop :=
  ∃ es : Entries, v = .map es ∧
    (∀ x, es.getText? "required".toList = some x → ∃ b, SaysTruth x b) ∧
    (∀ x, es.getText? "pattern".toList = some x → x = .null ∨ ∃ t p, x = .text t ∧ readPattern host t = .ok p) ∧
    ∀ x, es.getText? "description".toList = some x → x = .null ∨ x.IsText

/-- A map, whose required keys are texts in a list and whose rules are a map, unless they are absent. -/
def IsSchema (host : Host) (d : Value) : Prop :=
  ∃ es : Entries, d = .map es ∧
    (∀ x, es.getText? "required".toList = some x → ∃ vs, x = .list vs ∧ ∀ v ∈ vs, v.IsText) ∧
    ∀ x, es.getText? "variables".toList = some x → ∃ rs, x = .map rs ∧ ∀ r ∈ rs, IsRule host r.2

/-- What is absent has no parts. -/
theorem forall_mem_elim {o : Option Value} {parts : Value → List Part} :
    (∀ p ∈ o.elim [] parts, p.Fits host) ↔ ∀ v, o = some v → ∀ p ∈ parts v, p.Fits host := by
  cases o <;> simp

theorem forall_mem_partUnder {place : List Text} {es : Entries} {name : Text} {kind : PartKind} :
    (∀ p ∈ partUnder place es name kind, p.Fits host) ↔ ∀ v, es.getText? name = some v → kind.Fits host v := by
  unfold partUnder
  rw [forall_mem_elim]
  simp only [List.forall_mem_singleton, Part.Fits]

theorem isRule_iff {place : List Text} {v : Value} : IsRule host v ↔ ∀ p ∈ ruleParts place v, p.Fits host := by
  cases v with
  | map es =>
    unfold ruleParts
    rw [List.forall_mem_cons, List.forall_mem_append, List.forall_mem_append, forall_mem_partUnder,
      forall_mem_partUnder, forall_mem_partUnder]
    constructor
    · rintro ⟨_, ⟨⟩, hrequired, hpattern, hdescription⟩
      exact ⟨⟨es, rfl⟩, ⟨hrequired, hpattern⟩, hdescription⟩
    · rintro ⟨-, ⟨hrequired, hpattern⟩, hdescription⟩
      exact ⟨es, rfl, hrequired, hpattern, hdescription⟩
  | _ => exact iff_of_false nofun fun h => absurd (h _ List.mem_cons_self) (by nofun)

theorem forall_mem_requiredParts {v : Value} :
    (∃ vs, v = .list vs ∧ ∀ x ∈ vs, x.IsText) ↔ ∀ p ∈ requiredParts v, p.Fits host := by
  cases v with
  | list vs =>
    have hitems : (∀ p ∈ (numbered 0 vs).map fun p => (⟨requiredPlace ++ [decimal p.1], .text, p.2⟩ : Part),
        p.Fits host) ↔ ∀ x ∈ (numbered 0 vs).map Prod.snd, x.IsText := by
      rw [List.forall_mem_map, List.forall_mem_map]
      exact Iff.rfl
    unfold requiredParts
    rw [List.forall_mem_cons, hitems, map_snd_numbered]
    constructor
    · rintro ⟨_, ⟨⟩, h⟩
      exact ⟨⟨vs, rfl⟩, h⟩
    · exact fun h => ⟨vs, rfl, h.2⟩
  | _ => exact iff_of_false nofun fun h => absurd (h _ List.mem_cons_self) (by nofun)

theorem forall_mem_rulesParts {v : Value} :
    (∃ rs, v = .map rs ∧ ∀ r ∈ rs, IsRule host r.2) ↔ ∀ p ∈ rulesParts v, p.Fits host := by
  cases v with
  | map rs =>
    unfold rulesParts
    rw [List.forall_mem_cons]
    constructor
    · rintro ⟨_, ⟨⟩, h⟩
      refine ⟨⟨rs, rfl⟩, fun p hp => ?_⟩
      obtain ⟨r, hr, hmem⟩ := List.mem_flatMap.1 hp
      exact isRule_iff.1 (h r hr) p hmem
    · rintro ⟨-, h⟩
      exact ⟨rs, rfl, fun r hr => isRule_iff.2 fun p hp => h p (List.mem_flatMap.2 ⟨r, hr, hp⟩)⟩
  | _ => exact iff_of_false nofun fun h => absurd (h _ List.mem_cons_self) (by nofun)

/-- **A document is a schema** exactly if each of its parts fits. -/
theorem isSchema_iff {d : Value} : IsSchema host d ↔ ∀ p ∈ documentParts d, p.Fits host := by
  cases d with
  | map es =>
    unfold documentParts
    rw [List.forall_mem_cons, List.forall_mem_append, forall_mem_elim, forall_mem_elim]
    simp only [← forall_mem_requiredParts, ← forall_mem_rulesParts]
    constructor
    · rintro ⟨_, ⟨⟩, hrequired, hrules⟩
      exact ⟨⟨es, rfl⟩, hrequired, hrules⟩
    · exact fun h => ⟨es, rfl, h.2⟩
  | _ => exact iff_of_false nofun fun h => absurd (h _ List.mem_cons_self) (by nofun)

/-! ## What a schema says -/

/-- What a part says that may be absent. -/
inductive Gives {α : Type} (P : Value → α → Prop) (usual : α) : Option Value → α → Prop
  | absent : Gives P usual none usual
  | given {v : Value} {a : α} (h : P v a) : Gives P usual (some v) a

theorem Gives.elim {α : Type} {P : Value → α → Prop} {usual : α} {o : Option Value} {f : Value → α}
    (h : ∀ v, o = some v → P v (f v)) : Gives P usual o (o.elim usual f) := by
  cases o with
  | none => exact .absent
  | some v => exact .given (h v rfl)

theorem Gives.bind {α : Type} {P : Value → Option α → Prop} {o : Option Value} {f : Value → Option α}
    (h : ∀ v, o = some v → P v (f v)) : Gives P none o (o.bind f) := by
  cases o with
  | none => exact .absent
  | some v => exact .given (h v rfl)

inductive PatternSays (host : Host) : Value → Option WrittenPattern → Prop
  | null : PatternSays host .null none
  | text {t : Text} {p : Pattern} (h : readPattern host t = .ok p) : PatternSays host (.text t) (some ⟨t, p⟩)

inductive DescriptionSays : Value → Option Text → Prop
  | null : DescriptionSays .null none
  | text (t : Text) : DescriptionSays (.text t) (some t)

inductive RuleSays (host : Host) : Value → Rule → Prop
  | map {es : Entries} {r : Rule} (hrequired : Gives SaysTruth false (es.getText? "required".toList) r.required)
      (hpattern : Gives (PatternSays host) none (es.getText? "pattern".toList) r.pattern)
      (hdescription : Gives DescriptionSays none (es.getText? "description".toList) r.description) :
      RuleSays host (.map es) r

inductive RequiredSays : Value → List Text → Prop
  | list (ts : List Text) : RequiredSays (.list (ts.map .text)) ts

/-- One rule for each entry, under the same key. -/
inductive RulesSay (host : Host) : Value → List (Text × Rule) → Prop
  | map {es : Entries} {rs : List (Text × Rule)}
      (h : List.Forall₂ (fun e r => e.1 = .text r.1 ∧ RuleSays host e.2 r.2) es rs) : RulesSay host (.map es) rs

inductive SchemaSays (host : Host) : Value → Schema → Prop
  | map {es : Entries} {s : Schema} (hrequired : Gives RequiredSays [] (es.getText? "required".toList) s.required)
      (hrules : Gives (RulesSay host) [] (es.getText? "variables".toList) s.rules) : SchemaSays host (.map es) s

theorem patternSays {v : Value} (h : v = .null ∨ ∃ t p, v = .text t ∧ readPattern host t = .ok p) :
    PatternSays host v ((readText? v).bind (readWrittenPattern? host)) := by
  rcases h with rfl | ⟨t, p, rfl, hread⟩
  · exact .null
  · change PatternSays host _ (readWrittenPattern? host t)
    unfold readWrittenPattern?
    rw [hread]
    exact .text hread

theorem descriptionSays {v : Value} (h : v = .null ∨ v.IsText) : DescriptionSays v (readText? v) := by
  rcases h with rfl | ⟨t, rfl⟩
  · exact .null
  · exact .text t

theorem ruleSays_ruleOf {v : Value} (hv : IsJsonValue v) (h : IsRule host v) : RuleSays host v (ruleOf host v) := by
  obtain ⟨es, rfl, hrequired, hpattern, hdescription⟩ := h
  have htruth : Gives SaysTruth false (es.getText? "required".toList) (ruleOf host (.map es)).required := by
    unfold ruleOf
    dsimp only
    cases hx : Entries.getText? es "required".toList with
    | none => exact .absent
    | some x =>
      obtain ⟨b, hb⟩ := hrequired x hx
      rw [Option.map_some, (readTruth_eq_known_iff (hv.getText? hx)).2 hb]
      exact .given hb
  have hwritten : Gives (PatternSays host) none (es.getText? "pattern".toList) (ruleOf host (.map es)).pattern := by
    unfold ruleOf
    dsimp only
    rw [Option.bind_assoc]
    exact .bind fun x hx => patternSays (hpattern x hx)
  exact .map htruth hwritten (.bind fun x hx => descriptionSays (hdescription x hx))

theorem requiredSays_filterMap : ∀ {vs : List Value}, (∀ v ∈ vs, v.IsText) →
    RequiredSays (.list vs) (vs.filterMap readText?)
  | [], _ => .list []
  | v :: vs, h => by
    obtain ⟨⟨t, rfl⟩, hrest⟩ := List.forall_mem_cons.1 h
    have ih := requiredSays_filterMap hrest
    rw [List.filterMap_cons_some (by rfl : readText? (.text t) = some t)]
    generalize vs.filterMap readText? = ts at ih
    cases ih
    exact .list (t :: ts)

theorem rulesSay_rulesOf : ∀ {rs : Entries}, (∀ r ∈ rs, ∃ t, r.1 = .text t) →
    (∀ r ∈ rs, RuleSays host r.2 (ruleOf host r.2)) → RulesSay host (.map rs) (rulesOf host (.map rs))
  | [], _, _ => .map .nil
  | (k, v) :: rs, hnames, hrules => by
    obtain ⟨⟨t, ht⟩, hnamesRest⟩ := List.forall_mem_cons.1 hnames
    obtain ⟨hrule, hrulesRest⟩ := List.forall_mem_cons.1 hrules
    obtain rfl : k = .text t := ht
    have ih := rulesSay_rulesOf hnamesRest hrulesRest
    cases ih with
    | map ih => exact .map (.cons ⟨rfl, hrule⟩ ih)

theorem schemaSays_schemaOf {d : Value} (hd : IsJsonValue d) (h : IsSchema host d) :
    SchemaSays host d (schemaOf host d) := by
  obtain ⟨es, rfl, hrequired, hrules⟩ := h
  have hkeys : Gives RequiredSays [] (es.getText? "required".toList) (schemaOf host (.map es)).required :=
    .elim fun x hx => by
      obtain ⟨vs, rfl, htexts⟩ := hrequired x hx
      exact requiredSays_filterMap htexts
  have hentries : Gives (RulesSay host) [] (es.getText? "variables".toList) (schemaOf host (.map es)).rules :=
    .elim fun x hx => by
      obtain ⟨rs, rfl, hrs⟩ := hrules x hx
      cases hd.getText? hx with
      | map hnames hvalues => exact rulesSay_rulesOf hnames fun r hr => ruleSays_ruleOf (hvalues r hr) (hrs r hr)
  exact .map hkeys hentries

/-! ## Reading -/

/-- A rule of the document has this pattern, whether or not it can be read. -/
def HasPattern (d : Value) (t : Text) : Prop :=
  ∃ es rs fs : Entries, ∃ k, d = .map es ∧ es.getText? "variables".toList = some (.map rs) ∧ (k, .map fs) ∈ rs ∧
    fs.getText? "pattern".toList = some (.text t)

theorem readText?_eq_some_iff {v : Value} (hv : IsJsonValue v) {t : Text} : readText? v = some t ↔ v = .text t := by
  cases hv with
  | text t' => exact ⟨fun h => congrArg Value.text (Option.some.inj h), fun h => by cases h; rfl⟩
  | _ => exact iff_of_false nofun nofun

theorem exists_of_ruleFailure? {v : Value} (hv : IsJsonValue v) {f : Failure} (h : ruleFailure? host v = some f) :
    ∃ (fs : Entries) (t : Text) (fault : PatternFault), v = .map fs ∧ fs.getText? "pattern".toList = some (.text t) ∧
      readPattern host t = .error fault ∧ fault.failure? = some f := by
  unfold ruleFailure? at h
  split at h
  · rename_i fs
    split at h
    · rename_i t ht
      obtain ⟨x, hx, htext⟩ := Option.bind_eq_some_iff.1 ht
      obtain rfl := (readText?_eq_some_iff (hv.getText? hx)).1 htext
      split at h
      · rename_i fault hread
        exact ⟨fs, t, fault, rfl, hx, hread, h⟩
      · cases h
    · cases h
  · cases h

/-- Only a pattern of the document ends the reading. -/
theorem hasPattern_of_schemaFailure? {d : Value} (hd : IsJsonValue d) {f : Failure}
    (h : schemaFailure? host d = some f) :
    ∃ t fault, HasPattern d t ∧ readPattern host t = .error fault ∧ fault.failure? = some f := by
  unfold schemaFailure? at h
  split at h
  · rename_i es
    split at h
    · rename_i rs hrs
      obtain ⟨⟨k, v⟩, hr, hrule⟩ := List.exists_of_findSome?_eq_some h
      have hv : IsJsonValue v := by
        cases hd.getText? hrs with
        | map _ hvalues => exact hvalues _ hr
      obtain ⟨fs, t, fault, rfl, hpattern, hread, hfault⟩ := exists_of_ruleFailure? hv hrule
      exact ⟨t, fault, ⟨es, rs, fs, k, rfl, hrs, hr, hpattern⟩, hread, hfault⟩
    · cases h
  · cases h

/-- How reading a document as a schema ends. -/
inductive SchemaReads (host : Host) (d : Value) : Except Cause Schema → Prop
  | accepted {s : Schema} (h : IsSchema host d) (hs : SchemaSays host d s) : SchemaReads host d (.ok s)
  | refused {is : List Issue} (h : ¬ IsSchema host d) (his : PartIssues host (documentParts d) is) :
      SchemaReads host d (.error (.issues is))

/-- **A JSON value is read as a schema** exactly if it is one. -/
theorem schemaReads_readSchema {d : Value} (hd : IsJsonValue d)
    (hbounds : ∀ t fault, HasPattern d t → readPattern host t = .error fault → fault.failure? = none) :
    SchemaReads host d (readSchema host d) := by
  have hissues := @partIssues_schemaIssues host _ hd
  have hnone := hissues.eq_nil_iff.trans isSchema_iff.symm
  have hgoes : schemaFailure? host d = none := by
    refine Option.eq_none_iff_forall_ne_some.2 fun f hf => ?_
    obtain ⟨t, fault, hpattern, hread, hfault⟩ := hasPattern_of_schemaFailure? hd hf
    cases (hbounds t fault hpattern hread).symm.trans hfault
  unfold readSchema
  rw [hgoes]
  cases h : schemaIssues host d with
  | nil =>
    have hschema := hnone.1 h
    exact .accepted hschema (schemaSays_schemaOf hd hschema)
  | cons i is =>
    rw [h] at hissues hnone
    exact .refused (fun hschema => nomatch hnone.2 hschema) hissues

/-- A schema with one key that it lists and has a rule for. -/
def portSchema : Value :=
  .map [(.text "required".toList, .list [.text "PORT".toList]),
    (.text "variables".toList, .map [(.text "PORT".toList,
      .map [(.text "required".toList, .text "Yes".toList), (.text "pattern".toList, .text "^[0-9]+$".toList)])])]

theorem schemaReads_readSchema_port : IsJsonValue portSchema ∧
    (∀ t fault, HasPattern portSchema t → readPattern .usual t = .error fault → fault.failure? = none) ∧
      SchemaReads .usual portSchema (readSchema .usual portSchema) := by
  have hlevels : portSchema.IsJson 3 :=
    ⟨⟨_, rfl⟩, by decide, ⟨trivial, trivial⟩, ⟨_, rfl⟩, by decide,
      ⟨⟨_, rfl⟩, by decide, ⟨⟨_, rfl⟩, by decide, trivial, ⟨_, rfl⟩, by decide, trivial, trivial⟩, trivial⟩, trivial⟩
  have hjson := isJsonValue_of_isJson _ hlevels
  have hbounds (t : Text) (fault : PatternFault) (hpattern : HasPattern portSchema t)
      (hfault : readPattern .usual t = .error fault) : fault.failure? = none := by
    obtain ⟨es, rs, fs, k, ⟨⟩, hrs, hmem, hpattern⟩ := hpattern
    cases hrs
    cases List.mem_singleton.1 hmem
    cases hpattern
    have hread : (readPattern .usual "^[0-9]+$".toList).isOk = true := by decide +kernel
    rw [hfault] at hread
    cases hread
  exact ⟨hjson, hbounds, schemaReads_readSchema hjson hbounds⟩

end EnvAudit

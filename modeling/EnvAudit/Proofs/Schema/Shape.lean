import EnvAudit.Proofs.Document.Value
import EnvAudit.Proofs.Json.RoundTrip
import EnvAudit.Proofs.Schema.Broken
/-!
# Schemas of the wrong shape

A schema file that holds anything but a map is refused, unless what it holds is blank: then it is taken for the empty
schema, and no check is left but that for empty values (`shapeEnds_validateFile`).  Null is blank, and an empty document
holds null; but so are an empty list, an empty text, zero and false (`not_schemaNotLoaded_of_not_map`).
-/
namespace EnvAudit

open Session

variable {host : Host}

/-! ## Documents that are no map -/

/-- The one issue of a document that is no map: what it is, at no place within it. -/
def wrongShape : Issue := ⟨[], "model_type".toList⟩

theorem readSchema_of_not_isMap {v : Value} (h : ¬ v.IsMap) : readSchema host v = .error (.issues [wrongShape]) := by
  cases v with
  | map es => exact absurd ⟨es, rfl⟩ h
  | _ => rfl

theorem schemaOfDocument_of_isBlank {v : Value} (h : IsBlank v) : schemaOfDocument host v = .ok .empty := by
  unfold schemaOfDocument
  rw [isTruthy_eq_false_iff.2 h]
  rfl

theorem schemaOfDocument_of_not_isMap {v : Value} (hshape : ¬ v.IsMap) (hnotBlank : ¬ IsBlank v) :
    schemaOfDocument host v = .error (.issues [wrongShape]) := by
  unfold schemaOfDocument
  rw [if_pos (isTruthy_of_not_isBlank hnotBlank)]
  exact readSchema_of_not_isMap hshape

/-! ## Files -/

/-- The bytes of a schema file hold this document. -/
def HoldsDocument (host : Host) (format : SchemaFormat) (bs : Bytes) (v : Value) : Prop :=
  ∃ t, decodeStrict bs = some t ∧ readSchemaDocument host format (unifyNewlines t) = .ok v

theorem HoldsDocument.readSchemaText_eq {format : SchemaFormat} {bs : Bytes} {v : Value}
    (h : HoldsDocument host format bs v) :
    ∃ t, decodeStrict bs = some t ∧ readSchemaText host format (unifyNewlines t) = schemaOfDocument host v := by
  obtain ⟨t, ht, hdocument⟩ := h
  refine ⟨t, ht, ?_⟩
  unfold readSchemaText
  rw [hdocument]
  rfl

/-- What loading a schema that is no map leads to, and what validating against it. -/
inductive ShapeEnds (path : Text) (v : Value) (vs : List Variable) :
    Except Halt Schema → Except Halt Validation → Prop
  | refused {result : Validation} (hnotBlank : ¬ IsBlank v) (hdeclared : result.declared = vs)
      (hviolations : result.violations =
        emptyValues vs ++ [.schema (Problem.schemaNotLoaded path (.issues [wrongShape])).message])
      (hinvalid : result.isValid = false) :
      ShapeEnds path v vs (.error (.problem (.schemaNotLoaded path (.issues [wrongShape])))) (.ok result)
  | passed {result : Validation} (hblank : IsBlank v) (hdeclared : result.declared = vs)
      (hviolations : result.violations = emptyValues vs) : ShapeEnds path v vs (.ok .empty) (.ok result)

variable {w : World} {content bs : Bytes}

theorem loadSchema_of_not_isMap {format : SchemaFormat} {v : Value} (hdocument : HoldsDocument host format bs v)
    (hshape : ¬ v.IsMap) (path : Text) (vs : List Variable) :
    ShapeEnds path v vs (loadSchema host path format (.ok bs)) (judged vs (loadSchema host path format (.ok bs))) := by
  obtain ⟨t, ht, hread⟩ := hdocument.readSchemaText_eq
  unfold loadSchema
  dsimp only
  rw [ht]
  dsimp only
  rw [hread]
  by_cases hblank : IsBlank v
  · rw [schemaOfDocument_of_isBlank hblank]
    exact .passed hblank rfl (by simp [violations, missingKeys, mismatches, validate, Schema.empty, Schema.requiredKeys,
      Schema.patterns, Schema.distinct])
  · rw [schemaOfDocument_of_not_isMap hshape hblank]
    refine .refused hblank rfl rfl ?_
    exact List.isEmpty_eq_false_iff.2 (List.append_ne_nil_of_right_ne_nil _ (List.cons_ne_nil _ _))

/-- **A schema that is no map** is refused, and whatever the env file holds it is invalid, unless the schema is
blank. -/
theorem shapeEnds_validateFile {env given : Text} (henv : w.tree.readFile w.cwd (.ofText env) = .ok content)
    (hschema : w.tree.readFile w.cwd (.ofText given) = .ok bs) {v : Value}
    (hdocument : HoldsDocument w.host (schemaFormat (.ofText given)) bs v) (hshape : ¬ v.IsMap) :
    ShapeEnds (Path.ofText given).text v (readEnvFile content)
      (loadSchema w.host (Path.ofText given).text (schemaFormat (.ofText given)) (.ok bs))
      (outcome (validateFile env (some given)) w).1 := by
  rw [outcome_validateFile henv hschema]
  exact loadSchema_of_not_isMap hdocument hshape _ _

/-- A document without floats is held by the file it is written to. -/
theorem holdsDocument_encode_json (host : Host) {v : Value} (hjson : v.IsJson host.jsonLevels) (hfloat : v.FloatFree) :
    HoldsDocument host .json (encode v.json) v := by
  refine ⟨v.json, decodeStrict_encode _, ?_⟩
  unfold readSchemaDocument
  rw [unifyNewlines_of_not_mem (return_not_mem_json hjson hfloat), readJson_json hjson hfloat]
  rfl

/-- An env file without empty values, and a schema that holds this list. -/
def listSchemaWorld (vs : List Value) : World :=
  World.holding [(".env".toList, encode "A=1\n".toList), ("s.json".toList, encode (Value.list vs).json)]

/-- The schema is a list of keys. -/
theorem shapeEnds_validateFile_listOfKeys :
    HoldsDocument .usual (schemaFormat (.ofText "s.json".toList)) (encode (Value.list [.text "PORT".toList]).json)
        (.list [.text "PORT".toList]) ∧
      ShapeEnds (Path.ofText "s.json".toList).text (.list [.text "PORT".toList])
        (readEnvFile (encode "A=1\n".toList))
        (loadSchema .usual (Path.ofText "s.json".toList).text (schemaFormat (.ofText "s.json".toList))
          (.ok (encode (Value.list [.text "PORT".toList]).json)))
        (outcome (validateFile ".env".toList (some "s.json".toList)) (listSchemaWorld [.text "PORT".toList])).1 := by
  have hdocument := holdsDocument_encode_json .usual (v := .list [.text "PORT".toList]) ⟨trivial, trivial⟩
    ⟨trivial, trivial⟩
  exact ⟨hdocument, @shapeEnds_validateFile (listSchemaWorld [.text "PORT".toList]) _ _ ".env".toList "s.json".toList
    rfl rfl _ hdocument nofun⟩

/-- **An empty list** is taken for the empty schema. -/
theorem not_schemaNotLoaded_of_not_map : ¬ ∀ (w : World) (env given : Text) (content bs : Bytes) (v : Value),
    w.tree.readFile w.cwd (.ofText env) = .ok content → w.tree.readFile w.cwd (.ofText given) = .ok bs →
      HoldsDocument w.host (schemaFormat (.ofText given)) bs v → v.isNull = false → ¬ v.IsMap →
      (∃ cause, loadSchema w.host (Path.ofText given).text (schemaFormat (.ofText given)) (.ok bs) =
        .error (.problem (.schemaNotLoaded (Path.ofText given).text cause))) ∧
      ∃ result, (outcome (validateFile env (some given)) w).1 = .ok result ∧ result.isValid = false := by
  intro hrefused
  have hdocument := holdsDocument_encode_json (listSchemaWorld []).host (v := .list []) trivial trivial
  obtain ⟨⟨cause, hload⟩, -⟩ := hrefused (listSchemaWorld []) ".env".toList "s.json".toList _ _ _ rfl rfl hdocument
    rfl nofun
  have hends := loadSchema_of_not_isMap hdocument nofun (Path.ofText "s.json".toList).text []
  change loadSchema _ _ .json _ = _ at hload
  rw [hload] at hends
  cases hends with
  | refused hnotBlank => exact hnotBlank .list

end EnvAudit

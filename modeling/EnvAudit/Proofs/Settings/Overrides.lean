import EnvAudit.Proofs.Walk
import EnvAudit.Settings.Store
/-!
# Overrides

The override of a field that is in force is its variable, or else the last entry of the project's file that stands for
it and has a value (`Override`); collecting overrides finds it, in whatever order the variables are asked for
(`overrideOf_withVariables_projectOverrides`).  Applying overrides gives each overridden field its coerced value and
leaves the others, or is refused by one of them (`get_of_applyOverrides`, `exists_of_applyOverrides_error`).
-/
namespace EnvAudit

/-! ## Names of fields -/

/-- A field's own name in any letter case, with or without the lead. -/
def StandsFor (name : Text) (f : Field) : Prop :=
  lowercase name = f.name ∨ lowercase name = overrideLead ++ f.name

theorem named?_eq_some_iff {t : Text} {f : Field} : Field.named? t = some f ↔ t = f.name := by
  constructor
  · intro h
    have hname := List.find?_some h
    exact (of_decide_eq_true hname).symm
  · rintro rfl
    cases f <;> rfl

theorem name_ne_lead_append (f : Field) (rest : Text) : f.name ≠ overrideLead ++ rest := by
  have hlead : ¬ overrideLead <+: f.name := by cases f <;> decide
  exact fun h => hlead ⟨rest, h.symm⟩

theorem fieldOfName_eq_some_iff {name : Text} {f : Field} : fieldOfName name = some f ↔ StandsFor name f := by
  unfold fieldOfName StandsFor
  dsimp only
  rw [named?_eq_some_iff]
  cases hlead : after? overrideLead (lowercase name) with
  | none =>
    refine ⟨Or.inl, fun h => h.resolve_right fun hlow => ?_⟩
    exact after?_eq_none_iff.1 hlead ⟨f.name, hlow.symm⟩
  | some rest =>
    have hlow := after?_eq_some_iff.1 hlead
    rw [Option.getD_some, hlow]
    refine ⟨fun h => Or.inr (h ▸ rfl), fun h => h.elim (fun hown => ?_) List.append_cancel_left⟩
    exact absurd hown.symm (name_ne_lead_append f rest)

/-! ## Collected overrides -/

def overrideOf (os : Overrides) (f : Field) : Option Text := (os.find? fun o => o.1 = f).map (·.2)

theorem overrideOf_cons (g : Field) (t : Text) (os : Overrides) (f : Field) :
    overrideOf ((g, t) :: os) f = if g = f then some t else overrideOf os f := by
  unfold overrideOf
  rw [List.find?_cons]
  by_cases hg : g = f
  · rw [if_pos hg, decide_eq_true hg]; rfl
  · rw [if_neg hg, decide_eq_false hg]

theorem overrideOf_putOverride (g : Field) (t : Text) (f : Field) (os : Overrides) :
    overrideOf (putOverride g t os) f = if g = f then some t else overrideOf os f :=
  find?_put (putOverride g t) rfl (fun _ _ => rfl) f os

def OncePerField (os : Overrides) : Prop := os.Pairwise (·.1 ≠ ·.1)

theorem mem_putOverride {g : Field} {t : Text} {o : Field × Text} : ∀ {os : Overrides},
    o ∈ putOverride g t os → o = (g, t) ∨ o ∈ os
  | [], h => Or.inl (List.mem_singleton.1 h)
  | k :: os, h => by
    rw [putOverride] at h
    split at h <;> rcases List.mem_cons.1 h with rfl | h
    · exact Or.inl rfl
    · exact Or.inr (List.mem_cons_of_mem _ h)
    · exact Or.inr List.mem_cons_self
    · exact (mem_putOverride h).imp_right (List.mem_cons_of_mem _)

theorem OncePerField.putOverride {g : Field} {t : Text} : ∀ {os : Overrides}, OncePerField os →
    OncePerField (putOverride g t os)
  | [], _ => List.pairwise_singleton _ _
  | k :: os, h => by
    obtain ⟨hk, hos⟩ := List.pairwise_cons.1 h
    rw [EnvAudit.putOverride]
    split
    · rename_i hg
      exact List.pairwise_cons.2 ⟨fun o ho => hg ▸ hk o ho, hos⟩
    · rename_i hg
      refine List.pairwise_cons.2 ⟨fun o ho => ?_, OncePerField.putOverride hos⟩
      rcases mem_putOverride ho with rfl | ho
      · exact hg
      · exact hk o ho

theorem overrideOf_eq_none_of_forall {os : Overrides} {f : Field} (h : ∀ o ∈ os, f ≠ o.1) :
    overrideOf os f = none := by
  unfold overrideOf
  rw [Option.map_eq_none_iff, List.find?_eq_none]
  intro o ho hof
  exact h o ho (of_decide_eq_true hof).symm

/-! ## Where an override comes from -/

def variableOf (environment : List (Text × Text)) (f : Field) : Option Text :=
  (environment.find? fun v => v.1 = variableName f).map (·.2)

/-- An entry of the project's file that overrides a field. -/
def Overriding (f : Field) (e : Text × Option Text) : Prop := StandsFor e.1 f ∧ e.2.isSome = true

/-- **The override of a field that is in force**: its variable, or else the last entry for it. -/
inductive Override (environment : List (Text × Text)) (rc : RcEntries) (f : Field) : Text → Prop
  | variable {t : Text} (h : variableOf environment f = some t) : Override environment rc f t
  | entry {name t : Text} (hunset : variableOf environment f = none) (h : Latest (Overriding f) rc (name, some t)) :
      Override environment rc f t

theorem projectOverrides_concat (rc : RcEntries) (e : Text × Option Text) : projectOverrides (rc ++ [e]) =
    match fieldOfName e.1, e.2 with
    | some f, some t => putOverride f t (projectOverrides rc)
    | _, _ => projectOverrides rc := by
  unfold projectOverrides
  exact List.foldl_concat ..

theorem overrideOf_projectOverrides {f : Field} {t : Text} (rc : RcEntries) :
    overrideOf (projectOverrides rc) f = some t ↔ ∃ name, Latest (Overriding f) rc (name, some t) := by
  induction rc using List.reverseRecOn with
  | nil =>
    constructor
    · nofun
    · rintro ⟨name, h⟩
      exact absurd h (not_latest_nil _ _)
  | append_singleton rc e ih =>
    obtain ⟨name, value⟩ := e
    rw [projectOverrides_concat]
    by_cases hover : Overriding f (name, value)
    · obtain ⟨hname, hvalue⟩ := hover
      obtain ⟨u, rfl⟩ := Option.isSome_iff_exists.1 hvalue
      simp only [latest_concat_of_pos (Overriding f) rc _ ⟨hname, hvalue⟩, fieldOfName_eq_some_iff.2 hname,
        overrideOf_putOverride, if_true]
      simp [eq_comm]
    · simp only [latest_concat_of_neg (Overriding f) rc _ hover, ← ih]
      cases hname : fieldOfName name with
      | none => rfl
      | some g =>
        cases value with
        | none => rfl
        | some u =>
          rw [overrideOf_putOverride, if_neg]
          rintro rfl
          exact hover ⟨fieldOfName_eq_some_iff.1 hname, rfl⟩

theorem oncePerField_projectOverrides (rc : RcEntries) : OncePerField (projectOverrides rc) := by
  induction rc using List.reverseRecOn with
  | nil => exact .nil
  | append_singleton rc e ih =>
    rw [projectOverrides_concat]
    split
    · exact ih.putOverride
    · exact ih

theorem withVariables_cons (f : Field) (order : List Field) (environment : List (Text × Text)) (os : Overrides) :
    withVariables (f :: order) environment os = withVariables order environment
      (match variableOf environment f with
        | some t => putOverride f t os
        | none => os) := by
  unfold withVariables variableOf
  rw [List.foldl_cons]
  cases environment.find? fun v => v.1 = variableName f <;> rfl

theorem overrideOf_withVariables (environment : List (Text × Text)) (f : Field) :
    ∀ (order : List Field) (os : Overrides), overrideOf (withVariables order environment os) f =
      if f ∈ order then (variableOf environment f).or (overrideOf os f) else overrideOf os f
  | [], os => rfl
  | g :: order, os => by
    rw [withVariables_cons, overrideOf_withVariables environment f order]
    by_cases hg : g = f
    · subst hg
      rw [if_pos List.mem_cons_self]
      cases variableOf environment g with
      | none => exact ite_self _
      | some t =>
        rw [overrideOf_putOverride, if_pos rfl]
        exact ite_self _
    · have hmem : f ∈ g :: order ↔ f ∈ order := by simp [Ne.symm hg]
      have hother : ∀ t, overrideOf (putOverride g t os) f = overrideOf os f := fun t => by
        rw [overrideOf_putOverride, if_neg hg]
      cases variableOf environment g <;> simp only [hmem, hother]

theorem oncePerField_withVariables (environment : List (Text × Text)) : ∀ (order : List Field) {os : Overrides},
    OncePerField os → OncePerField (withVariables order environment os)
  | [], _, h => h
  | g :: order, os, h => by
    rw [withVariables_cons]
    refine oncePerField_withVariables environment order ?_
    split
    · exact h.putOverride
    · exact h

theorem overrideOf_withVariables_projectOverrides {order : List Field} (horder : order.Perm Field.all)
    {environment : List (Text × Text)} {rc : RcEntries} {f : Field} {t : Text} :
    overrideOf (withVariables order environment (projectOverrides rc)) f = some t ↔ Override environment rc f t := by
  have hmem : f ∈ order := horder.mem_iff.2 (by cases f <;> decide)
  rw [overrideOf_withVariables, if_pos hmem]
  cases hvariable : variableOf environment f with
  | some u =>
    rw [Option.some_or]
    constructor
    · intro h
      exact .variable (hvariable.trans h)
    · rintro (h | ⟨hunset, -⟩)
      · exact hvariable.symm.trans h
      · rw [hvariable] at hunset
        cases hunset
  | none =>
    rw [Option.none_or, overrideOf_projectOverrides]
    constructor
    · rintro ⟨name, h⟩
      exact .entry hvariable h
    · rintro (h | ⟨-, h⟩)
      · rw [hvariable] at h
        cases h
      · exact ⟨_, h⟩

theorem Override.unique {environment : List (Text × Text)} {rc : RcEntries} {f : Field} {t t' : Text}
    (h : Override environment rc f t) (h' : Override environment rc f t') : t = t' := by
  rw [← overrideOf_withVariables_projectOverrides (.refl Field.all)] at h h'
  exact Option.some.inj (h.symm.trans h')

/-! ## Applied overrides -/

/-- No integer, for a field that is one. -/
def Misfit (f : Field) (t : Text) : Prop := f.isInteger = true ∧ parseInteger? 10 t = none

theorem misfit_of_coerceText {f : Field} {t : Text} {h : Halt} (hcoerce : f.coerceText t = .error h) :
    Misfit f t ∧ h = .problem (.notAnInteger f.name (Value.text t).shown) := by
  unfold Field.coerceText at hcoerce
  split at hcoerce
  · rename_i hinteger
    split at hcoerce
    · rename_i hparse
      exact ⟨⟨hinteger, hparse⟩, (Except.error.inj hcoerce).symm⟩
    · cases hcoerce
  · cases hcoerce

theorem not_misfit_of_coerceText {f : Field} {t : Text} {v : Value} (hcoerce : f.coerceText t = .ok v) :
    ¬ Misfit f t := by
  rintro ⟨hinteger, hparse⟩
  rw [Field.coerceText, if_pos hinteger, hparse] at hcoerce
  cases hcoerce

theorem get_of_applyOverrides (f : Field) : ∀ {os : Overrides} {s s' : Settings}, OncePerField os →
    applyOverrides os s = .ok s' → (overrideOf os f = none → s'.get f = s.get f) ∧
      ∀ t, overrideOf os f = some t → f.coerceText t = .ok (s'.get f)
  | [], s, s', _, h => by
    obtain rfl := Except.ok.inj h
    exact ⟨fun _ => rfl, fun t ht => nomatch ht⟩
  | (g, u) :: os, s, s', hos, h => by
    obtain ⟨hg, hos⟩ := List.pairwise_cons.1 hos
    rw [applyOverrides] at h
    split at h
    · rename_i v hv
      obtain ⟨hstays, hset⟩ := get_of_applyOverrides f hos h
      rw [overrideOf_cons]
      by_cases hgf : g = f
      · subst hgf
        rw [if_pos rfl]
        refine ⟨nofun, fun t ht => ?_⟩
        obtain rfl := Option.some.inj ht
        rw [hstays (overrideOf_eq_none_of_forall hg), Settings.get_set, if_pos rfl]
        exact hv
      · rw [if_neg hgf]
        refine ⟨fun hnone => ?_, hset⟩
        rw [hstays hnone, Settings.get_set, if_neg (Ne.symm hgf)]
    · cases h

theorem exists_of_applyOverrides_error : ∀ {os : Overrides} {s : Settings} {h : Halt}, OncePerField os →
    applyOverrides os s = .error h → ∃ f t, overrideOf os f = some t ∧ f.coerceText t = .error h
  | [], _, _, _, herror => nomatch herror
  | (g, u) :: os, s, h, hos, herror => by
    obtain ⟨hg, hos⟩ := List.pairwise_cons.1 hos
    rw [applyOverrides] at herror
    split at herror
    · obtain ⟨f, t, hf, ht⟩ := exists_of_applyOverrides_error hos herror
      refine ⟨f, t, ?_, ht⟩
      rw [overrideOf_cons, if_neg, hf]
      rintro rfl
      rw [overrideOf_eq_none_of_forall hg] at hf
      cases hf
    · rename_i hcoerce
      obtain rfl := Except.error.inj herror
      refine ⟨g, u, ?_, hcoerce⟩
      rw [overrideOf_cons, if_pos rfl]

end EnvAudit

import EnvAudit.Proofs.Settings.Coercion
import EnvAudit.Proofs.Settings.Layers
/-!
# Types of settings

A field declares a type, and what is coerced to it has that type, as every default has (`admits_of_coerce`,
`admits_usual`).  What the user's file says is not coerced: whatever the sources hold, a field that is loaded has its
type exactly if it is overridden or the file says nothing else of it (`admits_of_loadSettingsIn`), and one text in place
of an integer is kept as it is (`not_admits_of_loadSettingsIn`).
-/
namespace EnvAudit

open Session

/-- Whether a value has the type that a field declares.  A truth value is no integer. -/
def Field.admits (f : Field) : Value → Bool
  | .scalar (.int _) => f.isInteger
  | .scalar (.text _) => !f.isInteger
  | _ => false

theorem admits_usual (f : Field) : f.admits f.usual = true := by
  cases f <;> rfl

theorem admits_int {f : Field} (hf : f.isInteger = true) (n : Int) : f.admits (.int n) = true := hf

theorem admits_text {f : Field} (hf : f.isInteger = false) (t : Text) : f.admits (.text t) = true :=
  congrArg (!·) hf

theorem admits_of_coerceText {f : Field} {t : Text} {u : Value} (h : f.coerceText t = .ok u) : f.admits u = true := by
  rcases cases_of_coerceText h with ⟨hinteger, n, -, rfl⟩ | ⟨htext, rfl⟩
  · exact admits_int hinteger n
  · exact admits_text htext t

/-- **What is coerced** has the type of its field, whatever it was before. -/
theorem admits_of_coerce {levels : Nat} {key : Text} {f : Field} (hf : Field.named? key = some f) {v u : Value}
    (h : coerce levels key v = .ok u) : f.admits u = true := by
  obtain ⟨g, hg, hcases⟩ := cases_of_coerce h
  obtain rfl := Option.some.inj (hf.symm.trans hg)
  rcases hcases with ⟨hinteger, n, -, rfl⟩ | ⟨htext, t, rfl⟩
  · exact admits_int hinteger n
  · exact admits_text htext t

/-- The type of what is in force, by the source that says it. -/
theorem InForce.admits_iff {environment : List (Text × Text)} {rc : RcEntries} {user : Entries} {f : Field} {v : Value}
    (h : InForce environment rc user f v) : f.admits v = true ↔
      (∃ t, Override environment rc f t) ∨ ∀ u, user.getText? f.name = some u → f.admits u = true := by
  cases h with
  | override ht hv => exact iff_of_true (admits_of_coerceText hv) (.inl ⟨_, ht⟩)
  | stored hnone hv =>
    have hnot : ¬ ∃ t, Override environment rc f t := fun ⟨t, ht⟩ => hnone t ht
    simp [hnot, hv]
  | usual hnone hmissing =>
    refine iff_of_true (admits_usual f) (.inr fun u hu => ?_)
    rw [hmissing] at hu
    cases hu

/-! ## Any file -/

/-- What any bytes say: nothing, unless they are a JSON object. -/
def entriesOfBytes (levels : Nat) (content : Bytes) : Entries :=
  match (decodeStrict content).map fun t => readJson levels (unifyNewlines t) with
  | some (.ok (.map es)) => es
  | _ => []

def World.userEntries (w : World) : Entries := (w.userBytes?.map (entriesOfBytes w.host.jsonLevels)).getD []

theorem eq_ofEntries_of_settingsOfBytes {levels : Nat} {content : Bytes} {s : Settings}
    (h : settingsOfBytes levels content = .ok s) : s = .ofEntries (entriesOfBytes levels content) := by
  unfold settingsOfBytes at h
  unfold entriesOfBytes
  cases ht : decodeStrict content with
  | none => rw [ht] at h; cases h
  | some t =>
    rw [ht] at h
    dsimp only [Option.map_some] at h ⊢
    unfold settingsOfText at h
    cases hv : readJson levels (unifyNewlines t) with
    | error e => rw [hv] at h; cases e <;> cases h; rfl
    | ok v => rw [hv] at h; cases v <;> exact (Except.ok.inj h).symm

theorem eq_ofEntries_of_userSettings {w : World} {s : Settings} (h : w.userSettings = .ok s) :
    s = .ofEntries w.userEntries := by
  unfold World.userEntries
  cases hbytes : w.userBytes? with
  | none => exact eq_usual_of_userSettings hbytes h
  | some content =>
    rw [userSettings_of_some hbytes] at h
    exact eq_ofEntries_of_settingsOfBytes h

/-! ## Loading -/

/-- What a first loading that succeeds has in force, whatever the user's file is. -/
theorem exists_inForce_of_loadSettingsIn {order : List Field} (horder : order.Perm Field.all) {w : World}
    (hfirst : w.settings.loaded = none) {s : Settings} (hload : ((loadSettingsIn order).outcome w).1 = .ok s) :
    ∃ rc, w.rcEntries = .ok rc ∧ ∀ f, InForce w.environment rc w.userEntries f (s.get f) := by
  obtain ⟨es, -, hends⟩ := exists_outcome_loadSettingsIn order hfirst
  rw [hends] at hload
  dsimp only [World.settingsIn] at hload
  cases huser : w.userSettings with
  | error e => rw [huser] at hload; cases hload
  | ok user =>
    cases hrc : w.rcEntries with
    | error e => rw [huser, hrc] at hload; cases hload
    | ok rc =>
      obtain rfl := eq_ofEntries_of_userSettings huser
      have hloads := loadsTo_applyOverrides horder w.environment rc w.userEntries
      rw [huser, hrc] at hload
      dsimp only at hload
      rw [hload] at hloads
      cases hloads with
      | loaded hfit h => exact ⟨rc, rfl, h⟩

/-- **The types of what is loaded.**  A field has its type exactly if an override of it is in force or the user's file
says nothing of another type of it. -/
theorem admits_of_loadSettingsIn {order : List Field} (horder : order.Perm Field.all) {w : World}
    (hfirst : w.settings.loaded = none) {s : Settings} (hload : ((loadSettingsIn order).outcome w).1 = .ok s) :
    ∃ rc, w.rcEntries = .ok rc ∧ ∀ f, f.admits (s.get f) = true ↔
      (∃ t, Override w.environment rc f t) ∨ ∀ u, w.userEntries.getText? f.name = some u → f.admits u = true := by
  obtain ⟨rc, hrc, hforce⟩ := exists_inForce_of_loadSettingsIn horder hfirst hload
  exact ⟨rc, hrc, fun f => (hforce f).admits_iff⟩

/-- The user's file has no name for the schema but an empty value, which nothing overrides. -/
theorem admits_of_loadSettingsIn_shadowedWorld :
    let s := ((Settings.ofEntries shadowedUser).set .logLevel (.text "DEBUG".toList)).set .historyDepth (.int 7)
    ((loadSettingsIn Field.all.reverse).outcome shadowedWorld).1 = .ok s ∧
      ∃ rc, shadowedWorld.rcEntries = .ok rc ∧ ∀ f, f.admits (s.get f) = true ↔
        (∃ t, Override shadowedWorld.environment rc f t) ∨
          ∀ u, shadowedWorld.userEntries.getText? f.name = some u → f.admits u = true := by
  intro s
  have huser : shadowedWorld.userSettings = .ok (.ofEntries shadowedUser) :=
    (userSettings_of_some rfl).trans (holds_encode_json plain_shadowedUser).settingsOfBytes_eq
  have hload : ((loadSettingsIn Field.all.reverse).outcome shadowedWorld).1 = .ok s := by
    obtain ⟨es, -, hends⟩ := exists_outcome_loadSettingsIn Field.all.reverse (w := shadowedWorld) rfl
    rw [hends]
    unfold World.settingsIn
    rw [huser, rcEntries_of_outcome (w := shadowedWorld) rfl]
    rfl
  exact ⟨hload, admits_of_loadSettingsIn Field.all.reverse_perm rfl hload⟩

/-- An integer in quotes. -/
def quotedUser : Entries := [(.text "history_depth".toList, .text "25".toList)]

theorem plain_quotedUser {levels : Nat} : Plain (levels + 1) (.map quotedUser) :=
  ⟨⟨⟨_, rfl⟩, nofun, trivial, trivial⟩, trivial, trivial⟩

/-- **An integer in quotes** is loaded as a text. -/
theorem not_admits_of_loadSettingsIn : ¬ ∀ (w : World) (s : Settings), w.settings.loaded = none →
    (loadSettings.outcome w).1 = .ok s → ∀ f : Field, f.admits (s.get f) = true := by
  intro hadmits
  obtain ⟨content, hsaid⟩ : ∃ content, settingsOfBytes 990 content = .ok (.ofEntries quotedUser) :=
    ⟨_, (holds_encode_json plain_quotedUser).settingsOfBytes_eq⟩
  have hload : (loadSettings.outcome (userFileWorld content)).1 = .ok (.ofEntries quotedUser) := by
    rw [(notOverridden_userFileWorld _).loadSettings_eq rfl, userSettings_of_some rfl]
    exact congrArg (Except.mapError Halt.failure) hsaid
  have hdepth := hadmits _ _ rfl hload .historyDepth
  cases hdepth

end EnvAudit

import EnvAudit.Proofs.Settings.Types
import EnvAudit.Proofs.Settings.Written
/-!
# Saved settings

Settings whose fields have their types are saved unless the file system refuses the file, and a new store for the same
file loads them again, field for field, as long as nothing overrides them (`saveLeads_saveSettings`).
-/
namespace EnvAudit

open Session

/-- Every field has its type, and no integer has too many digits to be written. -/
def Settings.IsTyped (s : Settings) : Prop :=
  ∀ f : Field, f.admits (s.get f) = true ∧ ∀ n, s.get f = .int n → ShortInt n

theorem Settings.IsTyped.plain {levels : Nat} {s : Settings} (h : s.IsTyped) (f : Field) : Plain levels (s.get f) := by
  obtain ⟨htype, hshort⟩ := h f
  generalize s.get f = v at htype hshort
  unfold Field.admits at htype
  split at htype
  · exact plain_int (hshort _ rfl)
  · exact plain_text _
  · cases htype

/-! ## A file that cannot be written -/

/-- The file system makes no directory for the user's file, or lets nothing be written there. -/
def World.RefusesUserFile (w : World) (f : Failure) : Prop :=
  w.tree.makeDirectories w.cwd w.settings.userFile.parent = .error f ∨
    ∃ t, w.tree.makeDirectories w.cwd w.settings.userFile.parent = .ok t ∧
      ∀ content, t.writeFile w.cwd w.settings.userFile content = .error f

/-- Whether a file can be written does not depend on what is written. -/
theorem FileTree.writeFile_eq_error {t : FileTree} {cwd : Place} {p : Path} {content : Bytes} {f : Failure}
    (h : t.writeFile cwd p content = .error f) (content' : Bytes) : t.writeFile cwd p content' = .error f := by
  unfold FileTree.writeFile at h ⊢
  split at h
  · exact h
  · cases h
  · exact h
  · cases h

/-! ## Saving and loading again -/

/-- A new store for the same user's file, in any project and any environment. -/
def World.renewed (w : World) (project : Path) (environment : List (Text × Text)) : World :=
  { w with settings := .fresh w.settings.userFile project, environment := environment }

/-- How saving settings ends, and what is loaded of them. -/
inductive SaveLeads (w : World) (s : Settings) : Except Halt Unit × World → Prop
  | refused {f : Failure} {w' : World} (hwhy : w.RefusesUserFile f) : SaveLeads w s (.error (.failure f), w')
  | saved {w' : World} (hload : ∀ project environment, (w'.renewed project environment).NotOverridden →
      ∀ order, ((loadSettingsIn order).outcome (w'.renewed project environment)).1 = .ok s) : SaveLeads w s (.ok ⟨⟩, w')

theorem loadSettingsIn_of_userBytes? {w : World} {s : Settings} (hs : s.IsTyped)
    (hbytes : w.userBytes? = some (encode (settingsJson s))) (hfirst : w.settings.loaded = none)
    (hover : w.NotOverridden) (order : List Field) : ((loadSettingsIn order).outcome w).1 = .ok s := by
  obtain ⟨es, -, hload⟩ := exists_outcome_loadSettingsIn order hfirst
  obtain ⟨levels, hlevels⟩ := Nat.exists_eq_add_one_of_ne_zero w.host.jsonLevels_pos.ne'
  have hread : settingsOfBytes (levels + 1) (encode (settingsJson s)) = .ok s :=
    settingsOfBytes_encode_settingsJson hs.plain
  rw [hload]
  dsimp only
  rw [hover.settingsIn_eq order, userSettings_of_some hbytes, hlevels, hread]
  rfl

/-- Typed settings are written as a whole. -/
theorem Settings.IsTyped.settingsWritten_eq {s : Settings} (hs : s.IsTyped) (host : Host) :
    settingsWritten host.copyCalls s = (settingsJson s, none) := by
  refine @settingsWritten_of_plain 0 _ hs.plain _ (copies_iff.2 fun f => ?_)
  obtain ⟨htype, -⟩ := hs f
  generalize s.get f = v at htype
  unfold Field.admits at htype
  split at htype
  · exact host.copyCalls_scalar
  · exact host.copyCalls_scalar
  · cases htype

/-- **Saved settings are loaded again.**  Only the file system can refuse to save settings of the right types; once they
are saved, a new store for the same file, with nothing that overrides it, loads the same settings. -/
theorem saveLeads_saveSettings {s : Settings} (hs : s.IsTyped) (w : World) :
    SaveLeads w s (outcome (saveSettings (some s)) w) := by
  let kept : World := { w with settings := { w.settings with loaded := some s } }
  rw [outcome_saveSettings (hs.settingsWritten_eq w.host)]
  cases hmake : w.tree.makeDirectories w.cwd w.settings.userFile.parent with
  | error f =>
    have hnotMade : outcome (makeDirectories w.settings.userFile.parent) kept = (.error (.failure f), kept) :=
      outcome_changeTree_of_error hmake
    rw [outcome_bind_of_error hnotMade]
    exact .refused (.inl hmake)
  | ok t =>
    have hmade : outcome (makeDirectories w.settings.userFile.parent) kept = (.ok ⟨⟩, { kept with tree := t }) :=
      outcome_changeTree_of_ok hmake
    rw [outcome_bind_of_ok hmade]
    cases hwrite : t.writeFile w.cwd w.settings.userFile (encode (settingsJson s)) with
    | error f =>
      have hnotWritten : outcome (writeFile w.settings.userFile (encode (settingsJson s))) { kept with tree := t } =
          (.error (.failure f), { kept with tree := t }) := outcome_changeTree_of_error hwrite
      rw [outcome_bind_of_error hnotWritten]
      exact .refused (.inr ⟨t, hmake, FileTree.writeFile_eq_error hwrite⟩)
    | ok t' =>
      have hwritten : outcome (writeFile w.settings.userFile (encode (settingsJson s))) { kept with tree := t } =
          (.ok ⟨⟩, { kept with tree := t' }) := outcome_changeTree_of_ok hwrite
      rw [outcome_bind_of_ok hwritten]
      refine .saved fun project environment hover order => loadSettingsIn_of_userBytes? hs ?_ rfl hover order
      exact congrArg Except.toOption (FileTree.readFile_of_writeFile hwrite)

/-- A name with a quote, a control character and a character beyond the basic plane, and a negative integer. -/
def oddSettings : Settings :=
  (Settings.usual.set .schemaFile (.text "\"\\\x01é😀".toList)).set .historyDepth (.int (-7))

theorem isTyped_oddSettings : oddSettings.IsTyped := by
  intro f
  cases f
  case historyDepth => exact ⟨rfl, fun n hn => by cases hn; decide⟩
  case maxHistoryBytes => exact ⟨rfl, fun n hn => by cases hn; decide⟩
  all_goals exact ⟨rfl, nofun⟩

theorem saveLeads_saveSettings_oddSettings : oddSettings.IsTyped ∧
    (outcome (saveSettings (some oddSettings)) (.bare (.notStarted .missing))).1 = .ok ⟨⟩ ∧
      SaveLeads (.bare (.notStarted .missing)) oddSettings
        (outcome (saveSettings (some oddSettings)) (.bare (.notStarted .missing))) :=
  ⟨isTyped_oddSettings, rfl, saveLeads_saveSettings isTyped_oddSettings _⟩

end EnvAudit

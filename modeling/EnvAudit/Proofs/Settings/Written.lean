import EnvAudit.Proofs.Settings.Coercion
/-!
# What is written of settings

The user's file is opened before the settings are copied.  Values that JSON can hold, none of them too deep to be copied,
are written as a whole (`settingsWritten_of_plain`); of values that are too deep nothing is
(`settingsWritten_of_not_copies`).  A setting that has been coerced is never one of those (`copies_set`).  Either way the
file is replaced, unless the file system refuses it, and then it could not be read before (`write_cases`).
-/
namespace EnvAudit

variable {levels : Nat}

/-! ## Copies -/

theorem mem_fields (f : Field) : f ∈ Field.all := by cases f <;> decide

theorem copies_iff {s : Settings} {calls : Nat} : s.copies calls = true ↔ ∀ f, (s.get f).calls ≤ calls := by
  unfold Settings.copies
  rw [List.all_eq_true]
  exact ⟨fun h f => of_decide_eq_true (h f (mem_fields f)), fun h f _ => decide_eq_true (h f)⟩

/-- What has been coerced is a scalar. -/
theorem calls_of_coerce {shown : Nat} {key : Text} {v u : Value} (h : coerce shown key v = .ok u) : u.calls = 3 := by
  obtain ⟨f, -, ⟨-, n, -, rfl⟩ | ⟨-, t, rfl⟩⟩ := cases_of_coerce h
  · exact Value.calls.eq_1 _
  · exact Value.calls.eq_1 _

/-- **A coerced value** can be copied wherever the others can. -/
theorem copies_set {s : Settings} {host : Host} (h : s.copies host.copyCalls = true) {u : Value} (hu : u.calls = 3)
    (f : Field) : (s.set f u).copies host.copyCalls = true := by
  refine copies_iff.2 fun g => ?_
  rw [Settings.get_set]
  split
  · exact hu ▸ host.copyCalls_scalar
  · exact copies_iff.1 h g

theorem settingsWritten_of_plain {s : Settings} (hplain : ∀ f, Plain levels (s.get f)) {calls : Nat}
    (hcopies : s.copies calls = true) : settingsWritten calls s = (settingsJson s, none) := by
  unfold settingsWritten
  rw [if_pos hcopies, jsonBeforeFault?_of_isJson (plain_entries hplain).isJson]

theorem settingsWritten_of_not_copies {s : Settings} {calls : Nat} (h : s.copies calls = false) :
    settingsWritten calls s = ([], some .tooDeep) := by
  unfold settingsWritten
  rw [h]
  rfl

/-- What meets no fault is written as a whole. -/
theorem eq_settingsJson_of_settingsWritten {s : Settings} {calls : Nat} {content : Text}
    (h : settingsWritten calls s = (content, none)) : content = settingsJson s := by
  unfold settingsWritten at h
  split at h
  · split at h <;> cases h
    rfl
  · cases h

/-! ## Saving -/

open Session

/-- Settings are in force before their file is written. -/
theorem outcome_saveSettings {s : Settings} {w : World} {content : Text} {fault : Option Failure}
    (h : settingsWritten w.host.copyCalls s = (content, fault)) :
    outcome (saveSettings (some s)) w = outcome (do
      makeDirectories w.settings.userFile.parent
      writeFile w.settings.userFile (encode content)
      failIf fault) { w with settings := { w.settings with loaded := some s } } := by
  have hsave : outcome (saveSettings (some s)) w = outcome (do
      makeDirectories w.settings.userFile.parent
      writeFile w.settings.userFile (encode (settingsWritten w.host.copyCalls s).1)
      failIf (settingsWritten w.host.copyCalls s).2) { w with settings := { w.settings with loaded := some s } } := rfl
  rw [hsave, h]

/-- A file is replaced, or it could not be read before and cannot be read after. -/
theorem write_cases (w : World) (content : Bytes) (next : Session Unit) :
    (∃ t, outcome (do
        makeDirectories w.settings.userFile.parent
        writeFile w.settings.userFile content
        next) w = outcome next { w with tree := t } ∧ ({ w with tree := t } : World).userBytes? = some content) ∨
    ∃ h t, outcome (do
        makeDirectories w.settings.userFile.parent
        writeFile w.settings.userFile content
        next) w = (.error h, { w with tree := t }) ∧
      w.userBytes? = none ∧ ({ w with tree := t } : World).userBytes? = none := by
  cases hmake : w.tree.makeDirectories w.cwd w.settings.userFile.parent with
  | error e =>
    have hnone : w.userBytes? = none := by
      refine Option.eq_none_iff_forall_not_mem.2 fun old hold => ?_
      rw [FileTree.makeDirectories_of_readFile (readFile_of_userBytes? hold)] at hmake
      cases hmake
    exact Or.inr ⟨_, w.tree, outcome_bind_of_error (outcome_changeTree_of_error hmake) _, hnone, hnone⟩
  | ok t =>
    have hmade : outcome (makeDirectories w.settings.userFile.parent) w = (.ok ⟨⟩, { w with tree := t }) :=
      outcome_changeTree_of_ok hmake
    rw [outcome_bind_of_ok hmade]
    have hwritten : ∀ e, t.writeFile w.cwd w.settings.userFile content = .error e →
        ({ w with tree := t } : World).userBytes? = none := by
      intro e he
      refine Option.eq_none_iff_forall_not_mem.2 fun old hold => ?_
      obtain ⟨t', ht'⟩ := FileTree.exists_writeFile_of_readFile (readFile_of_userBytes? hold) content
      rw [he] at ht'
      cases ht'
    cases hwrite : t.writeFile w.cwd w.settings.userFile content with
    | error e =>
      refine Or.inr ⟨_, t, outcome_bind_of_error (outcome_changeTree_of_error hwrite) _, ?_, hwritten e hwrite⟩
      refine Option.eq_none_iff_forall_not_mem.2 fun old hold => ?_
      rw [FileTree.makeDirectories_of_readFile (readFile_of_userBytes? hold)] at hmake
      obtain rfl := Except.ok.inj hmake
      have hnone := hwritten e hwrite
      rw [show w.userBytes? = some old from hold] at hnone
      cases hnone
    | ok t' =>
      refine Or.inl ⟨t', outcome_bind_of_ok (outcome_changeTree_of_ok hwrite) _, ?_⟩
      unfold World.userBytes?
      rw [FileTree.readFile_of_writeFile hwrite]
      rfl

end EnvAudit

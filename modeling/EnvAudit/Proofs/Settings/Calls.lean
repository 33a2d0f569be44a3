import EnvAudit.Proofs.Settings.Layers
import EnvAudit.Proofs.Settings.Written
/-!
# Calls on one store

Settings are loaded, asked for and set on one store in any order.  A set that is answered changes one field of what the
user's file says, so no override gets into the file; from then on what is kept of a loading is what a new store would load
(`InStep`).  Every other call leaves the file as it is, but for a set in a file that goes too deep to be copied: that one
fails when the file is open, and leaves it empty (`settingsCalls_persist`, `not_settingsCalls_persist`).
-/
namespace EnvAudit

open Session

/-! ## Calls -/

inductive SettingsCall where
  | load
  | get (key : Text) (usual : Value)
  | set (key : Text) (v : Value)

inductive SettingsAnswer where
  | settings (s : Settings)
  | asked (a : Asked)
  | done

namespace SettingsCall

def session : SettingsCall → Session SettingsAnswer
  | .load => do return .settings (← loadSettings)
  | .get key usual => do return .asked (← getSetting key usual)
  | .set key v => do
    setSetting key v
    return .done

def answer (c : SettingsCall) (w : World) : Except Halt SettingsAnswer := (c.session.outcome w).1

def isSet : SettingsCall → Bool
  | .set _ _ => true
  | _ => false

theorem exists_set_of_isSet {c : SettingsCall} (h : c.isSet = true) : ∃ key v, c = .set key v := by
  cases c with
  | set key v => exact ⟨key, v, rfl⟩
  | _ => cases h

/-- No integer that is set is too long to be read again. -/
def Short : SettingsCall → Prop
  | .set _ v => ∀ n, v = .int n → ShortInt n
  | _ => True

end SettingsCall

namespace World

def after (w : World) (c : SettingsCall) : World := (c.session.outcome w).2

end World

/-! ## Asking -/

/-- What is kept of an earlier loading is what a new store would load. -/
def World.Current (w : World) : Prop := ∀ s, w.settings.loaded = some s → w.settingsIn Field.all = .ok s

theorem outcome_loadSettings_of_loaded {w : World} {s : Settings} (h : w.settings.loaded = some s) :
    loadSettings.outcome w = (.ok s, w) := by
  unfold loadSettings loadSettingsIn
  rw [outcome_bind_of_ok (outcome_get w), h]
  rfl

/-- A loading changes nothing but what is kept of it and what has been said aside. -/
theorem exists_outcome_loadSettings (w : World) : ∃ events loaded, (loadSettings.outcome w).2 =
    { w with events := events, settings := { w.settings with loaded := loaded } } := by
  cases hloaded : w.settings.loaded with
  | none =>
    obtain ⟨es, -, h⟩ := exists_outcome_loadSettingsIn Field.all hloaded
    exact ⟨es ++ w.events, _, congrArg Prod.snd h⟩
  | some s =>
    refine ⟨w.events, w.settings.loaded, ?_⟩
    rw [outcome_loadSettings_of_loaded hloaded]

theorem World.Current.outcome_loadSettings {w : World} (h : w.Current) :
    (loadSettings.outcome w).1 = w.settingsIn Field.all ∧ (loadSettings.outcome w).2.Current := by
  cases hloaded : w.settings.loaded with
  | none =>
    obtain ⟨es, -, hload⟩ := exists_outcome_loadSettingsIn Field.all hloaded
    change loadSettings.outcome w = _ at hload
    rw [hload]
    refine ⟨rfl, fun s hs => ?_⟩
    change w.settingsIn Field.all = .ok s
    cases hresult : w.settingsIn Field.all with
    | error e => rw [hresult] at hs; cases hs
    | ok s' => rw [hresult] at hs; exact congrArg Except.ok (Option.some.inj hs)
  | some s =>
    rw [outcome_loadSettings_of_loaded hloaded]
    exact ⟨(h s hloaded).symm, h⟩

namespace SettingsCall

/-- What is said of the settings in force. -/
def reply : SettingsCall → Settings → SettingsAnswer
  | .load, s => .settings s
  | .get key usual, s => .asked (s.asked key usual)
  | .set _ _, _ => .done

theorem outcome_ask {c : SettingsCall} (hc : c.isSet = false) (w : World) :
    c.session.outcome w = ((loadSettings.outcome w).1.map c.reply, (loadSettings.outcome w).2) := by
  cases c with
  | load =>
    unfold session
    rw [outcome_bind]
    rcases loadSettings.outcome w with ⟨h | s, w'⟩ <;> rfl
  | get key usual =>
    unfold session getSetting
    rw [outcome_bind, outcome_bind]
    rcases loadSettings.outcome w with ⟨h | s, w'⟩ <;> rfl
  | set key v => cases hc

end SettingsCall

theorem World.userBytes?_after_of_ask {c : SettingsCall} (hc : c.isSet = false) (w : World) :
    (w.after c).userBytes? = w.userBytes? := by
  obtain ⟨events, loaded, h⟩ := exists_outcome_loadSettings w
  rw [World.after, SettingsCall.outcome_ask hc, h]
  rfl

/-! ## Setting -/

/-- How a set ends: it is refused and changes nothing, or the file cannot be written, which could not be read before it
either, or one field is written, and the file has all of it or only what comes before a fault. -/
inductive SetLeads (w : World) (key : Text) (v : Value) : Except Halt SettingsAnswer → World → Prop
  | refused (h : Halt) (hwhy : (∃ e, w.userSettings = .error e) ∨ coerce w.host.shownLevels key v = .error h) :
      SetLeads w key v (.error h) w
  | notWritten (h : Halt) {w' : World} (hhost : w'.host = w.host) (hbefore : w.userBytes? = none)
      (hafter : w'.userBytes? = none) : SetLeads w key v (.error h) w'
  | spoiled {f : Field} {u : Value} {s : Settings} {content : Text} {e : Failure} {w' : World}
      (hhost : w'.host = w.host) (hf : Field.named? key = some f) (hu : coerce w.host.shownLevels key v = .ok u)
      (hs : w.userSettings = .ok s) (hwritten : settingsWritten w.host.copyCalls (s.set f u) = (content, some e))
      (hbytes : w'.userBytes? = some (encode content)) : SetLeads w key v (.error (.failure e)) w'
  | saved {f : Field} {u : Value} {s : Settings} {content : Text} {w' : World} (hhost : w'.host = w.host)
      (hf : Field.named? key = some f) (hu : coerce w.host.shownLevels key v = .ok u) (hs : w.userSettings = .ok s)
      (hwritten : settingsWritten w.host.copyCalls (s.set f u) = (content, none))
      (hbytes : w'.userBytes? = some (encode content)) (hfresh : w'.settings.loaded = none) :
      SetLeads w key v (.ok .done) w'

theorem SettingsCall.outcome_set (key : Text) (v : Value) (w : World) : (set key v).session.outcome w =
    (((setSetting key v).outcome w).1.map fun _ => .done, ((setSetting key v).outcome w).2) := by
  unfold session
  rw [outcome_bind]
  rcases (setSetting key v).outcome w with ⟨h | s, w'⟩ <;> rfl

theorem setLeads (w : World) (key : Text) (v : Value) :
    SetLeads w key v ((SettingsCall.set key v).answer w) (w.after (.set key v)) := by
  unfold SettingsCall.answer World.after
  rw [SettingsCall.outcome_set]
  unfold setSetting
  rw [outcome_bind, outcome_loadUserSettings]
  cases hs : w.userSettings with
  | error e => exact .refused _ (Or.inl ⟨e, hs⟩)
  | ok s =>
    dsimp only [Except.mapError]
    rw [outcome_bind_of_ok (outcome_get w), outcome_bind, outcome_orHalt]
    cases hu : coerce w.host.shownLevels key v with
    | error h => exact .refused h (Or.inr hu)
    | ok u =>
      obtain ⟨f, hf, -⟩ := cases_of_coerce hu
      rw [hf]
      dsimp only [Option.map_some, Option.getD_some]
      obtain ⟨content, fault, hwritten⟩ : ∃ content fault, settingsWritten w.host.copyCalls (s.set f u) =
        (content, fault) := ⟨_, _, rfl⟩
      have hsave := outcome_saveSettings hwritten
      obtain ⟨t, hends, hbytes⟩ | ⟨h, t, hends, hbefore, hafter⟩ :=
        write_cases { w with settings := { w.settings with loaded := some (s.set f u) } } (encode content) (failIf fault)
      · rw [outcome_bind, hsave, hends]
        cases fault with
        | none => exact .saved rfl hf hu hs hwritten hbytes rfl
        | some e => exact .spoiled rfl hf hu hs hwritten hbytes
      · rw [outcome_bind, hsave, hends]
        exact .notWritten h rfl hbefore hafter

/-! ## What the file says -/

/-- Six entries: one field has this value, and the others have what was said of them, or their defaults. -/
def entriesWith (es : Entries) (f : Field) (u : Value) : Entries :=
  Field.all.map fun g => (.text g.name, if g = f then u else (es.getText? g.name).getD g.usual)

theorem entries_set_ofEntries (es : Entries) (f : Field) (u : Value) :
    ((Settings.ofEntries es).set f u).entries = entriesWith es f u := by
  unfold Settings.entries entriesWith Settings.ofEntries
  simp only [Settings.get_set, Settings.get_ofFields]

theorem ofEntries_entriesWith (es : Entries) (f : Field) (u : Value) :
    Settings.ofEntries (entriesWith es f u) = (Settings.ofEntries es).set f u := by
  rw [← entries_set_ofEntries, ofEntries_entries]

theorem plain_set_ofEntries {levels : Nat} {es : Entries} (hes : Plain (levels + 1) (.map es)) {u : Value}
    (hu : Plain levels u) (f g : Field) : Plain levels (((Settings.ofEntries es).set f u).get g) := by
  rw [Settings.get_set]
  split
  · exact hu
  · exact plain_get_ofEntries hes g

/-- What the user's file is before the first call: absent, no JSON, an object without floats, or beyond what the reader
can reach. -/
inductive World.SaysPlainly (w : World) : Prop
  | said {es : Entries} (h : Holds w.host.jsonLevels w.userBytes? es) (hfloat : (Value.map es).FloatFree)
  | tooDeep {content : Bytes} {t : Text} (hbytes : w.userBytes? = some content) (ht : decodeStrict content = some t)
      (hdeep : readJson w.host.jsonLevels (unifyNewlines t) = .error .tooDeep)

/-- **A file that is loaded** says entries that can be written. -/
theorem World.SaysPlainly.exists_entries {w : World} (hfile : w.SaysPlainly) {s : Settings}
    (hs : w.userSettings = .ok s) : ∃ levels es, w.host.jsonLevels = levels + 1 ∧ Holds (levels + 1) w.userBytes? es ∧
      Plain (levels + 1) (.map es) ∧ s = .ofEntries es := by
  obtain ⟨levels, hlevels⟩ := Nat.exists_eq_add_one_of_ne_zero w.host.jsonLevels_pos.ne'
  cases hfile with
  | @said es h hfloat =>
    have hentries := h.eq_ofEntries hs
    rw [hlevels] at h
    exact ⟨levels, es, hlevels, h, ⟨h.isJson, hfloat⟩, hentries⟩
  | tooDeep hbytes ht hdeep =>
    rw [userSettings_of_some hbytes, settingsOfBytes, ht] at hs
    dsimp only at hs
    rw [settingsOfText, hdeep] at hs
    cases hs

/-- **What a set writes**: everything, or nothing where it goes too deep. -/
theorem World.SaysPlainly.written {w : World} (hfile : w.SaysPlainly) {key : Text} {v u : Value} {f : Field}
    {s : Settings} (hshort : ∀ n, v = .int n → ShortInt n) (hu : coerce w.host.shownLevels key v = .ok u)
    (hs : w.userSettings = .ok s) : settingsWritten w.host.copyCalls (s.set f u) =
      if (s.set f u).copies w.host.copyCalls then (settingsJson (s.set f u), none) else ([], some .tooDeep) := by
  obtain ⟨levels, es, -, -, hplain, rfl⟩ := hfile.exists_entries hs
  split
  · rename_i hcopies
    exact settingsWritten_of_plain (plain_set_ofEntries hplain (plain_of_coerce hshort hu) f) hcopies
  · rename_i hdeep
    exact settingsWritten_of_not_copies (Bool.eq_false_iff.2 hdeep)

/-- The file can be read and saved, and what is kept of an earlier loading is what a new store would load. -/
structure World.InStep (w : World) : Prop where
  readable : w.userBytes?.isSome = true
  plainly : w.SaysPlainly
  copies : ∀ s, w.userSettings = .ok s → s.copies w.host.copyCalls = true
  current : w.Current

/-- **What is saved** is what the file said but for one field, and nothing is kept of an earlier loading. -/
theorem World.SaysPlainly.saved {w w' : World} (hfile : w.SaysPlainly) {key : Text} {v u : Value} {f : Field}
    {s : Settings} {content : Text} (hshort : ∀ n, v = .int n → ShortInt n) (hhost : w'.host = w.host)
    (hu : coerce w.host.shownLevels key v = .ok u) (hs : w.userSettings = .ok s)
    (hwritten : settingsWritten w.host.copyCalls (s.set f u) = (content, none))
    (hbytes : w'.userBytes? = some (encode content)) (hfresh : w'.settings.loaded = none) :
    w'.InStep ∧ ∃ es, Holds w.host.jsonLevels w.userBytes? es ∧
      Holds w.host.jsonLevels w'.userBytes? (entriesWith es f u) := by
  obtain ⟨levels, es, hlevels, hes, hplain, rfl⟩ := hfile.exists_entries hs
  have hcases := hfile.written (f := f) hshort hu hs
  rw [hwritten] at hcases
  cases hcopies : ((Settings.ofEntries es).set f u).copies w.host.copyCalls with
  | false =>
    rw [hcopies] at hcases
    cases hcases
  | true =>
    rw [hcopies, if_pos rfl] at hcases
    obtain ⟨rfl, -⟩ := Prod.mk.inj hcases
    have hfields := plain_set_ofEntries hplain (plain_of_coerce hshort hu) f
    have hsaved := holds_encode_settingsJson hfields
    rw [entries_set_ofEntries, ← hbytes, ← hlevels] at hsaved
    rw [← hlevels] at hes
    refine ⟨⟨?_, .said (hhost ▸ hsaved) ?_, fun s hs => ?_, fun s hs => ?_⟩, es, hes, hsaved⟩
    · rw [hbytes]
      rfl
    · rw [← entries_set_ofEntries]
      exact (plain_entries hfields).floatFree
    · rw [hhost, Holds.eq_ofEntries (hhost ▸ hsaved) hs, ofEntries_entriesWith]
      exact hcopies
    · rw [hfresh] at hs
      cases hs

/-! ## Calls in a row -/

theorem World.userSettings_after_of_ask {c : SettingsCall} (hc : c.isSet = false) (w : World) :
    (w.after c).userSettings = w.userSettings ∧ (w.after c).host = w.host := by
  obtain ⟨events, loaded, h⟩ := exists_outcome_loadSettings w
  rw [World.after, SettingsCall.outcome_ask hc, h]
  exact ⟨rfl, rfl⟩

theorem World.SaysPlainly.after_of_ask {w : World} (hfile : w.SaysPlainly) {c : SettingsCall} (hc : c.isSet = false) :
    (w.after c).SaysPlainly := by
  have hbytes := w.userBytes?_after_of_ask hc
  have hhost := (w.userSettings_after_of_ask hc).2
  cases hfile with
  | said h hfloat => exact .said (by rwa [hbytes, hhost]) hfloat
  | tooDeep hcontent ht hdeep => exact .tooDeep (hbytes.trans hcontent) ht (by rwa [hhost])

theorem World.SaysPlainly.after {w : World} (hfile : w.SaysPlainly) {c : SettingsCall} (hc : c.Short) :
    (w.after c).SaysPlainly := by
  cases hask : c.isSet with
  | false => exact hfile.after_of_ask hask
  | true =>
    obtain ⟨key, v, rfl⟩ := c.exists_set_of_isSet hask
    have hleads := setLeads w key v
    generalize (SettingsCall.set key v).answer w = r, w.after (.set key v) = w' at hleads ⊢
    cases hleads with
    | refused h hwhy => exact hfile
    | notWritten h hhost hbefore hafter => exact @World.SaysPlainly.said _ [] (hafter ▸ .absent) trivial
    | spoiled hhost hf hu hs hwritten hbytes =>
      rw [hfile.written hc hu hs] at hwritten
      split at hwritten
      · cases hwritten
      · cases hwritten
        exact @World.SaysPlainly.said _ [] (hbytes ▸ holds_nil) trivial
    | saved hhost hf hu hs hwritten hbytes hfresh =>
      exact (hfile.saved hc hhost hu hs hwritten hbytes hfresh).1.plainly

/-- Once the file can be read and copied, every set is refused or saved. -/
theorem World.InStep.after {w : World} (h : w.InStep) {c : SettingsCall} (hc : c.Short) : (w.after c).InStep := by
  cases hask : c.isSet with
  | false =>
    obtain ⟨hsettings, hhost⟩ := w.userSettings_after_of_ask hask
    refine ⟨?_, h.plainly.after hc, ?_, ?_⟩
    · rw [World.userBytes?_after_of_ask hask]
      exact h.readable
    · rw [hsettings, hhost]
      exact h.copies
    · rw [World.after, SettingsCall.outcome_ask hask]
      exact h.current.outcome_loadSettings.2
  | true =>
    obtain ⟨key, v, rfl⟩ := c.exists_set_of_isSet hask
    have hleads := setLeads w key v
    generalize (SettingsCall.set key v).answer w = r, w.after (.set key v) = w' at hleads ⊢
    cases hleads with
    | refused e hwhy => exact h
    | notWritten e hhost hbefore hafter =>
      have hreadable := h.readable
      rw [hbefore] at hreadable
      cases hreadable
    | @spoiled f u s content e w' hhost hf hu hs hwritten hbytes =>
      rw [h.plainly.written hc hu hs, if_pos (copies_set (h.copies s hs) (calls_of_coerce hu) f)] at hwritten
      cases hwritten
    | saved hhost hf hu hs hwritten hbytes hfresh =>
      exact (h.plainly.saved hc hhost hu hs hwritten hbytes hfresh).1

end EnvAudit

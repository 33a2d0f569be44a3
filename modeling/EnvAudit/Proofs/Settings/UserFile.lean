import EnvAudit.Proofs.Json.RoundTrip
import EnvAudit.Proofs.Text.Utf8
import EnvAudit.Proofs.World.FileTree
import EnvAudit.Proofs.World.Session
import EnvAudit.Settings.Store
/-!
# What the user's file says

A file that is absent or no JSON says nothing, and an object says what its entries are; settings are loaded from what
the file says (`outcome_loadUserSettings`).  Settings whose values JSON can hold are written as an object of six entries,
which says these values again (`holds_encode_settingsJson`).
-/
namespace EnvAudit

variable {levels : Nat}

/-! ## What a file holds -/

/-- The entries of the user's file, by its bytes: none if it is absent or no JSON. -/
inductive Holds (levels : Nat) : Option Bytes → Entries → Prop
  | absent : Holds levels none []
  | malformed {content : Bytes} {t : Text} (ht : decodeStrict content = some t)
      (h : readJson levels (unifyNewlines t) = .error .malformed) : Holds levels (some content) []
  | object {content : Bytes} {t : Text} {es : Entries} (ht : decodeStrict content = some t)
      (h : readJson levels (unifyNewlines t) = .ok (.map es)) : Holds levels (some content) es

theorem isJson_nil : (Value.map []).IsJson (levels + 1) := trivial

theorem Holds.isJson {content : Option Bytes} {es : Entries} (h : Holds (levels + 1) content es) :
    (Value.map es).IsJson (levels + 1) := by
  cases h with
  | absent => exact isJson_nil
  | malformed => exact isJson_nil
  | object ht h => exact isJson_of_readJson h

/-- An empty file says nothing. -/
theorem holds_nil : Holds levels (some []) [] := .malformed rfl rfl

theorem Holds.settingsOfBytes_eq {content : Bytes} {es : Entries} (h : Holds levels (some content) es) :
    settingsOfBytes levels content = .ok (Settings.ofEntries es) := by
  cases h with
  | malformed ht h => simp only [settingsOfBytes, ht, settingsOfText, h]; rfl
  | object ht h => simp only [settingsOfBytes, ht, settingsOfText, h]; rfl

/-- What can be read of the user's file. -/
def World.userBytes? (w : World) : Option Bytes := (w.tree.readFile w.cwd w.settings.userFile).toOption

theorem readFile_of_userBytes? {w : World} {content : Bytes} (h : w.userBytes? = some content) :
    w.tree.readFile w.cwd w.settings.userFile = .ok content := by
  unfold World.userBytes? at h
  cases hread : w.tree.readFile w.cwd w.settings.userFile with
  | error f => rw [hread] at h; cases h
  | ok bs => rw [hread] at h; exact congrArg Except.ok (Option.some.inj h)

/-! ## Loading -/

open Session

def World.userSettings (w : World) : Except Failure Settings := do
  if ← w.tree.exists? w.cwd w.settings.userFile then
    settingsOfBytes w.host.jsonLevels (← w.tree.readFile w.cwd w.settings.userFile)
  else return .usual

/-- Loading the user's settings changes nothing. -/
theorem outcome_loadUserSettings (w : World) :
    loadUserSettings.outcome w = (w.userSettings.mapError Halt.failure, w) := by
  unfold loadUserSettings World.userSettings
  rw [outcome_bind_of_ok (outcome_get w), outcome_bind, outcome_exists?]
  cases w.tree.exists? w.cwd w.settings.userFile with
  | error f => rfl
  | ok there =>
    cases there with
    | false => rfl
    | true =>
      dsimp only [Except.mapError]
      rw [if_pos rfl, outcome_bind, outcome_readFile]
      cases w.tree.readFile w.cwd w.settings.userFile with
      | error f => rfl
      | ok content => exact outcome_orFail _ w

theorem userSettings_of_some {w : World} {content : Bytes} (h : w.userBytes? = some content) :
    w.userSettings = settingsOfBytes w.host.jsonLevels content := by
  have hread := readFile_of_userBytes? h
  unfold World.userSettings
  rw [FileTree.exists?_of_readFile hread, hread]
  rfl

theorem userSettings_of_absent {w : World} (h : w.tree.exists? w.cwd w.settings.userFile = .ok false) :
    w.userSettings = .ok .usual := by
  unfold World.userSettings
  rw [h]
  rfl

/-- Without a file that can be read nothing is loaded but the defaults. -/
theorem eq_usual_of_userSettings {w : World} {s : Settings} (h : w.userBytes? = none) (hs : w.userSettings = .ok s) :
    s = .usual := by
  unfold World.userSettings at hs
  obtain ⟨there, hthere, hs⟩ := exists_of_bind_ok hs
  cases there with
  | false => exact (Except.ok.inj hs).symm
  | true =>
    obtain ⟨content, hread, -⟩ := exists_of_bind_ok hs
    unfold World.userBytes? at h
    rw [hread] at h
    cases h

/-- **What is loaded of the user's file** is what it says. -/
theorem Holds.eq_ofEntries {w : World} {es : Entries} (h : Holds w.host.jsonLevels w.userBytes? es) {s : Settings}
    (hs : w.userSettings = .ok s) : s = .ofEntries es := by
  generalize hbytes : w.userBytes? = bytes at h
  cases bytes with
  | none =>
    cases h
    exact eq_usual_of_userSettings hbytes hs
  | some content =>
    rw [userSettings_of_some hbytes, h.settingsOfBytes_eq] at hs
    exact (Except.ok.inj hs).symm

/-! ## Values -/

/-- JSON can hold this value on so many levels, and no float is in it. -/
structure Plain (levels : Nat) (v : Value) : Prop where
  isJson : v.IsJson levels
  floatFree : v.FloatFree

theorem plain_text (t : Text) : Plain levels (.text t) := ⟨trivial, trivial⟩

theorem plain_int {n : Int} (h : ShortInt n) : Plain levels (.int n) := ⟨h, trivial⟩

theorem plain_nil : Plain (levels + 1) (.map []) := ⟨isJson_nil, trivial⟩

theorem plain_usual (f : Field) : Plain levels f.usual := by
  cases f with
  | historyDepth => exact plain_int (by decide)
  | maxHistoryBytes => exact plain_int (by decide)
  | _ => exact plain_text _

theorem plain_of_get? {es : Entries} (h : Plain (levels + 1) (.map es)) {k : Text} {v : Value}
    (hv : es.getText? k = some v) : Plain levels v := by
  obtain ⟨e, he, rfl⟩ := Option.map_eq_some_iff.1 hv
  have hmem := List.mem_of_find?_eq_some he
  exact ⟨isJson_of_mem_jsonMembers h.isJson e hmem, floatFree_of_mem_members h.floatFree e hmem⟩

theorem plain_get_ofEntries {es : Entries} (h : Plain (levels + 1) (.map es)) (f : Field) :
    Plain levels ((Settings.ofEntries es).get f) := by
  rw [Settings.ofEntries, Settings.get_ofFields]
  cases hv : es.getText? f.name with
  | none => exact plain_usual f
  | some v => exact plain_of_get? h hv

theorem plain_fields (value : Field → Value) (hvalue : ∀ f, Plain levels (value f)) : ∀ {fs : List Field},
    fs.Pairwise (·.name ≠ ·.name) → Plain (levels + 1) (.map (fs.map fun f => (.text f.name, value f)))
  | [], _ => plain_nil
  | f :: fs, h => by
    obtain ⟨hf, hfs⟩ := List.pairwise_cons.1 h
    obtain ⟨hjson, hfloat⟩ := plain_fields value hvalue hfs
    refine ⟨⟨⟨f.name, rfl⟩, fun e he => ?_, (hvalue f).isJson, hjson⟩, (hvalue f).floatFree, hfloat⟩
    obtain ⟨g, hg, rfl⟩ := List.mem_map.1 he
    exact decide_eq_false (hf g hg)

theorem plain_entries {s : Settings} (h : ∀ f, Plain levels (s.get f)) : Plain (levels + 1) (.map s.entries) :=
  plain_fields s.get h (by decide)

/-- **A document that is written** is what the file says. -/
theorem holds_encode_json {es : Entries} (h : Plain levels (.map es)) :
    Holds levels (some (encode (Value.map es).json)) es := by
  have hreturn : '\r' ∉ (Value.map es).json := return_not_mem_json h.isJson h.floatFree
  refine .object (decodeStrict_encode _) ?_
  rw [unifyNewlines_of_not_mem hreturn]
  exact readJson_json h.isJson h.floatFree

theorem holds_encode_settingsJson {s : Settings} (h : ∀ f, Plain levels (s.get f)) :
    Holds (levels + 1) (some (encode (settingsJson s))) s.entries :=
  holds_encode_json (plain_entries h)

theorem ofEntries_entries (s : Settings) : Settings.ofEntries s.entries = s := by
  cases s
  rfl

/-- **Settings that are written** are loaded again. -/
theorem settingsOfBytes_encode_settingsJson {s : Settings} (h : ∀ f, Plain levels (s.get f)) :
    settingsOfBytes (levels + 1) (encode (settingsJson s)) = .ok s := by
  rw [(holds_encode_settingsJson h).settingsOfBytes_eq, ofEntries_entries]

end EnvAudit

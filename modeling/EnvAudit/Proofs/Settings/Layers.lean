import EnvAudit.Proofs.Settings.Overrides
import EnvAudit.Proofs.Settings.UserFile
/-!
# Settings in layers

What is in force of a field is said by the first source that says anything of it: a variable of the environment, the
project's file, the user's file, and the default (`InForce`).  That is what a first loading gives, in whatever order the
variables are asked for, and it is refused exactly if an override that is in force is no integer and its field is one
(`loadSettingsIn_layered`).  Two things in the user's file make a loading fail before that, even where no field asks for
them: a value that goes too deep, and an integer that is too long to be read (`not_loadSettings_layered`).

Texts are texts here: half of a surrogate pair, which JSON can write down, is taken for U+FFFD when it is read.
-/
namespace EnvAudit

/-! ## What is in force -/

/-- **The value of a field**, by what the sources say: the user's file is taken as it is, an override is coerced. -/
inductive InForce (environment : List (Text × Text)) (rc : RcEntries) (user : Entries) (f : Field) : Value → Prop
  | override {t : Text} {v : Value} (h : Override environment rc f t) (hv : f.coerceText t = .ok v) :
      InForce environment rc user f v
  | stored {v : Value} (hnone : ∀ t, ¬ Override environment rc f t) (hv : user.getText? f.name = some v) :
      InForce environment rc user f v
  | usual (hnone : ∀ t, ¬ Override environment rc f t) (hmissing : user.getText? f.name = none) :
      InForce environment rc user f f.usual

/-- How a first loading ends, by what the sources say. -/
inductive LoadsTo (environment : List (Text × Text)) (rc : RcEntries) :
    Except Failure Entries → Except Halt Settings → Prop
  | failed (e : Failure) : LoadsTo environment rc (.error e) (.error (.failure e))
  | refused {user : Entries} {f : Field} {t : Text} (ht : Override environment rc f t) (h : Misfit f t) :
      LoadsTo environment rc (.ok user) (.error (.problem (.notAnInteger f.name (Value.text t).shown)))
  | loaded {user : Entries} {s : Settings} (hfit : ∀ f t, Override environment rc f t → ¬ Misfit f t)
      (h : ∀ f, InForce environment rc user f (s.get f)) : LoadsTo environment rc (.ok user) (.ok s)

/-- There is one value in force. -/
theorem InForce.unique {environment : List (Text × Text)} {rc : RcEntries} {user : Entries} {f : Field} {v v' : Value}
    (h : InForce environment rc user f v) (h' : InForce environment rc user f v') : v = v' := by
  cases h with
  | override ht hv =>
    cases h' with
    | override ht' hv' =>
      obtain rfl := ht.unique ht'
      exact Except.ok.inj (hv.symm.trans hv')
    | stored hnone | usual hnone => exact absurd ht (hnone _)
  | stored hnone hv =>
    cases h' with
    | override ht => exact absurd ht (hnone _)
    | stored _ hv' => exact Option.some.inj (hv.symm.trans hv')
    | usual _ hmissing => exact nomatch hv.symm.trans hmissing
  | usual hnone hmissing =>
    cases h' with
    | override ht => exact absurd ht (hnone _)
    | stored _ hv => exact nomatch hv.symm.trans hmissing
    | usual => rfl

theorem loadsTo_applyOverrides {order : List Field} (horder : order.Perm Field.all)
    (environment : List (Text × Text)) (rc : RcEntries) (user : Entries) :
    LoadsTo environment rc (.ok user)
      (applyOverrides (withVariables order environment (projectOverrides rc)) (.ofEntries user)) := by
  have honce := oncePerField_withVariables environment order (oncePerField_projectOverrides rc)
  cases hresult : applyOverrides (withVariables order environment (projectOverrides rc)) (.ofEntries user) with
  | error h =>
    obtain ⟨f, t, ht, hcoerce⟩ := exists_of_applyOverrides_error honce hresult
    obtain ⟨hmisfit, rfl⟩ := misfit_of_coerceText hcoerce
    exact .refused ((overrideOf_withVariables_projectOverrides horder).1 ht) hmisfit
  | ok s =>
    refine .loaded (fun f t ht => ?_) fun f => ?_
    · have hcoerce := (get_of_applyOverrides f honce hresult).2 t
        ((overrideOf_withVariables_projectOverrides horder).2 ht)
      exact not_misfit_of_coerceText hcoerce
    · obtain ⟨hstays, hset⟩ := get_of_applyOverrides f honce hresult
      cases hover : overrideOf (withVariables order environment (projectOverrides rc)) f with
      | some t => exact .override ((overrideOf_withVariables_projectOverrides horder).1 hover) (hset t hover)
      | none =>
        have hnone : ∀ t, ¬ Override environment rc f t := fun t ht => by
          rw [(overrideOf_withVariables_projectOverrides horder).2 ht] at hover
          cases hover
        rw [hstays hover, Settings.ofEntries, Settings.get_ofFields]
        cases hstored : user.getText? f.name with
        | some v => exact .stored hnone hstored
        | none => exact .usual hnone hstored

/-! ## Loading -/

open Session

def rcEntriesOfBytes (environment : List (Text × Text)) (content : Bytes) : Except Failure RcEntries :=
  match decodeStrict content with
  | none => .error .undecodable
  | some t => .ok (rcEntriesOf environment ((rcStatements (unifyNewlines t)).map (·.2)))

def World.rcEntries (w : World) : Except Failure RcEntries := do
  if ← w.tree.isFile w.cwd w.settings.projectFile then
    rcEntriesOfBytes w.environment (← w.tree.readFile w.cwd w.settings.projectFile)
  else return []

/-- Reading the project's file changes nothing but what has been said aside. -/
theorem exists_outcome_projectEntries (w : World) : ∃ es : List Event, (∀ e ∈ es, e.IsQuiet) ∧
    projectEntries.outcome w = (w.rcEntries.mapError Halt.failure, { w with events := es ++ w.events }) := by
  unfold projectEntries World.rcEntries
  rw [outcome_bind_of_ok (outcome_get w), outcome_bind, outcome_isFile]
  cases w.tree.isFile w.cwd w.settings.projectFile with
  | error e => exact ⟨[], nofun, rfl⟩
  | ok there =>
    cases there with
    | false => exact ⟨[], nofun, rfl⟩
    | true =>
      dsimp only [Except.mapError]
      rw [if_pos rfl, outcome_bind, outcome_readFile]
      cases w.tree.readFile w.cwd w.settings.projectFile with
      | error e => exact ⟨[], nofun, rfl⟩
      | ok content =>
        change ∃ es : List Event, (∀ e ∈ es, e.IsQuiet) ∧ _ =
          ((rcEntriesOfBytes w.environment content).mapError Halt.failure, { w with events := es ++ w.events })
        dsimp only [Except.mapError, rcEntriesOfBytes]
        cases decodeStrict content with
        | none => exact ⟨[], nofun, rfl⟩
        | some t =>
          have hwarned := outcome_forIn_emit (fun line => .err (rcWarning line))
            (unreadableLines (rcStatements (unifyNewlines t))) w
          refine ⟨_, fun e he => ?_, outcome_bind_of_ok hwarned _⟩
          obtain ⟨line, -, rfl⟩ := List.mem_map.1 (List.mem_reverse.1 he)
          rfl

theorem rcEntries_of_outcome {w : World} {rc : RcEntries} (h : (projectEntries.outcome w).1 = .ok rc) :
    w.rcEntries = .ok rc := by
  obtain ⟨es, -, hrc⟩ := exists_outcome_projectEntries w
  rw [hrc] at h
  cases hentries : w.rcEntries with
  | error e => rw [hentries] at h; cases h
  | ok rc' => rw [hentries] at h; exact congrArg Except.ok (Except.ok.inj h)

/-- What a first loading gives. -/
def World.settingsIn (w : World) (order : List Field) : Except Halt Settings :=
  match w.userSettings, w.rcEntries with
  | .error e, _ => .error (.failure e)
  | .ok _, .error e => .error (.failure e)
  | .ok user, .ok rc => applyOverrides (withVariables order w.environment (projectOverrides rc)) user

/-- Nothing overrides the user's settings: there is no project's file, and no variable is set. -/
structure World.NotOverridden (w : World) : Prop where
  noProjectFile : w.tree.isFile w.cwd w.settings.projectFile = .ok false
  noVariable : ∀ f, variableOf w.environment f = none

theorem withVariables_of_none {environment : List (Text × Text)} (h : ∀ f, variableOf environment f = none)
    (os : Overrides) : ∀ order : List Field, withVariables order environment os = os
  | [] => rfl
  | f :: order => by
    rw [withVariables_cons, h f]
    exact withVariables_of_none h os order

theorem World.NotOverridden.settingsIn_eq {w : World} (h : w.NotOverridden) (order : List Field) :
    w.settingsIn order = w.userSettings.mapError Halt.failure := by
  have hentries : w.rcEntries = .ok [] := by
    unfold World.rcEntries
    rw [h.noProjectFile]
    rfl
  have hvariables : withVariables order w.environment (projectOverrides []) = [] :=
    withVariables_of_none h.noVariable [] order
  unfold World.settingsIn
  rw [hentries]
  cases w.userSettings with
  | error e => rfl
  | ok user =>
    dsimp only [Except.mapError]
    rw [hvariables]
    rfl

/-- A first loading keeps what it gives, and changes nothing else but what has been said aside. -/
theorem exists_outcome_loadSettingsIn (order : List Field) {w : World} (hfirst : w.settings.loaded = none) :
    ∃ es : List Event, (∀ e ∈ es, e.IsQuiet) ∧ (loadSettingsIn order).outcome w = (w.settingsIn order,
      { w with
        events := es ++ w.events, settings := { w.settings with loaded := (w.settingsIn order).toOption } }) := by
  have hnone : ∀ events, { w with events := events, settings := { w.settings with loaded := none } } =
      { w with events := events } := fun _ => by rw [← hfirst]
  obtain ⟨es, hquiet, hrc⟩ := exists_outcome_projectEntries w
  unfold loadSettingsIn World.settingsIn
  rw [outcome_bind_of_ok (outcome_get w), hfirst]
  dsimp only
  rw [outcome_bind, outcome_loadUserSettings]
  cases w.userSettings with
  | error e => exact ⟨[], nofun, congrArg (Prod.mk _) (hnone w.events).symm⟩
  | ok user =>
    dsimp only [Except.mapError]
    rw [outcome_bind, hrc]
    cases w.rcEntries with
    | error e => exact ⟨es, hquiet, congrArg (Prod.mk _) (hnone (es ++ w.events)).symm⟩
    | ok rc =>
      dsimp only [Except.mapError]
      rw [outcome_bind, outcome_orHalt]
      cases applyOverrides (withVariables order w.environment (projectOverrides rc)) user with
      | error h => exact ⟨es, hquiet, congrArg (Prod.mk _) (hnone (es ++ w.events)).symm⟩
      | ok s => exact ⟨es, hquiet, rfl⟩

/-- What a world's user file says, or that an integer in it is too long, or that it goes too deep. -/
inductive World.UserSays (w : World) : Except Failure Entries → Prop
  | absent (h : w.tree.exists? w.cwd w.settings.userFile = .ok false) : UserSays w (.ok [])
  | present {content : Bytes} {user : Entries} (h : w.userBytes? = some content)
      (huser : Holds w.host.jsonLevels (some content) user) : UserSays w (.ok user)
  | tooLong {content : Bytes} {t : Text} (h : w.userBytes? = some content) (ht : decodeStrict content = some t)
      (hlong : readJson w.host.jsonLevels (unifyNewlines t) = .error .integerTooLong) : UserSays w (.error .badValue)
  | tooDeep {content : Bytes} {t : Text} (h : w.userBytes? = some content) (ht : decodeStrict content = some t)
      (hdeep : readJson w.host.jsonLevels (unifyNewlines t) = .error .tooDeep) : UserSays w (.error .tooDeep)

theorem World.UserSays.userSettings_eq {w : World} {user : Except Failure Entries} (h : w.UserSays user) :
    w.userSettings = user.map Settings.ofEntries := by
  cases h with
  | absent h => exact userSettings_of_absent h
  | present h huser => exact (userSettings_of_some h).trans huser.settingsOfBytes_eq
  | tooLong h ht hlong =>
    rw [userSettings_of_some h, settingsOfBytes, ht]
    dsimp only
    rw [settingsOfText, hlong]
    rfl
  | tooDeep h ht hdeep =>
    rw [userSettings_of_some h, settingsOfBytes, ht]
    dsimp only
    rw [settingsOfText, hdeep]
    rfl

/-- **Without overrides** the user's settings are loaded. -/
theorem World.NotOverridden.loadSettings_eq {w : World} (h : w.NotOverridden) (hfirst : w.settings.loaded = none) :
    (loadSettings.outcome w).1 = w.userSettings.mapError Halt.failure := by
  obtain ⟨es, -, hload⟩ := exists_outcome_loadSettingsIn Field.all hfirst
  rw [← h.settingsIn_eq Field.all]
  exact congrArg Prod.fst hload

/-- **A first loading gives what is in force, field by field**, in whatever order the variables are asked for.  It is
refused exactly if an override that is in force misfits, and then nothing is kept. -/
theorem loadSettingsIn_layered {order : List Field} (horder : order.Perm Field.all) {w : World}
    (hfirst : w.settings.loaded = none) {user : Except Failure Entries} (huser : w.UserSays user) {rc : RcEntries}
    (hrc : (projectEntries.outcome w).1 = .ok rc) :
    ∃ result w', (loadSettingsIn order).outcome w = (result, w') ∧ LoadsTo w.environment rc user result ∧
      w'.settings.loaded = result.toOption := by
  obtain ⟨es, -, hload⟩ := exists_outcome_loadSettingsIn order hfirst
  have hentries := rcEntries_of_outcome hrc
  refine ⟨_, _, hload, ?_, rfl⟩
  unfold World.settingsIn
  rw [huser.userSettings_eq, hentries]
  cases user with
  | error e => exact .failed e
  | ok user => exact loadsTo_applyOverrides horder w.environment rc user

/-- A world without git, whose user's file has these bytes. -/
def userFileWorld (content : Bytes) : World :=
  { World.bare (.notStarted .missing) with
    tree := ⟨[([".envguard".toList], .directory), ([".envguard".toList, "config.json".toList], .file content false)]⟩ }

theorem notOverridden_userFileWorld (content : Bytes) : (userFileWorld content).NotOverridden := ⟨rfl, fun _ => rfl⟩

/-- A world without git, with this file of the user's. -/
def userWorld (user : Entries) : World :=
  { World.bare (.notStarted .missing) with
    tree := ⟨[([".envguard".toList], .directory),
      ([".envguard".toList, "config.json".toList], .file (encode (Value.map user).json) false)]⟩ }

def shadowedUser : Entries := [(.text "log_level".toList, .text "INFO".toList), (.text "schema_file".toList, .null)]

/-- Every source speaks of some field; the project's bad integer is in the shadow of the variable. -/
def shadowedWorld : World :=
  { userWorld shadowedUser with
    tree := ⟨([".envguardrc".toList], .file (encode "ENVGUARD_LOG_LEVEL=DEBUG\nhistory_depth=x".toList) false) ::
      (userWorld shadowedUser).tree.entries⟩
    environment := [("ENVGUARD_HISTORY_DEPTH".toList, "7".toList)] }

theorem plain_shadowedUser {levels : Nat} : Plain (levels + 1) (.map shadowedUser) :=
  ⟨⟨⟨_, rfl⟩, by decide, trivial, ⟨_, rfl⟩, nofun, trivial, trivial⟩, trivial, trivial, trivial⟩

theorem loadSettingsIn_layered_shadowedWorld :
    ∃ result w', (loadSettingsIn Field.all.reverse).outcome shadowedWorld = (result, w') ∧
      LoadsTo shadowedWorld.environment
        [("ENVGUARD_LOG_LEVEL".toList, some "DEBUG".toList), ("history_depth".toList, some ['x'])] (.ok shadowedUser)
        result ∧
      w'.settings.loaded = result.toOption :=
  loadSettingsIn_layered Field.all.reverse_perm rfl (.present rfl (holds_encode_json plain_shadowedUser)) rfl

/-! ## An integer that is too long -/

theorem not_shortInt_ten_pow : ¬ ShortInt ((10 ^ maxDecimalDigits : Nat) : Int) := by
  rw [shortInt_iff, Int.natAbs_natCast]
  exact Nat.lt_irrefl _

variable {name : Text} {n : Int}

theorem spells_json_member (name : Text) (n : Int) :
    Spells (Value.map [(.text name, .int n)]).json (Value.map [(.text name, .int n)]).tokens :=
  spells_jsonBlock (by decide) (by decide) 0 (.cons ((spells_decimalInt n).member ⟨name, rfl⟩) .nil)

theorem readJson_of_long_member {levels : Nat} {t : Text}
    (ht : jsonTokens t = (Value.map [(.text name, .int n)]).tokens) (hlong : ¬ ShortInt n) :
    readJson (levels + 1) t = .error .integerTooLong := by
  have htokens : jsonTokens t =
      [.mark '\x7b', .text name, .mark ':', .word (decimalInt n), .mark '\x7d'] := ht
  have hword := (readJsonWord_decimalInt n).trans (if_neg hlong)
  have hmembers : readJsonMembers levels 10 [.text name, .mark ':', .word (decimalInt n), .mark '\x7d'] =
      .error .integerTooLong := by
    change (readJsonValue levels 9 _) >>= _ = _
    rw [readJsonValue_word (namesJsonNumber_decimalInt n), hword]
    rfl
  unfold readJson
  rw [htokens]
  change ((readJsonMembers levels 10 _).map fun p => (Value.map (Entries.ofPairs p.1), p.2)) >>= _ = _
  rw [hmembers]
  rfl

theorem userSays_of_long_member (hlong : ¬ ShortInt n) :
    (userWorld [(.text name, .int n)]).UserSays (.error .badValue) := by
  have hspells := spells_json_member name n
  have htokens := (unifyNewlines_of_not_mem hspells.noReturn).symm ▸ hspells.jsonTokens_eq
  exact .tooLong rfl (decodeStrict_encode _) (readJson_of_long_member htokens hlong)

theorem outcome_loadSettings_of_failed {w : World} (hfirst : w.settings.loaded = none) {e : Failure}
    (huser : w.UserSays (.error e)) : (loadSettings.outcome w).1 = .error (.failure e) := by
  obtain ⟨es, -, hload⟩ := exists_outcome_loadSettingsIn Field.all hfirst
  rw [World.settingsIn, huser.userSettings_eq] at hload
  exact congrArg Prod.fst hload

/-- **One integer that is too long** keeps every setting from being loaded, though no field has its name. -/
theorem not_loadSettings_layered : ¬ ∀ (w : World) (content : Bytes) (t : Text) (name : Text) (n : Int),
    w.settings.loaded = none → w.userBytes? = some content → decodeStrict content = some t →
      jsonTokens (unifyNewlines t) = (Value.map [(.text name, .int n)]).tokens →
      (projectEntries.outcome w).1 = .ok [] →
      LoadsTo w.environment [] (.ok [(.text name, .int n)]) (loadSettings.outcome w).1 := by
  intro hlayered
  obtain ⟨n, hlong⟩ : ∃ n, ¬ ShortInt n := ⟨_, not_shortInt_ten_pow⟩
  have hspells := spells_json_member "unknown".toList n
  have htokens := (unifyNewlines_of_not_mem hspells.noReturn).symm ▸ hspells.jsonTokens_eq
  have hresult := hlayered (userWorld [(.text "unknown".toList, .int n)]) _ _ _ n rfl rfl (decodeStrict_encode _)
    htokens rfl
  rw [outcome_loadSettings_of_failed rfl (userSays_of_long_member hlong)] at hresult
  cases hresult

end EnvAudit

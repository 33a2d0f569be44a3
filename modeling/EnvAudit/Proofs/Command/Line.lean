import EnvAudit.Command.Line
import EnvAudit.Proofs.Settings.Calls
/-!
# What comes before a command

A command line first gives the logger a level, its own or the one of the settings, and only then reads the words of its
command.  Both leave the files alone and show nothing (`exists_outcome_prepare`), and how they end is settled by the
settings in force.  So a line that asks for a command either is halted before it, or runs it in the same world but for the
logger and what is kept of the settings (`exists_outcome_runLine`).
-/
namespace EnvAudit

open Session

/-! ## Ends -/

/-- The exit status of a run.  One that is halted ends with status one. -/
def exitStatus : Except Halt Status → Status
  | .ok status => status
  | .error _ => failed

/-- A problem while a value is had is reported, and a failure passed on. -/
theorem exists_outcome_orComplain_of_error {α : Type} {action : Session α} {next : α → Session Status} {w w' : World}
    {e : Halt} (h : outcome action w = (.error e, w')) : ∃ (r : Except Halt Status) (es : List Event),
      exitStatus r = failed ∧ (∀ e ∈ es, e.IsQuiet) ∧
        outcome (orComplain action next) w = (r, { w' with events := es ++ w'.events }) := by
  unfold orComplain
  rw [outcome_bind, outcome_attempt, h]
  cases e with
  | problem p => exact ⟨.ok failed, [.err _], rfl, fun e he => List.mem_singleton.1 he ▸ rfl, rfl⟩
  | failure f => exact ⟨.error (.failure f), [], rfl, nofun, rfl⟩

theorem outcome_orComplain_of_ok {α : Type} {action : Session α} {next : α → Session Status} {w w' : World} {a : α}
    (h : outcome action w = (.ok a, w')) : outcome (orComplain action next) w = outcome (next a) w' := by
  unfold orComplain
  rw [outcome_bind, outcome_attempt, h]

/-- What is done went on from a value. -/
theorem exists_of_orComplain_done {α : Type} {action : Session α} {next : α → Session Status} {w : World}
    (h : exitStatus (outcome (orComplain action next) w).1 = done) :
    ∃ a w', outcome action w = (.ok a, w') ∧ outcome (orComplain action next) w = outcome (next a) w' := by
  rcases haction : outcome action w with ⟨e | a, w'⟩
  · obtain ⟨r, es, hr, -, hends⟩ := @exists_outcome_orComplain_of_error _ _ next _ _ _ haction
    rw [hends] at h
    cases hr.symm.trans h
  · exact ⟨a, w', rfl, outcome_orComplain_of_ok haction⟩

/-! ## Levels -/

/-- The settings in force, whether they are loaded yet or not. -/
def World.settingsInForce (w : World) : Except Halt Settings :=
  match w.settings.loaded with
  | some s => .ok s
  | none => w.settingsIn Field.all

theorem exists_outcome_settingsInForce (w : World) : ∃ es : List Event, (∀ e ∈ es, e.IsQuiet) ∧
    outcome loadSettings w = (w.settingsInForce, { w with
      events := es ++ w.events, settings := { w.settings with loaded := w.settingsInForce.toOption } }) := by
  unfold World.settingsInForce
  cases hloaded : w.settings.loaded with
  | none => exact exists_outcome_loadSettingsIn Field.all hloaded
  | some s =>
    have hkept : { w with settings := { w.settings with loaded := some s } } = w := by rw [← hloaded]
    exact ⟨[], nofun, (outcome_loadSettings_of_loaded hloaded).trans (congrArg (Prod.mk _) hkept.symm)⟩

/-- The level that a setting names. -/
def levelOf (v : Value) : Except Halt (Option Text) :=
  match v with
  | .scalar (.text t) => .ok (some t)
  | v => if v.isTruthy then .error (.failure .noAttribute) else .ok none

theorem outcome_levelSetting (v : Value) (w : World) : outcome (levelSetting v) w = (levelOf v, w) := by
  by_cases htext : ∃ t, v = .scalar (.text t)
  · obtain ⟨t, rfl⟩ := htext
    rfl
  · have hread : levelSetting v = if v.isTruthy then fail .noAttribute else pure none :=
      levelSetting.eq_2 v fun t ht => htext ⟨t, ht⟩
    have hlevel : levelOf v = if v.isTruthy then .error (.failure .noAttribute) else .ok none :=
      levelOf.eq_2 v fun t ht => htext ⟨t, ht⟩
    rw [hread, hlevel]
    split <;> rfl

/-- The level that the settings name; settings that make no sense name the usual one. -/
def levelNamed : Except Halt Settings → Except Halt (Option Text)
  | .ok s => levelOf s.logLevel
  | .error (.problem _) => .ok (some usualLevel)
  | .error (.failure f) => .error (.failure f)

theorem exists_outcome_levelInForce (w : World) : ∃ es : List Event, (∀ e ∈ es, e.IsQuiet) ∧
    outcome levelInForce w = (levelNamed w.settingsInForce, { w with
      events := es ++ w.events, settings := { w.settings with loaded := w.settingsInForce.toOption } }) := by
  obtain ⟨es, hquiet, hload⟩ := exists_outcome_settingsInForce w
  refine ⟨es, hquiet, ?_⟩
  unfold levelInForce
  rw [outcome_bind, outcome_attempt, hload]
  rcases w.settingsInForce with (p | f) | s
  · rfl
  · rfl
  · exact outcome_levelSetting s.logLevel _

theorem outcome_configureLogger (name : Option Text) (w : World) : outcome (configureLogger name) w =
    (match (w.logger.configure name).1 with
      | some f => .error (.failure f)
      | none => .ok ⟨⟩, { w with logger := (w.logger.configure name).2 }) := by
  unfold configureLogger
  rw [outcome_bind_of_ok (outcome_get w)]
  rcases w.logger.configure name with ⟨_ | f, logger⟩ <;> rfl

/-! ## Preparing -/

/-- What is done before the words of a command are read. -/
def prepare : Option Text → Session Unit
  | some t => configureLogger (some t)
  | none => do configureLogger (← levelInForce)

/-- How the preparing ends, the logger behind it, and what is then kept of the settings. -/
structure Prepared where
  result : Except Halt Unit
  logger : Logger
  store : SettingsStore

def Prepared.named (name : Option Text) (l : Logger) (store : SettingsStore) : Prepared :=
  ⟨match (l.configure name).1 with
    | some f => .error (.failure f)
    | none => .ok ⟨⟩, (l.configure name).2, store⟩

/-- Nothing of a world counts but its logger and its settings. -/
def prepared (level : Option Text) (s : Except Halt Settings) (l : Logger) (store : SettingsStore) : Prepared :=
  match level with
  | some t => .named (some t) l store
  | none => match levelNamed s with
    | .ok name => .named name l { store with loaded := s.toOption }
    | .error h => ⟨.error h, l, { store with loaded := s.toOption }⟩

def World.prepared (w : World) (level : Option Text) : Prepared :=
  EnvAudit.prepared level w.settingsInForce w.logger w.settings

/-- A world behind the preparing, with what has been said aside. -/
def World.behind (w : World) (p : Prepared) (es : List Event) : World :=
  { w with events := es ++ w.events, logger := p.logger, settings := p.store }

/-- **The preparing** shows nothing and leaves the files alone. -/
theorem exists_outcome_prepare (level : Option Text) (w : World) : ∃ es : List Event, (∀ e ∈ es, e.IsQuiet) ∧
    outcome (prepare level) w = ((w.prepared level).result, w.behind (w.prepared level) es) := by
  cases level with
  | some t => exact ⟨[], nofun, outcome_configureLogger (some t) w⟩
  | none =>
    obtain ⟨es, hquiet, hlevel⟩ := exists_outcome_levelInForce w
    refine ⟨es, hquiet, ?_⟩
    unfold prepare World.prepared prepared
    rw [outcome_bind, hlevel]
    cases levelNamed w.settingsInForce with
    | error h => rfl
    | ok name => exact outcome_configureLogger name _

theorem World.outText_behind (w : World) (p : Prepared) {es : List Event} (hquiet : ∀ e ∈ es, e.IsQuiet) :
    (w.behind p es).outText = w.outText := by
  change { w with events := es ++ w.events }.outText = w.outText
  rw [World.outText_events, flatMap_shown_of_quiet hquiet, List.append_nil]

/-- The settings that named the level are kept. -/
theorem loaded_prepared (w : World) : (w.prepared none).store.loaded = w.settingsInForce.toOption := by
  unfold World.prepared prepared
  dsimp only
  cases levelNamed w.settingsInForce <;> rfl

/-- Nothing of the store is touched but what is kept of a loading. -/
theorem exists_store_prepared (w : World) (level : Option Text) :
    ∃ loaded, (w.prepared level).store = { w.settings with loaded := loaded } := by
  cases level with
  | some t => exact ⟨w.settings.loaded, rfl⟩
  | none =>
    refine ⟨w.settingsInForce.toOption, ?_⟩
    unfold World.prepared prepared
    dsimp only
    cases levelNamed w.settingsInForce <;> rfl

/-- The preparing leaves the settings in force as they are. -/
theorem settingsInForce_behind (w : World) (level : Option Text) (es : List Event) :
    (w.behind (w.prepared level) es).settingsInForce = w.settingsInForce := by
  cases level with
  | some t => rfl
  | none =>
    have hloaded : (w.behind (w.prepared none) es).settings.loaded = w.settingsInForce.toOption := loaded_prepared w
    have hanew : (w.behind (w.prepared none) es).settingsIn Field.all = w.settingsIn Field.all := by
      obtain ⟨loaded, hstore⟩ := exists_store_prepared w none
      unfold World.behind
      rw [hstore]
      rfl
    generalize w.behind (w.prepared none) es = v at hloaded hanew ⊢
    unfold World.settingsInForce at hloaded ⊢
    rw [hloaded, hanew]
    -- what has been loaded is kept, and what could not be is refused again
    cases w.settings.loaded with
    | some s => rfl
    | none => cases w.settingsIn Field.all <;> rfl

/-- A standard level in the settings halts nothing. -/
theorem prepared_result_of_level {w : World} {s : Settings} {t : Text} {l : Level} (hs : w.settingsInForce = .ok s)
    (ht : s.logLevel = .text t) (hl : namedLevel (some t) = .level l) : (w.prepared none).result = .ok ⟨⟩ := by
  unfold World.prepared prepared
  rw [hs, levelNamed, ht]
  unfold levelOf Prepared.named
  dsimp only [Value.text]
  rw [Logger.configure_of_level hl]

/-! ## Command lines -/

/-- A command line asks for a command, as its words are read in a world. -/
def World.Asks (w : World) (words : List Text) (level : Option Text) (c : Command) : Prop :=
  ∃ topic rest, readLineHead words = .ok ⟨level, topic, rest⟩ ∧ readCommand (finderOf w) topic rest = .ok c

/-- What is done with the words behind the name of a command. -/
def runWords (topic : Topic) (rest : List Text) : Session Status := do
  match readCommand (finderOf (← get)) topic rest with
  | .error s => stop s
  | .ok c => run c

theorem runLine_of_head {words rest : List Text} {level : Option Text} {topic : Topic}
    (h : readLineHead words = .ok ⟨level, topic, rest⟩) (w : World) : outcome (runLine words) w =
      outcome (do
        prepare level
        runWords topic rest) w := by
  unfold runLine
  rw [h]
  cases level with
  | some t => rfl
  | none =>
    rw [outcome_bind, outcome_bind]
    unfold prepare
    rw [outcome_bind]
    rcases outcome levelInForce w with ⟨e | name, w'⟩
    · rfl
    · exact outcome_bind (configureLogger name) _ w'

theorem exists_outcome_runLine_of_head {words rest : List Text} {level : Option Text} {topic : Topic}
    (h : readLineHead words = .ok ⟨level, topic, rest⟩) (w : World) : ∃ es : List Event, (∀ e ∈ es, e.IsQuiet) ∧
      outcome (runLine words) w = match (w.prepared level).result with
        | .ok _ => outcome (runWords topic rest) (w.behind (w.prepared level) es)
        | .error h => (.error h, w.behind (w.prepared level) es) := by
  obtain ⟨es, hquiet, hprepare⟩ := exists_outcome_prepare level w
  refine ⟨es, hquiet, ?_⟩
  rw [runLine_of_head h, outcome_bind, hprepare]
  cases (w.prepared level).result <;> rfl

/-- **A line that asks for a command** is halted before it, or runs it. -/
theorem exists_outcome_runLine {w : World} {words : List Text} {level : Option Text} {c : Command}
    (h : w.Asks words level c) : ∃ es : List Event, (∀ e ∈ es, e.IsQuiet) ∧
      outcome (runLine words) w = match (w.prepared level).result with
        | .ok _ => outcome (run c) (w.behind (w.prepared level) es)
        | .error h => (.error h, w.behind (w.prepared level) es) := by
  obtain ⟨topic, rest, hhead, hcommand⟩ := h
  obtain ⟨es, hquiet, hline⟩ := exists_outcome_runLine_of_head hhead w
  refine ⟨es, hquiet, ?_⟩
  rw [hline]
  cases (w.prepared level).result with
  | error h => rfl
  | ok _ =>
    dsimp only
    unfold runWords
    rw [outcome_bind_of_ok (outcome_get _)]
    change outcome (match readCommand (finderOf w) topic rest with
      | .error s => stop s
      | .ok c => run c) _ = _
    rw [hcommand]

theorem leavesFiles_stop (s : Stop) : LeavesFiles (stop s) := by
  cases s with
  | misuse m =>
    unfold stop
    dsimp only
    cases m.message? with
    | some t => exact (leavesFiles_emit _).bind fun _ => leavesFiles_pure _
    | none => exact (leavesFiles_emit _).bind fun _ => leavesFiles_pure _
  | failure f => exact leavesFiles_throw _
  | help => exact (leavesFiles_emit _).bind fun _ => leavesFiles_pure _
  | version => exact (leavesFiles_emit _).bind fun _ => leavesFiles_pure _

/-- A line that asks for nothing leaves the files alone. -/
theorem tree_runLine_of_stop {w : World} {words rest : List Text} {level : Option Text} {topic : Topic} {s : Stop}
    (hhead : readLineHead words = .ok ⟨level, topic, rest⟩) (hstop : readCommand (finderOf w) topic rest = .error s) :
    (outcome (runLine words) w).2.tree = w.tree := by
  obtain ⟨es, -, hline⟩ := exists_outcome_runLine_of_head hhead w
  rw [hline]
  cases (w.prepared level).result with
  | error h => rfl
  | ok _ =>
    dsimp only
    unfold runWords
    rw [outcome_bind_of_ok (outcome_get _)]
    change (outcome (match readCommand (finderOf w) topic rest with
      | .error s => stop s
      | .ok c => run c) (w.behind (w.prepared level) es)).2.tree = w.tree
    rw [hstop]
    exact leavesFiles_stop s _

/-- With the usual settings nothing keeps a command from being run. -/
theorem exists_outcome_runLine_of_usual {w : World} {words : List Text} {c : Command}
    (hfresh : w.settings.loaded = none) (husual : w.settingsIn Field.all = .ok .usual) (h : w.Asks words none c) :
    ∃ (es : List Event) (logger : Logger) (store : SettingsStore), (∀ e ∈ es, e.IsQuiet) ∧
      outcome (runLine words) w =
        outcome (run c) { w with events := es ++ w.events, logger := logger, settings := store } := by
  have hforce : w.settingsInForce = .ok .usual := by
    unfold World.settingsInForce
    rw [hfresh, husual]
  have hready : (w.prepared none).result = .ok ⟨⟩ :=
    prepared_result_of_level hforce rfl (show namedLevel (some usualLevel) = .level .warning by decide)
  obtain ⟨es, hquiet, hline⟩ := exists_outcome_runLine h
  rw [hready] at hline
  exact ⟨es, _, _, hquiet, hline⟩

end EnvAudit

import EnvAudit.Proofs.Command.Output
import EnvAudit.Proofs.Command.SetSetting
import EnvAudit.Proofs.History.Running
/-!
# Scanning the history from the command line

A scan of the history is meant to end well whatever git does and whatever has been set.  With settings that lines have
set, and no override of them, that depends on git and on the limit alone: where git cannot be started the line is done,
and where it runs the line is done exactly if the limit is one (`scanHistory_done_iff`).  A limit that is too large is
taken by the line that sets it and halts the scan (`not_scanHistory_done`).
-/
namespace EnvAudit

open Session

/-! ## The command -/

/-- A scan that gives findings is done, and one that is halted is not. -/
theorem runScanHistory_done_iff {w : World} {s : Settings} (hloaded : w.settings.loaded = some s) (repo : Text)
    (depth : Option Int)
    (hdepth : ((depth.map Value.int).getD s.historyDepth).shownFault? w.host.shownLevels = none) :
    exitStatus (outcome (runScanHistory repo depth) w).1 = done ↔
      (∃ f, w.git = .notStarted f) ∨ ∃ l, limitOf w.host.memory s.maxHistoryBytes = .ok l := by
  unfold runScanHistory
  rw [outcome_orComplain_of_ok (outcome_loadSettings_of_loaded hloaded)]
  dsimp only
  generalize (depth.map Value.int).getD s.historyDepth = d at hdepth ⊢
  have hheading : outcome (heading "🔎 EnvGuard - Git History Scanner") w = (.ok ⟨⟩, _) := outcome_echo _ w
  rw [outcome_bind_of_ok hheading, outcome_bind_of_ok (outcome_plainText_of_shown (by exact hdepth)),
    outcome_bind_of_ok (outcome_echo _ _), outcome_bind]
  generalize hshown : ({ w with events := _ } : World) = shown
  have hgit : shown.git = w.git := by rw [← hshown]
  have hhost : shown.host = w.host := by rw [← hshown]
  have hends := scanEnds bundledTable s.maxHistoryBytes repo d shown
  generalize outcome (scanRepository bundledTable s.maxHistoryBytes repo _) shown = ending at hends ⊢
  obtain ⟨result, w'⟩ := ending
  rw [← hhost] at hdepth ⊢
  rw [← hgit]
  cases hends with
  | found _ h fs =>
    refine iff_of_true ?_ h
    dsimp only
    by_cases hempty : fs.isEmpty = true
    · rw [if_pos hempty]
      rfl
    · have hwarning : outcome (warning ("Found ".toList ++ decimal fs.length ++
          " potential secret(s) in history:\n".toList)) w' = (.ok ⟨⟩, _) := outcome_echo _ w'
      rw [if_neg hempty, outcome_bind_of_ok hwarning, outcome_bind_of_ok (outcome_echoAll _ _)]
      rfl
  | noDepth hfault => cases hdepth.symm.trans hfault
  | failed hran hlimit =>
    refine iff_of_false (show failed ≠ done by decide) ?_
    rintro (⟨f, hf⟩ | ⟨l, hl⟩)
    · cases hran.symm.trans hf
    · cases hlimit.symm.trans hl

/-! ## The depth -/

theorem shortInt_of_readDepth {words : Words} {d : Int} (h : readDepth words = .ok (some d)) : ShortInt d := by
  unfold readDepth at h
  split at h
  · cases h
  · split at h
    · cases h
    · rename_i n hn
      split at h <;> cases h
      exact shortInt_of_parseInteger? hn

/-- A depth that a line asks for was written with few enough digits. -/
theorem shortInt_of_readCommand {finder : Finder} {topic : Topic} {rest : List Text} {repo : Text} {d : Int}
    (h : readCommand finder topic rest = .ok (.scanHistory repo (some d))) : ShortInt d := by
  unfold readCommand at h
  cases topic with
  | scanHistory =>
    obtain ⟨words, -, h⟩ := exists_of_bind_ok h
    obtain ⟨depth, hdepth, h⟩ := exists_of_bind_ok h
    obtain ⟨-, -, h⟩ := exists_of_bind_ok h
    cases h
    exact shortInt_of_readDepth hdepth
  | validate | generateExample =>
    obtain ⟨words, -, h⟩ := exists_of_bind_ok h
    obtain ⟨path, -, h⟩ := exists_of_bind_ok h
    obtain ⟨argument, -, h⟩ := exists_of_bind_ok h
    cases h
  | checkSecrets =>
    obtain ⟨words, -, h⟩ := exists_of_bind_ok h
    cases h
  | fix =>
    obtain ⟨words, -, h⟩ := exists_of_bind_ok h
    obtain ⟨argument, -, h⟩ := exists_of_bind_ok h
    cases h
  | hooks =>
    obtain ⟨⟨topic, words⟩, -, h⟩ := exists_of_bind_ok h
    obtain ⟨command, -, h⟩ := exists_of_bind_ok h
    cases h
  | config =>
    obtain ⟨⟨topic, words⟩, -, h⟩ := exists_of_bind_ok h
    unfold readConfigCommand at h
    obtain ⟨read, -, h⟩ := exists_of_bind_ok h
    cases topic with
    | showAll =>
      obtain ⟨-, -, h⟩ := exists_of_bind_ok h
      cases h
    | set =>
      dsimp only at h
      split at h <;> cases h

/-! ## The line -/

/-- The limit that lines have set last, or the default. -/
def limitSet (sets : Overrides) : Option Int :=
  match overrideOf sets .maxHistoryBytes with
  | some t => parseInteger? 10 t
  | none => some (20 * 1024 * 1024)

theorem SavedBy.exists_limit {sets : Overrides} {s : Settings} (h : SavedBy sets s) :
    ∃ m, limitSet sets = some m ∧ s.maxHistoryBytes = .int m := by
  unfold limitSet
  cases hset : overrideOf sets .maxHistoryBytes with
  | none => exact ⟨_, rfl, h.unset .maxHistoryBytes hset⟩
  | some t =>
    obtain ⟨-, m, hparse, hm⟩ | ⟨htext, -⟩ := cases_of_coerceText (h.set .maxHistoryBytes t hset)
    · exact ⟨m, hparse, hm⟩
    · cases htext

/-- **Where lines have set the settings**, a scan of the history is done exactly if git cannot be started, or the limit
is minus one or a count that memory can be had for, whatever git prints and however it ends. -/
theorem scanHistory_done_iff {w : World} {sets : Overrides} (hsets : w.SetBy sets)
    (hlevel : overrideOf sets .logLevel = none) (hfresh : w.settings.loaded = none) (hover : w.NotOverridden)
    {words : List Text} {repo : Text} {depth : Option Int} (hasks : w.Asks words none (.scanHistory repo depth)) :
    ∃ m, limitSet sets = some m ∧ (exitStatus (outcome (runLine words) w).1 = done ↔
      (∃ f, w.git = .notStarted f) ∨ m = -1 ∨ 0 ≤ m ∧ m < (w.host.memory : Int)) := by
  obtain ⟨s, hs, hplain, hsaved⟩ := hsets.exists_saved
  obtain ⟨m, hm, hlimit⟩ := hsaved.exists_limit
  have hforce : w.settingsInForce = .ok s := by
    unfold World.settingsInForce
    rw [hfresh]
    dsimp only
    rw [hover.settingsIn_eq, hs]
    rfl
  have hready : (w.prepared none).result = .ok ⟨⟩ := prepared_result_of_level hforce (hsaved.unset .logLevel hlevel)
    (show namedLevel (some usualLevel) = .level .warning by decide)
  have hdepth : ((depth.map Value.int).getD s.historyDepth).shownFault? w.host.shownLevels = none := by
    obtain ⟨topic, rest, -, hcommand⟩ := hasks
    cases depth with
    | none => exact Value.shownFault?_of_isJson _ (hplain _ .historyDepth).isJson
    | some d => exact Value.shownFault?_of_isJson (.int d) (shortInt_of_readCommand hcommand)
  obtain ⟨es, -, hline⟩ := exists_outcome_runLine hasks
  have hloaded : (w.behind (w.prepared none) es).settings.loaded = some s := by
    have hkept := loaded_prepared w
    rwa [hforce] at hkept
  refine ⟨m, hm, ?_⟩
  rw [hline, hready]
  refine (runScanHistory_done_iff hloaded repo depth hdepth).trans ?_
  rw [hlimit, exists_limitOf_int_iff]
  rfl

def limitWords (t : Text) : List Text := ["config".toList, "set".toList, Field.maxHistoryBytes.name, t]

/-- A world with this limit in the user's file, and with a git that does this. -/
def limitWorld (n : Int) (git : GitOutcome) : World :=
  { userFileWorld (encode (settingsJson (Settings.usual.set .maxHistoryBytes (.int n)))) with git := git }

theorem setBy_limitWorld {t : Text} {n : Int}
    (hasks : (World.bare (.notStarted .missing)).Asks (limitWords t) none (.setSetting Field.maxHistoryBytes.name t))
    (hline : exitStatus (outcome (runLine (limitWords t)) (.bare (.notStarted .missing))).1 = done ∧
      (outcome (runLine (limitWords t)) (.bare (.notStarted .missing))).2.userBytes? =
        some (encode (settingsJson (Settings.usual.set .maxHistoryBytes (.int n))))) (git : GitOutcome) :
    (limitWorld n git).SetBy [(.maxHistoryBytes, t)] := by
  obtain ⟨hdone, hbytes⟩ := hline
  exact .line (.absent rfl) hasks hdone hbytes.symm

theorem notOverridden_limitWorld (n : Int) (git : GitOutcome) : (limitWorld n git).NotOverridden := ⟨rfl, fun _ => rfl⟩

/-- A limit of a few bytes, and a git that prints more and fails. -/
def fewBytesWorld : World := limitWorld 3 (.ran (encode "fatal".toList) [] 128)

theorem scanHistory_done_iff_fewBytesWorld : fewBytesWorld.SetBy [(.maxHistoryBytes, ['3'])] ∧
    exitStatus (outcome (runLine ["scan-history".toList]) fewBytesWorld).1 = done := by
  have hsets : fewBytesWorld.SetBy [(.maxHistoryBytes, ['3'])] :=
    setBy_limitWorld ⟨.config, _, rfl, rfl⟩ (by decide +kernel) _
  have hasks : fewBytesWorld.Asks ["scan-history".toList] none (.scanHistory ['.'] none) := ⟨.scanHistory, _, rfl, rfl⟩
  obtain ⟨m, hm, hdone⟩ := scanHistory_done_iff hsets rfl rfl (notOverridden_limitWorld _ _) hasks
  obtain rfl : 3 = m := Option.some.inj hm
  exact ⟨hsets, hdone.2 (.inr (.inr (by decide)))⟩

/-- **A limit that no read can have** is set by a line that is done, and halts the scan once git runs. -/
theorem not_scanHistory_done : ¬ ∀ (w : World) (sets : Overrides) (words : List Text) (repo : Text)
    (depth : Option Int), w.SetBy sets → (∀ o ∈ sets, o.1 = .historyDepth ∨ o.1 = .maxHistoryBytes) →
      w.settings.loaded = none → w.NotOverridden → w.Asks words none (.scanHistory repo depth) →
      exitStatus (outcome (runLine words) w).1 = done := by
  intro hdone
  have hsets : (limitWorld (10 ^ 19) (.ran [] [] 0)).SetBy [(.maxHistoryBytes, "10000000000000000000".toList)] :=
    setBy_limitWorld ⟨.config, _, rfl, rfl⟩ (by decide +kernel) _
  have hscan := hdone _ _ ["scan-history".toList] _ _ hsets (by simp) rfl (notOverridden_limitWorld _ _)
    ⟨.scanHistory, _, rfl, rfl⟩
  exact absurd hscan (by decide +kernel)

end EnvAudit

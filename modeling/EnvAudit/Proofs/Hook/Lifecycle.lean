import EnvAudit.Proofs.Command.Line
import EnvAudit.Proofs.Hook.Commands
/-!
# The life of a hook

A hook is looked after by command lines that are run one after the other on the same files.  No order of lines without
force and without consent changes a file that does not hold the marker (`filesAfter_keeps`).  What an install leaves is
the script, executable, and is recognized by what is run next: a status leaves it alone, and an uninstall takes it away
and nothing else (`hookLifecycle`).
-/
namespace EnvAudit

open Session

/-! ## Runs -/

/-- A command line, in a world that is given but for its files. -/
structure HookRun where
  words : List Text
  around : World

namespace HookRun

def world (u : HookRun) (t : FileTree) : World := { u.around with tree := t }

/-- How a run on some files ends, and the world it leaves. -/
def ends (u : HookRun) (t : FileTree) : Except Halt Status × World := outcome (runLine u.words) (u.world t)

def after (u : HookRun) (t : FileTree) : FileTree := (u.ends t).2.tree

/-- A line of the hook commands without force, in a world where no question is answered by yes. -/
structure IsCautious (u : HookRun) : Prop where
  unforced : ∃ level rest, readLineHead u.words = .ok ⟨level, .hooks, rest⟩ ∧
    ∀ finder path, readCommand finder .hooks rest ≠ .ok (.hooks (.install path true))
  noConsent : u.around.input.findSome? answerOf ≠ some true

/-- With the usual settings, the run asks for a command on a repository. -/
structure Asks (u : HookRun) (t : FileTree) (c : Text → HookCommand) (repo : Place) : Prop where
  fresh : u.around.settings.loaded = none
  usual : (u.world t).settingsIn Field.all = .ok .usual
  asked : ∃ path, (u.world t).Asks u.words none (.hooks (c path)) ∧ (u.world t).Names path repo

end HookRun

/-- The files behind some runs, one after the other. -/
def filesAfter (t : FileTree) (us : List HookRun) : FileTree := us.foldl (fun t u => u.after t) t

/-! ## Cautious runs -/

/-- A path that is no path is refused before anything is done. -/
theorem names_or_refused (w : World) (path : Text) :
    (∃ repo, w.Names path repo) ∨ ∀ next, (outcome (withGitDirectory path next) w).2 = w := by
  cases hnul : (Path.ofText path).text.contains '\x00' with
  | false => exact Or.inl ⟨_, hnul, rfl⟩
  | true =>
    refine Or.inr fun next => ?_
    unfold withGitDirectory
    rw [outcome_bind_of_error (outcome_resolve_of_nul hnul w)]

theorem hookChange_runHooks {w : World} {c : HookCommand} (hunforced : ∀ path, c ≠ .install path true)
    (hno : w.input.findSome? answerOf ≠ some true) : HookChange w.tree (outcome (runHooks c) w).2.tree := by
  cases c with
  | install path force =>
    cases force with
    | true => exact absurd rfl (hunforced path)
    | false =>
      rcases names_or_refused w path with ⟨repo, hnames⟩ | hrefused
      · exact (installEnds hnames false).hookChange
      · unfold runHooks installHook
        rw [hrefused]
        exact .refl _
  | uninstall path =>
    rcases names_or_refused w path with ⟨repo, hnames⟩ | hrefused
    · exact hookChange_uninstallHook hnames hno
    · unfold runHooks uninstallHook
      rw [hrefused]
      exact .refl _
  | status path =>
    rcases names_or_refused w path with ⟨repo, hnames⟩ | hrefused
    · exact hookChange_hookStatus hnames
    · unfold runHooks hookStatus
      rw [hrefused]
      exact .refl _
  | protect path verbose =>
    unfold runHooks
    rw [leavesFiles_protect path verbose w]
    exact .refl _

/-- The words behind the name of the hook commands ask for one of them. -/
theorem exists_hooks_of_readCommand {finder : Finder} {rest : List Text} {c : Command}
    (h : readCommand finder .hooks rest = .ok c) : ∃ hook, c = .hooks hook := by
  obtain ⟨group, -, h⟩ := exists_of_bind_ok h
  obtain ⟨hook, -, h⟩ := exists_of_bind_ok h
  exact ⟨hook, (Except.ok.inj h).symm⟩

/-- **A cautious run** does no more to the files than one of the hook commands. -/
theorem HookRun.IsCautious.hookChange {u : HookRun} (hu : u.IsCautious) (t : FileTree) : HookChange t (u.after t) := by
  obtain ⟨level, rest, hhead, hunforced⟩ := hu.unforced
  unfold HookRun.after HookRun.ends
  cases hcommand : readCommand (finderOf (u.world t)) .hooks rest with
  | error s =>
    rw [tree_runLine_of_stop hhead hcommand]
    exact .refl t
  | ok c =>
    obtain ⟨hook, rfl⟩ := exists_hooks_of_readCommand hcommand
    obtain ⟨es, -, hline⟩ := exists_outcome_runLine (w := u.world t) ⟨.hooks, rest, hhead, hcommand⟩
    rw [hline]
    have hquiet : ∀ path, hook ≠ .install path true := fun path heq => hunforced _ path (heq ▸ hcommand)
    cases ((u.world t).prepared level).result with
    | error h => exact .refl t
    | ok _ =>
      have hno : ((u.world t).behind ((u.world t).prepared level) es).input.findSome? answerOf ≠ some true :=
        hu.noConsent
      exact hookChange_runHooks hquiet hno

/-- **Through all cautious runs** a file without the marker keeps content and mode. -/
theorem filesAfter_keeps {place : Place} {content : Bytes} {executable : Bool} {us : List HookRun} {t : FileTree}
    (hforeign : ¬ encode hookMarker <:+: content) (hus : ∀ u ∈ us, u.IsCautious)
    (hfile : t.entry? place = some (.file content executable)) :
    FileTree.entry? (filesAfter t us) place = some (.file content executable) := by
  induction us generalizing t with
  | nil => exact hfile
  | cons u us ih =>
    have hkept := ((hus u List.mem_cons_self).hookChange t).keeps hforeign hfile
    exact ih (fun v hv => hus v (List.mem_cons_of_mem u hv)) hkept

/-! ## From an install on -/

section Asked

variable {u : HookRun} {t : FileTree} {repo : Place}

/-- A run that asks for a command is a run of it, on the same files and with the same input. -/
theorem HookRun.Asks.exists_ends {c : Text → HookCommand} (h : u.Asks t c repo) : ∃ (path : Text) (w : World),
    w.Names path repo ∧ w.tree = t ∧ w.input = u.around.input ∧ w.outText = u.around.outText ∧
      u.ends t = outcome (runHooks (c path)) w := by
  obtain ⟨path, hasks, hnames⟩ := h.asked
  obtain ⟨es, logger, store, hquiet, hline⟩ := exists_outcome_runLine_of_usual (w := u.world t) h.fresh h.usual hasks
  refine ⟨path, { u.world t with events := es ++ u.around.events, logger := logger, settings := store }, hnames, rfl,
    rfl, ?_, hline⟩
  change { u.around with events := es ++ u.around.events }.outText = _
  rw [World.outText_events, flatMap_shown_of_quiet hquiet, List.append_nil]

/-- What an install that is done leaves: the script, and every other file as it was. -/
theorem HookRun.Asks.holdsHook_after {force : Bool} (h : u.Asks t (.install · force) repo)
    (hdone : (u.ends t).1 = .ok done) : (u.after t).HoldsHook repo (encode hookScript) true ∧
      ∃ t', t.Readied t' ∧ u.after t = t'.put (hookPlace repo) (.file (encode hookScript) true) := by
  obtain ⟨path, w, hnames, rfl, -, -, hends⟩ := h.exists_ends
  have hinstall := installEnds hnames force
  unfold HookRun.after
  rw [hends] at hdone ⊢
  change (outcome (installHook path force) w).1 = .ok done at hdone
  change (outcome (installHook path force) w).2.tree.HoldsHook repo _ _ ∧
    ∃ t', w.tree.Readied t' ∧ (outcome (installHook path force) w).2.tree = _
  generalize (outcome (installHook path force) w).1 = result at hinstall hdone
  generalize (outcome (installHook path force) w).2.tree = t at hinstall ⊢
  cases hinstall with
  | stopped hr h => exact absurd hdone hr
  | @installed t' e hready hlocate hplace hfree =>
    have hentry : t'.entry? (hookPlace repo) ≠ some .directory := by
      rwa [FileTree.entry?_of_walk (FileTree.walk_of_locate hlocate)]
    have hput := FileTree.locate_put (.file (encode hookScript) true) hentry hlocate
    rw [if_pos rfl] at hput
    exact ⟨hput, t', hready, rfl⟩

section Own

variable {content : Bytes} {executable : Bool} (hthere : t.HoldsHook repo content executable) (hown : IsOwn content)

include hthere hown

theorem HookRun.Asks.status_ends (h : u.Asks t .status repo) : (u.ends t).1 = .ok done ∧
    u.after t = (if executable then t else t.put (hookPlace repo) (.file content true)) ∧
    (u.ends t).2.outText = u.around.outText ++ shownLine ownHookLine ++
      (if executable then [] else shownLine repairLine) := by
  obtain ⟨path, w, hnames, rfl, -, hout, hends⟩ := h.exists_ends
  have hstatus : outcome (runHooks (.status path)) w = _ := outcome_hookStatus_of_own hnames hthere hown
  unfold HookRun.after
  rw [hends, hstatus, ← hout]
  cases executable with
  | true =>
    refine ⟨rfl, rfl, ?_⟩
    rw [if_pos rfl, if_pos rfl, List.append_nil]
    exact World.outText_events w [.out (shownLine ownHookLine)]
  | false =>
    refine ⟨rfl, rfl, ?_⟩
    rw [if_neg Bool.false_ne_true, if_neg Bool.false_ne_true, List.append_assoc]
    exact World.outText_events w [.out (shownLine repairLine), .out (shownLine ownHookLine)]

theorem HookRun.Asks.uninstall_ends (h : u.Asks t .uninstall repo) : (u.ends t).1 = .ok done ∧
    u.after t = t.erase (hookPlace repo) ∧ (u.ends t).2.input = u.around.input ∧
    (u.ends t).2.outText = u.around.outText ++ shownLine uninstalledLine := by
  obtain ⟨path, w, hnames, rfl, hinput, hout, hends⟩ := h.exists_ends
  have huninstall : outcome (runHooks (.uninstall path)) w = _ := outcome_uninstallHook_of_own hnames hthere hown
  unfold HookRun.after
  rw [hends, huninstall, ← hout, ← hinput]
  exact ⟨rfl, rfl, rfl, World.outText_events w [.out (shownLine uninstalledLine)]⟩

end Own

end Asked

/-- What the command lines do with the hook of a repository. -/
structure HookLifecycle (repo : Place) : Prop where
  /-- Whatever the order of cautious runs, a file without the marker keeps content and mode. -/
  kept (t : FileTree) (us : List HookRun) (hus : ∀ u ∈ us, u.IsCautious) (place : Place) (content : Bytes)
    (executable : Bool) (hforeign : ¬ encode hookMarker <:+: content)
    (hfile : t.entry? place = some (.file content executable)) :
    FileTree.entry? (filesAfter t us) place = some (.file content executable)
  /-- An install that is done, by force or not, leaves the script, executable. -/
  installed (t : FileTree) (u : HookRun) (force : Bool) (hinstall : u.Asks t (.install · force) repo)
    (hdone : (u.ends t).1 = .ok done) : (u.after t).HoldsHook repo (encode hookScript) true
  /-- A status behind it knows the hook and changes nothing. -/
  reported (t : FileTree) (u v : HookRun) (force : Bool) (hinstall : u.Asks t (.install · force) repo)
    (hdone : (u.ends t).1 = .ok done) (hstatus : v.Asks (u.after t) .status repo) :
    (v.ends (u.after t)).1 = .ok done ∧ v.after (u.after t) = u.after t ∧
      (v.ends (u.after t)).2.outText = v.around.outText ++ shownLine ownHookLine
  /-- An uninstall behind it takes the hook away without a question, and leaves every other file as it was. -/
  removed (t : FileTree) (u v : HookRun) (force : Bool) (hinstall : u.Asks t (.install · force) repo)
    (hdone : (u.ends t).1 = .ok done) (huninstall : v.Asks (u.after t) .uninstall repo) :
    (v.ends (u.after t)).1 = .ok done ∧ (v.ends (u.after t)).2.input = v.around.input ∧
      (v.ends (u.after t)).2.outText = v.around.outText ++ shownLine uninstalledLine ∧
      FileTree.entry? (v.after (u.after t)) (hookPlace repo) = none ∧
      ∀ place, place ≠ hookPlace repo → ∀ content executable,
        FileTree.entry? (v.after (u.after t)) place = some (.file content executable) ↔
          t.entry? place = some (.file content executable)
  /-- Behind a status every hook with the marker is executable, and nothing else has changed. -/
  repaired (t : FileTree) (v : HookRun) (hstatus : v.Asks t .status repo) (script : Text) (executable : Bool)
    (hthere : t.HoldsHook repo (encode script) executable) (hmarker : hookMarker <:+: script) :
    (v.ends t).1 = .ok done ∧ (v.after t).HoldsHook repo (encode script) true ∧
      ∀ place, place ≠ hookPlace repo → FileTree.entry? (v.after t) place = t.entry? place

/-- **The life of a hook**: nobody else's is touched, and what an install leaves is known and can be taken away. -/
theorem hookLifecycle (repo : Place) : HookLifecycle repo := by
  constructor
  case kept => exact fun t us hus place content executable hforeign hfile => filesAfter_keeps hforeign hus hfile
  case installed => exact fun t u force hinstall hdone => (hinstall.holdsHook_after hdone).1
  case reported =>
    intro t u v force hinstall hdone hstatus
    have hthere := (hinstall.holdsHook_after hdone).1
    obtain ⟨hends, hfiles, hshown⟩ := hstatus.status_ends hthere isOwn_hookScript
    rw [if_pos rfl] at hfiles hshown
    exact ⟨hends, hfiles, hshown.trans (List.append_nil _)⟩
  case removed =>
    intro t u v force hinstall hdone huninstall
    obtain ⟨hthere, t', hready, hfiles⟩ := hinstall.holdsHook_after hdone
    obtain ⟨hends, herased, hinput, hshown⟩ := huninstall.uninstall_ends hthere isOwn_hookScript
    have hgone := (u.after t).entry?_erase (hookPlace_ne_nil repo)
    rw [herased]
    refine ⟨hends, hinput, hshown, (hgone _).trans (if_pos rfl), fun place hplace content executable => ?_⟩
    rw [hgone, if_neg hplace, hfiles, FileTree.entry?_put, if_neg hplace, hready.entry?_file_iff]
  case repaired =>
    intro t v hstatus script executable hthere hmarker
    have hown : IsOwn (encode script) := ⟨script, decodeStrict_encode script, hmarker⟩
    obtain ⟨hends, hfiles, -⟩ := hstatus.status_ends hthere hown
    rw [hfiles]
    cases executable with
    | true => exact ⟨hends, hthere, fun _ _ => rfl⟩
    | false => exact ⟨hends, hthere.put _ true, fun place hplace => (t.entry?_put ..).trans (if_neg hplace)⟩

/-- A repository at the root with nothing in it but its git directory. -/
def freshRepository : FileTree := ⟨[([gitDirectoryName], .directory)]⟩

/-- A hook command without options, run at the root. -/
def plainHookRun (topic : HookTopic) : HookRun := ⟨["hooks".toList, topic.name], World.bare (.notStarted .missing)⟩

theorem asks_install_freshRepository : (plainHookRun .install).Asks freshRepository (.install · false) [] :=
  ⟨rfl, rfl, ['.'], ⟨.hooks, ["install".toList], rfl, rfl⟩, by decide, rfl⟩

theorem ends_install_freshRepository : ((plainHookRun .install).ends freshRepository).1 = .ok done := rfl

theorem asks_uninstall_freshRepository :
    (plainHookRun .uninstall).Asks ((plainHookRun .install).after freshRepository) .uninstall [] :=
  ⟨rfl, rfl, ['.'], ⟨.hooks, ["uninstall".toList], rfl, rfl⟩, by decide, rfl⟩

theorem hookLifecycle_freshRepository :
    ((plainHookRun .install).after freshRepository).HoldsHook [] (encode hookScript) true ∧
      FileTree.entry? ((plainHookRun .uninstall).after ((plainHookRun .install).after freshRepository)) (hookPlace []) = none :=
  ⟨(hookLifecycle []).installed freshRepository _ false asks_install_freshRepository ends_install_freshRepository,
    ((hookLifecycle []).removed freshRepository _ _ false asks_install_freshRepository ends_install_freshRepository
      asks_uninstall_freshRepository).2.2.2.1⟩

end EnvAudit

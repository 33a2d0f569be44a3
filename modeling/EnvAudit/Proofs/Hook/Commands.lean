import EnvAudit.Hook.Protect
import EnvAudit.Proofs.Command.Output
import EnvAudit.Proofs.EnvFile.Files
import EnvAudit.Proofs.Hook.Script
/-!
# What the hook commands do to the files

Installing writes the script over nothing or by force (`installEnds`).  A hook of this tool is made executable when it is
inspected and is removed without a question (`outcome_hookStatus_of_own`, `outcome_uninstallHook_of_own`).  Without force
and without consent a command does no more than that, wherever it is run (`HookChange`), so it changes no file that does
not hold the marker (`HookChange.keeps`).
-/
namespace EnvAudit

open Session

/-! ## Changes -/

/-- A directory may have been made where nothing was. -/
def FileTree.Readied (t t' : FileTree) : Prop :=
  t' = t ∨ ∃ place, t.entry? place = none ∧ t' = t.put place .directory

theorem FileTree.Readied.entry?_file_iff {t t' : FileTree} (h : t.Readied t') {place : Place} {content : Bytes}
    {executable : Bool} :
    t'.entry? place = some (.file content executable) ↔ t.entry? place = some (.file content executable) := by
  rcases h with rfl | ⟨q, hnone, rfl⟩
  · exact Iff.rfl
  · rw [FileTree.entry?_put]
    by_cases hq : place = q
    · rw [if_pos hq, hq, hnone]
      exact iff_of_false nofun nofun
    · rw [if_neg hq]

theorem FileTree.Readied.entry?_of_some {t t' : FileTree} (h : t.Readied t') {place : Place} {e : Entry}
    (he : t.entry? place = some e) : t'.entry? place = some e := by
  rcases h with rfl | ⟨q, hnone, rfl⟩
  · exact he
  · rw [FileTree.entry?_put, if_neg, he]
    rintro rfl
    rw [hnone] at he
    cases he

/-- What a hook command does to the files without force and without consent. -/
inductive HookChange (t : FileTree) : FileTree → Prop
  | readied {t' : FileTree} (h : t.Readied t') : HookChange t t'
  | installed {t' : FileTree} (h : t.Readied t') {place : Place} (hnone : t'.entry? place = none) :
      HookChange t (t'.put place (.file (encode hookScript) true))
  | removed {place : Place} {content : Bytes} {executable : Bool} (hplace : place ≠ [])
      (h : t.entry? place = some (.file content executable)) (hown : IsOwn content) : HookChange t (t.erase place)
  | madeExecutable {place : Place} {content : Bytes} {executable : Bool}
      (h : t.entry? place = some (.file content executable)) (hown : IsOwn content) :
      HookChange t (t.put place (.file content true))

theorem HookChange.refl (t : FileTree) : HookChange t t := .readied (Or.inl rfl)

/-- **A file without the marker** keeps content and mode, wherever it is. -/
theorem HookChange.keeps {t t' : FileTree} (h : HookChange t t') {place : Place} {content : Bytes} {executable : Bool}
    (hforeign : ¬ encode hookMarker <:+: content) (hfile : t.entry? place = some (.file content executable)) :
    t'.entry? place = some (.file content executable) := by
  -- a place that is changed holds the marker, or nothing
  have helse : ∀ {q : Place} {c : Bytes} {x : Bool}, t.entry? q = some (.file c x) → IsOwn c → place ≠ q := by
    rintro q c x hq hown rfl
    rw [hfile] at hq
    cases hq
    exact hforeign hown.marker
  cases h with
  | readied h => exact h.entry?_of_some hfile
  | @installed u h q hnone =>
    have hkept := h.entry?_of_some hfile
    have hne : place ≠ q := by
      rintro rfl
      rw [hnone] at hkept
      cases hkept
    rw [FileTree.entry?_put, if_neg hne, hkept]
  | removed hplace h hown => rw [FileTree.entry?_erase t hplace, if_neg (helse h hown), hfile]
  | madeExecutable h hown => rw [FileTree.entry?_put, if_neg (helse h hown), hfile]

/-! ## Installing -/

/-- How installing ends: it is stopped, with no more than a directory made, or the script is at its place, over nothing
or by force. -/
inductive InstallEnds (repo : Place) (force : Bool) (t : FileTree) : Except Halt Status → FileTree → Prop
  | stopped {r : Except Halt Status} {t' : FileTree} (hr : r ≠ .ok done) (h : t.Readied t') :
      InstallEnds repo force t r t'
  | installed {t' : FileTree} {e : Option Entry} (h : t.Readied t')
      (hlocate : t'.locate [] (hookPath repo) = .ok (hookPlace repo, e)) (hplace : e ≠ some .directory)
      (hfree : force = true ∨ e = none) :
      InstallEnds repo force t (.ok done) (t'.put (hookPlace repo) (.file (encode hookScript) true))

section Commands

variable {w : World} {path : Text} {repo : Place}

theorem outcome_withGitDirectory_of_exists (hnames : w.Names path repo)
    (hthere : w.tree.exists? w.cwd (gitDirectory repo) = .ok true) (next : Path → Session Status) :
    outcome (withGitDirectory path next) w = outcome (next (gitDirectory repo)) w := by
  have hasked : outcome (exists? (gitDirectory repo)) w = (.ok true, w) := outcome_exists?_of_ok hthere
  unfold withGitDirectory
  rw [outcome_bind_of_ok hnames.outcome_resolve]
  exact outcome_bind_of_ok hasked _

/-- A repository without a git directory is complained about. -/
theorem withGitDirectory_cases (hnames : w.Names path repo) (next : Path → Session Status) :
    (∃ r es, r ≠ .ok done ∧ outcome (withGitDirectory path next) w = (r, { w with events := es ++ w.events })) ∨
      outcome (withGitDirectory path next) w = outcome (next (gitDirectory repo)) w := by
  cases hthere : w.tree.exists? w.cwd (gitDirectory repo) with
  | error f =>
    have hasked : outcome (exists? (gitDirectory repo)) w = (.error (.failure f), w) := outcome_exists?_of_error hthere
    refine Or.inl ⟨.error (.failure f), [], nofun, ?_⟩
    unfold withGitDirectory
    rw [outcome_bind_of_ok hnames.outcome_resolve]
    exact outcome_bind_of_error hasked _
  | ok there =>
    cases there with
    | true => exact Or.inr (outcome_withGitDirectory_of_exists hnames hthere next)
    | false =>
      have hasked : outcome (exists? (gitDirectory repo)) w = (.ok false, w) := outcome_exists?_of_ok hthere
      let message := "❌ Error: ".toList ++ (Path.ofPlace repo).text ++ " is not a git repository".toList
      refine Or.inl ⟨.ok failed, [.out (shownLine message)], by decide, ?_⟩
      unfold withGitDirectory
      rw [outcome_bind_of_ok hnames.outcome_resolve]
      exact outcome_bind_of_ok hasked _

theorem readied_of_makeDirectory {t t' : FileTree} {cwd : Place} {p : Path} (h : t.makeDirectory cwd p = .ok t') :
    t.Readied t' :=
  (FileTree.makeDirectory_eq_ok h).imp_right fun h => ⟨_, h⟩

/-- Behind the directory, the script is written over nothing or by force. -/
theorem installEnds_of_readied {t : FileTree} (hready : t.Readied w.tree) (force : Bool) {blocked said : Session Status}
    (hblocked : ∀ v, (outcome blocked v).1 = .ok failed ∧ (outcome blocked v).2.tree = v.tree)
    (hsaid : ∀ v, (outcome said v).1 = .ok done ∧ (outcome said v).2.tree = v.tree) :
    let ends := outcome (do
      if (← exists? (hookPath repo)) && !force then blocked
      else
        writeFile (hookPath repo) (encode hookScript)
        makeExecutable (hookPath repo)
        said) w
    InstallEnds repo force t ends.1 ends.2.tree := by
  intro ends
  subst ends
  cases hthere : w.tree.exists? w.cwd (hookPath repo) with
  | error f =>
    have hasked : outcome (exists? (hookPath repo)) w = (.error (.failure f), w) := outcome_exists?_of_error hthere
    rw [outcome_bind_of_error hasked]
    exact .stopped nofun hready
  | ok there =>
    have hasked : outcome (exists? (hookPath repo)) w = (.ok there, w) := outcome_exists?_of_ok hthere
    rw [outcome_bind_of_ok hasked]
    by_cases hkept : (there && !force) = true
    · rw [if_pos hkept, (hblocked w).1, (hblocked w).2]
      exact .stopped (by decide : (Except.ok failed : Except Halt Status) ≠ .ok done) hready
    rw [if_neg hkept]
    cases hwritten : w.tree.writeFile w.cwd (hookPath repo) (encode hookScript) with
    | error f =>
      have hwrite : outcome (writeFile (hookPath repo) (encode hookScript)) w = (.error (.failure f), w) :=
        outcome_changeTree_of_error hwritten
      rw [outcome_bind_of_error hwrite]
      exact .stopped nofun hready
    | ok t' =>
      have hwrite : outcome (writeFile (hookPath repo) (encode hookScript)) w = (.ok ⟨⟩, { w with tree := t' }) :=
        outcome_changeTree_of_ok hwritten
      obtain ⟨e, hlocate, hplace, hmode⟩ := FileTree.makeExecutable_of_writeFile hwritten
      have hmode : outcome (makeExecutable (hookPath repo)) { w with tree := t' } = (.ok ⟨⟩, _) :=
        outcome_changeTree_of_ok hmode
      rw [outcome_bind_of_ok hwrite, outcome_bind_of_ok hmode, (hsaid _).1, (hsaid _).2]
      refine .installed hready ((FileTree.locate_of_isAbsolute rfl []).symm.trans hlocate) hplace ?_
      cases there with
      | false => exact Or.inr (FileTree.eq_none_of_not_exists hlocate hthere)
      | true => exact Or.inl (by simpa using hkept)

/-- **What installing does**, in every world. -/
theorem installEnds (hnames : w.Names path repo) (force : Bool) : InstallEnds repo force w.tree
    (outcome (installHook path force) w).1 (outcome (installHook path force) w).2.tree := by
  have hkept : w.tree.Readied w.tree := Or.inl rfl
  unfold installHook
  rcases withGitDirectory_cases hnames _ with ⟨r, es, hr, hends⟩ | hends <;> rw [hends]
  · exact .stopped hr hkept
  dsimp only
  cases hmade : w.tree.makeDirectory w.cwd ((gitDirectory repo).child hooksName) with
  | error f =>
    have hmade : outcome (makeDirectory ((gitDirectory repo).child hooksName)) w = (.error (.failure f), w) :=
      outcome_changeTree_of_error hmade
    rw [outcome_bind_of_error hmade]
    exact .stopped nofun hkept
  | ok t =>
    have hready : w.tree.Readied ({ w with tree := t } : World).tree := readied_of_makeDirectory hmade
    have hmade : outcome (makeDirectory ((gitDirectory repo).child hooksName)) w = (.ok ⟨⟩, { w with tree := t }) :=
      outcome_changeTree_of_ok hmade
    rw [outcome_bind_of_ok hmade]
    exact installEnds_of_readied hready force (fun _ => ⟨rfl, rfl⟩) fun _ => ⟨rfl, rfl⟩

/-! ## Inspecting and removing -/

section Own

variable {content : Bytes} {executable : Bool} (hnames : w.Names path repo)
  (hthere : w.tree.HoldsHook repo content executable) (hown : IsOwn content)

include hthere hown

theorem outcome_hookText_of_own : ∃ t, outcome (hookText (hookPath repo)) w = (.ok t, w) ∧ isOwnHook t = true := by
  obtain ⟨t, hreading, hmarker⟩ := hookReading_of_own hown
  exact ⟨t, by rw [outcome_hookText, hthere.readFile, hreading], hmarker⟩

include hnames

def ownHookLine : Text := "✅ Pre-commit hook: INSTALLED (EnvGuard)".toList

def repairLine : Text := "⚠️  Hook is NOT executable - fixing...".toList

def uninstalledLine : Text := "✅ Pre-commit hook uninstalled successfully!".toList

/-- **A hook of this tool** is reported as such, and made executable if it is not. -/
theorem outcome_hookStatus_of_own : outcome (hookStatus path) w = (.ok done,
    if executable then { w with events := .out (shownLine ownHookLine) :: w.events }
    else { w with
      tree := w.tree.put (hookPlace repo) (.file content true),
      events := .out (shownLine repairLine) :: .out (shownLine ownHookLine) :: w.events }) := by
  have hexists : outcome (exists? (hookPath repo)) w = (.ok true, w) := outcome_exists?_of_ok (hthere.exists? w.cwd)
  obtain ⟨t, htext, hmarker⟩ := outcome_hookText_of_own hthere hown
  have hhook : hookOf (gitDirectory repo) = hookPath repo := rfl
  unfold hookStatus
  rw [outcome_withGitDirectory_of_exists hnames (hthere.exists_gitDirectory w.cwd)]
  dsimp only
  have hsaid : outcome (say "✅ Pre-commit hook: INSTALLED (EnvGuard)") w =
      (.ok ⟨⟩, { w with events := .out (shownLine ownHookLine) :: w.events }) := rfl
  rw [hhook, outcome_bind_of_ok hexists, if_neg (by decide), outcome_bind_of_ok htext, hmarker, if_neg (by decide),
    outcome_bind_of_ok hsaid]
  generalize hw' : { w with events := .out (shownLine ownHookLine) :: w.events } = w'
  have hthere : w'.tree.HoldsHook repo content executable := by
    rw [← hw']
    exact hthere
  have hmode : outcome (isExecutable (hookPath repo)) w' = (.ok executable, w') := by
    unfold isExecutable FileTree.isExecutable
    rw [outcome_bind_of_ok (outcome_get w'), hthere.locate]
    rfl
  rw [outcome_bind_of_ok hmode]
  cases executable with
  | true =>
    rw [if_neg (by decide), if_pos rfl]
    rfl
  | false =>
    have hrepair : outcome (makeExecutable (hookPath repo)) { w' with events := .out (shownLine repairLine) :: w'.events } =
        (.ok ⟨⟩, { w' with
          tree := w'.tree.put (hookPlace repo) (.file content true)
          events := .out (shownLine repairLine) :: w'.events }) :=
      outcome_changeTree_of_ok (FileTree.makeExecutable_of_file (hthere.locate w'.cwd))
    have hsaid : outcome (say "⚠️  Hook is NOT executable - fixing...") w' =
        (.ok ⟨⟩, { w' with events := .out (shownLine repairLine) :: w'.events }) := rfl
    rw [if_pos (by decide), if_neg Bool.false_ne_true, outcome_bind_of_ok hsaid, outcome_bind_of_ok hrepair, ← hw']
    rfl

/-- **A hook of this tool** is removed without a question. -/
theorem outcome_uninstallHook_of_own : outcome (uninstallHook path) w = (.ok done, { w with
    tree := w.tree.erase (hookPlace repo), events := .out (shownLine uninstalledLine) :: w.events }) := by
  have hexists : outcome (exists? (hookPath repo)) w = (.ok true, w) := outcome_exists?_of_ok (hthere.exists? w.cwd)
  obtain ⟨t, htext, hmarker⟩ := outcome_hookText_of_own hthere hown
  have hhook : hookOf (gitDirectory repo) = hookPath repo := rfl
  have hremove : outcome (removeFile (hookPath repo)) w = (.ok ⟨⟩, { w with tree := w.tree.erase (hookPlace repo) }) :=
    outcome_changeTree_of_ok (FileTree.removeFile_of_file (hthere.locate w.cwd))
  unfold uninstallHook
  rw [outcome_withGitDirectory_of_exists hnames (hthere.exists_gitDirectory w.cwd)]
  dsimp only
  rw [hhook, outcome_bind_of_ok hexists, if_neg (by decide), outcome_bind_of_ok htext, if_pos hmarker]
  exact outcome_bind_of_ok hremove _

end Own

/-! ## Without force and consent -/

theorem InstallEnds.hookChange {t t' : FileTree} {r : Except Halt Status} (h : InstallEnds repo false t r t') :
    HookChange t t' := by
  cases h with
  | stopped hr h => exact .readied h
  | installed h hlocate hplace hfree =>
    obtain rfl := hfree.resolve_left Bool.false_ne_true
    exact .installed h (FileTree.entry?_of_walk (FileTree.walk_of_locate hlocate))

/-- What a command finds when it looks for a hook. -/
inductive HookFound (w : World) (repo : Place) : Prop
  | refused (h : Halt) (hexists : outcome (exists? (hookPath repo)) w = (.error h, w))
  | missing (hexists : outcome (exists? (hookPath repo)) w = (.ok false, w))
  | unreadable (h : Halt) (hexists : outcome (exists? (hookPath repo)) w = (.ok true, w))
      (htext : outcome (hookText (hookPath repo)) w = (.error h, w))
  | foreign (t : Text) (hexists : outcome (exists? (hookPath repo)) w = (.ok true, w))
      (htext : outcome (hookText (hookPath repo)) w = (.ok t, w)) (hforeign : isOwnHook t = false)
  | own (content : Bytes) (executable : Bool) (hthere : w.tree.HoldsHook repo content executable) (hown : IsOwn content)

theorem holdsHook_of_readFile {t : FileTree} {cwd : Place} {content : Bytes}
    (h : t.readFile cwd (hookPath repo) = .ok content) : ∃ executable, t.HoldsHook repo content executable := by
  obtain ⟨place, executable, hlocate⟩ := FileTree.exists_file_of_readFile h
  obtain rfl := FileTree.target_of_locate hlocate
  exact ⟨executable, (FileTree.locate_of_isAbsolute rfl cwd).trans hlocate⟩

theorem hookFound (w : World) (repo : Place) : HookFound w repo := by
  cases hthere : w.tree.exists? w.cwd (hookPath repo) with
  | error f => exact .refused _ (outcome_exists?_of_error hthere)
  | ok there =>
    have hexists : outcome (exists? (hookPath repo)) w = (.ok there, w) := outcome_exists?_of_ok hthere
    cases there with
    | false => exact .missing hexists
    | true =>
      have htext := outcome_hookText (hookPath repo) w
      cases hreading : hookReading (w.tree.readFile w.cwd (hookPath repo)) with
      | error h => exact .unreadable h hexists (hreading ▸ htext)
      | ok t =>
        cases hmarker : isOwnHook t with
        | false => exact .foreign t hexists (hreading ▸ htext) hmarker
        | true =>
          obtain ⟨content, hread, hown⟩ := own_of_hookReading hreading hmarker
          obtain ⟨executable, hfile⟩ := holdsHook_of_readFile hread
          exact .own content executable hfile hown

theorem hookChange_withGitDirectory (hnames : w.Names path repo) {next : Path → Session Status}
    (h : HookChange w.tree (outcome (next (gitDirectory repo)) w).2.tree) :
    HookChange w.tree (outcome (withGitDirectory path next) w).2.tree := by
  rcases withGitDirectory_cases hnames next with ⟨r, es, -, hends⟩ | hends <;> rw [hends]
  · exact .refl _
  · exact h

/-- Looking for a hook changes nothing, so what a command does without a hook of this tool is what it does for none and
for a foreign one. -/
theorem hookChange_of_noOwn (hnone : ¬ ∃ content executable, w.tree.HoldsHook repo content executable ∧ IsOwn content)
    {missing : Session Status} {next : Text → Session Status} (hmissing : LeavesFiles missing)
    (hforeign : ∀ t, isOwnHook t = false → HookChange w.tree (outcome (next t) w).2.tree) :
    HookChange w.tree (outcome (do
      if !(← exists? (hookPath repo)) then missing else next (← hookText (hookPath repo))) w).2.tree := by
  cases hookFound w repo with
  | refused h hexists =>
    rw [outcome_bind_of_error hexists]
    exact .refl _
  | missing hexists =>
    rw [outcome_bind_of_ok hexists, if_pos (by decide), hmissing w]
    exact .refl _
  | unreadable h hexists htext =>
    rw [outcome_bind_of_ok hexists, if_neg (by decide), outcome_bind_of_error htext]
    exact .refl _
  | foreign t hexists htext hmarker =>
    rw [outcome_bind_of_ok hexists, if_neg (by decide), outcome_bind_of_ok htext]
    exact hforeign t hmarker
  | own content executable hthere hown => exact absurd ⟨content, executable, hthere, hown⟩ hnone

theorem hookChange_hookStatus (hnames : w.Names path repo) :
    HookChange w.tree (outcome (hookStatus path) w).2.tree := by
  by_cases howned : ∃ content executable, w.tree.HoldsHook repo content executable ∧ IsOwn content
  · obtain ⟨content, executable, hthere, hown⟩ := howned
    rw [outcome_hookStatus_of_own hnames hthere hown]
    cases executable with
    | true => exact .refl _
    | false => exact .madeExecutable hthere.entry? hown
  refine hookChange_withGitDirectory hnames (hookChange_of_noOwn howned (fun _ => rfl) fun t hforeign => ?_)
  rw [hforeign]
  exact .refl _

/-- What a question comes to: the first line that answers it. -/
theorem exists_outcome_askOf (question : Text) : ∀ (ls : List Text) (w : World), ∃ rest es,
    outcome (askOf question ls) w = (.ok (ls.findSome? answerOf), { w with input := rest, events := es ++ w.events })
  | [], w => ⟨w.input, [.inputEnded, .out (question ++ " [y/N]: ".toList)], rfl⟩
  | line :: rest, w => by
    let heard : World := { w with
      input := rest, events := .out (line ++ ['\n']) :: .out (question ++ " [y/N]: ".toList) :: w.events }
    have hheard : ∀ next : Session (Option Bool), outcome (do
        emit (.out (question ++ " [y/N]: ".toList))
        emit (.out (line ++ ['\n']))
        modify fun w => { w with input := rest }
        next) w = outcome next heard := fun _ => rfl
    rw [askOf, hheard, List.findSome?_cons]
    cases answerOf line with
    | some b => exact ⟨rest, [.out (line ++ ['\n']), .out (question ++ " [y/N]: ".toList)], rfl⟩
    | none =>
      obtain ⟨rest', es, hrest⟩ := exists_outcome_askOf question rest
        { heard with events := .out (shownLine "Error: invalid input".toList) :: heard.events }
      have hsaid : outcome (say "Error: invalid input") heard =
          (.ok ⟨⟩, { heard with events := .out (shownLine "Error: invalid input".toList) :: heard.events }) := rfl
      refine ⟨rest', es ++ [.out (shownLine "Error: invalid input".toList), .out (line ++ ['\n']),
        .out (question ++ " [y/N]: ".toList)], ?_⟩
      rw [outcome_bind_of_ok hsaid, hrest, List.append_assoc]
      rfl

theorem exists_outcome_ask (question : String) (w : World) : ∃ rest es,
    outcome (ask question) w = (.ok (w.input.findSome? answerOf), { w with input := rest, events := es ++ w.events }) := by
  unfold ask
  rw [outcome_bind_of_ok (outcome_get w)]
  exact exists_outcome_askOf question.toList w.input w

theorem hookChange_uninstallHook (hnames : w.Names path repo) (hno : w.input.findSome? answerOf ≠ some true) :
    HookChange w.tree (outcome (uninstallHook path) w).2.tree := by
  by_cases howned : ∃ content executable, w.tree.HoldsHook repo content executable ∧ IsOwn content
  · obtain ⟨content, executable, hthere, hown⟩ := howned
    rw [outcome_uninstallHook_of_own hnames hthere hown]
    exact .removed (hookPlace_ne_nil repo) hthere.entry? hown
  refine hookChange_withGitDirectory hnames (hookChange_of_noOwn howned (fun _ => rfl) fun t hforeign => ?_)
  let asked : World := { w with
    events := .out (shownLine "⚠️  The existing pre-commit hook is not an EnvGuard hook.".toList) :: w.events }
  have hsaid : outcome (say "⚠️  The existing pre-commit hook is not an EnvGuard hook.") w = (.ok ⟨⟩, asked) := rfl
  obtain ⟨rest, es, hanswer⟩ := exists_outcome_ask "   Do you still want to remove it?" asked
  rw [hforeign, if_neg Bool.false_ne_true, outcome_bind_of_ok hsaid, outcome_bind_of_ok hanswer]
  rcases hsome : w.input.findSome? answerOf with _ | _ | _
  · exact .refl _
  · exact .refl _
  · exact absurd hsome hno

end Commands

/-! ## The gate -/

theorem leavesFiles_stagedPaths (repo : Path) : LeavesFiles (stagedPaths repo) := by
  refine ((leavesFiles_emit _).bind fun _ => leavesFiles_get.bind fun _ => leavesFiles_pure _).bind fun result => ?_
  cases result with
  | notStarted f => exact leavesFiles_pure _
  | ran output errors status =>
    dsimp only
    cases printedText? output errors with
    | none => exact leavesFiles_throw _
    | some t =>
      dsimp only
      split
      · exact leavesFiles_pure _
      · exact leavesFiles_pure _

theorem leavesFiles_stagedFindings (repo : Path) (path : Text) : LeavesFiles (stagedFindings repo path) := by
  refine (leavesFiles_detectInFile bundledTable _ _).attempt.bind fun found => ?_
  cases found with
  | ok found => exact leavesFiles_pure _
  | error p => exact leavesFiles_pure _

theorem leavesFiles_showStaged (repo : Path) : ∀ paths : List Text, LeavesFiles (showStaged repo paths)
  | [] => leavesFiles_pure _
  | path :: paths =>
    (leavesFiles_stagedFindings repo path).bind fun _ => (leavesFiles_echoAll _).bind fun _ =>
      (leavesFiles_showStaged repo paths).bind fun _ => leavesFiles_pure _

/-- **The gate** changes no file. -/
theorem leavesFiles_protect (path : Text) (verbose : Bool) : LeavesFiles (protect path verbose) := by
  have hend : ∀ (message : String) (status : Status), LeavesFiles (do
      if verbose then say message
      return status) := by
    intro message status
    cases verbose with
    | true => exact (leavesFiles_emit _).bind fun _ => leavesFiles_pure _
    | false => exact leavesFiles_pure _
  refine (leavesFiles_resolve _).bind fun repo => (leavesFiles_stagedPaths repo).bind fun staged => ?_
  cases staged with
  | error reason => exact (leavesFiles_emit _).bind fun _ => leavesFiles_pure _
  | ok paths =>
    dsimp only
    split
    · exact hend _ _
    · refine (leavesFiles_showStaged repo _).bind fun blocked => ?_
      cases blocked with
      | true => exact leavesFiles_pure _
      | false => exact hend _ _

end EnvAudit

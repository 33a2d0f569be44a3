import EnvAudit.Proofs.Command.Line
import EnvAudit.Proofs.EnvFile.Files
/-!
# An example and its source

An example is written beside an env file that nobody wants to lose, to a path that is spelled as anybody likes.  The
guard compares the places that the two paths name, before anything is looked up; what is read and what is written is
found by walking.  The two agree (`FileTree.target_of_walk`), so what the target leads to is never the source, and no
line that asks for an example changes anything else (`generateExample_sparesSource`).
-/
namespace EnvAudit

open Session

/-! ## Paths of a line -/

/-- What a path of a command is: what the line gives for it, or else the setting. -/
inductive ChosenPath : Option Text → Value → Text → Prop
  | given (t : Text) (v : Value) : ChosenPath (some t) v t
  | setting (t : Text) : ChosenPath none (.text t) t

theorem outcome_orSetting_of_chosen {given : Option Text} {v : Value} {t : Text} (h : ChosenPath given v t)
    (w : World) : outcome (orSetting given v) w = (.ok t, w) := by
  cases h with
  | given => rfl
  | setting => rfl

/-- A setting that is no text is refused where it is asked for. -/
theorem chosen_or_refused (given : Option Text) (v : Value) :
    (∃ t, ChosenPath given v t) ∨ ∀ w, outcome (orSetting given v) w = (.error (.failure .wrongType), w) := by
  cases given with
  | some t => exact .inl ⟨t, .given t v⟩
  | none =>
    by_cases htext : ∃ t, v = .text t
    · obtain ⟨t, rfl⟩ := htext
      exact .inl ⟨t, .setting t⟩
    · refine .inr fun w => ?_
      have hrefused : settingPath v = fail .wrongType := settingPath.eq_2 v fun t ht => htext ⟨t, ht⟩
      unfold orSetting
      rw [hrefused]
      rfl

/-- The source and the target of an example, as the line and the settings in force have them. -/
inductive World.ExamplePaths (w : World) (env output : Option Text) : Path → Path → Prop
  | mk {s : Settings} {source target : Text} (hs : w.settingsInForce = .ok s)
      (hsource : ChosenPath env s.defaultEnvFile source) (htarget : ChosenPath output s.exampleOutput target) :
      ExamplePaths w env output (.ofText source) (.ofText target)

theorem World.ExamplePaths.of_settings {w v : World} {env output : Option Text} {source target : Path}
    (h : w.ExamplePaths env output source target) (hv : v.settingsInForce = w.settingsInForce) :
    v.ExamplePaths env output source target := by
  obtain ⟨hs, hsource, htarget⟩ := h
  exact ⟨hv.trans hs, hsource, htarget⟩

/-! ## How generating ends -/

/-- How generating an example ends, and which files it leaves. -/
inductive ExampleEnds (t : FileTree) (cwd : Place) (source target : Path) :
    Except Halt (Option Path) → FileTree → Prop
  | same (h : source.resolveFrom cwd = target.resolveFrom cwd) : ExampleEnds t cwd source target (.ok none) t
  | halted (e : Halt) : ExampleEnds t cwd source target (.error e) t
  | written {content : Bytes} {t' : FileTree} (hdiffer : source.resolveFrom cwd ≠ target.resolveFrom cwd)
      (hread : t.readFile cwd source = .ok content)
      (hwrite : t.writeFile cwd target (encode (exampleText (readEnvFile content) source.name)) = .ok t') :
      ExampleEnds t cwd source target (.ok (some target)) t'

/-- Writing an example is halted, with all files as they were, or has read the source and written the target. -/
theorem writeExample_cases (source target : Path) (w : World) :
    (∃ e w', outcome (writeExample source target) w = (.error e, w') ∧ w'.tree = w.tree) ∨
      ∃ content w', outcome (writeExample source target) w = (.ok ⟨⟩, w') ∧
        w.tree.readFile w.cwd source = .ok content ∧
        w.tree.writeFile w.cwd target (encode (exampleText (readEnvFile content) source.name)) = .ok w'.tree := by
  unfold writeExample
  by_cases hfile : w.tree.isFile w.cwd source = .ok true
  · obtain ⟨content, hcontent⟩ := FileTree.isFile_eq_true_iff.1 hfile
    obtain ⟨es, -, hread⟩ := exists_outcome_readVariables source.text hcontent
    rw [outcome_bind_of_ok hread]
    cases hwrite : w.tree.writeFile w.cwd target (encode (exampleText (readEnvFile content) source.name)) with
    | error f => exact .inl ⟨_, _, outcome_changeTree_of_error hwrite, rfl⟩
    | ok t' => exact .inr ⟨content, _, outcome_changeTree_of_ok hwrite, hcontent, hwrite⟩
  · obtain ⟨e, hread⟩ := exists_outcome_readVariables_of_not_isFile source.text hfile
    exact .inl ⟨e, w, outcome_bind_of_error hread _, rfl⟩

/-- Two paths are compared by the places they name, and only if these differ an example is written. -/
theorem exampleEnds_guarded (source target : Path) (w : World) : ∃ result w',
    outcome (do
      if (← resolve target) = (← resolve source) then return none
      writeExample source target
      return some target) w = (result, w') ∧ ExampleEnds w.tree w.cwd source target result w'.tree := by
  cases htarget : target.text.contains '\x00' with
  | true => exact ⟨_, w, outcome_bind_of_error (outcome_resolve_of_nul htarget w) _, .halted _⟩
  | false =>
    rw [outcome_bind_of_ok (outcome_resolve htarget w)]
    cases hsource : source.text.contains '\x00' with
    | true => exact ⟨_, w, outcome_bind_of_error (outcome_resolve_of_nul hsource w) _, .halted _⟩
    | false =>
      rw [outcome_bind_of_ok (outcome_resolve hsource w)]
      by_cases hsame : source.resolveFrom w.cwd = target.resolveFrom w.cwd
      · rw [if_pos (by rw [hsame])]
        exact ⟨_, w, outcome_pure none w, .same hsame⟩
      · rw [if_neg fun h => hsame (congrArg Path.names h).symm]
        rcases writeExample_cases source target w with ⟨e, w', hhalted, htree⟩ | ⟨content, w', hdone, hread, hwrite⟩
        · exact ⟨_, w', outcome_bind_of_error hhalted _, htree ▸ .halted e⟩
        · exact ⟨_, w', outcome_bind_of_ok hdone _, .written hsame hread hwrite⟩

theorem exampleEnds_generateExample {w : World} {env output : Option Text} {source target : Path}
    (hpaths : w.ExamplePaths env output source target) : ∃ result w',
    outcome (generateExample env output) w = (result, w') ∧ ExampleEnds w.tree w.cwd source target result w'.tree := by
  obtain ⟨hs, hsource, htarget⟩ := hpaths
  obtain ⟨es, -, hload⟩ := exists_outcome_settingsInForce w
  rw [hs] at hload
  unfold generateExample
  rw [outcome_bind_of_ok hload, outcome_bind_of_ok (outcome_orSetting_of_chosen hsource _)]
  dsimp only
  rw [outcome_bind_of_ok (outcome_orSetting_of_chosen htarget _)]
  exact exampleEnds_guarded (.ofText _) (.ofText _) _

/-- Where there is no source or no target, generating is halted. -/
theorem exists_outcome_generateExample_of_pathless {w : World} {env output : Option Text}
    (hnone : ∀ source target, ¬ w.ExamplePaths env output source target) :
    ∃ e w', outcome (generateExample env output) w = (.error e, w') ∧ w'.tree = w.tree := by
  obtain ⟨es, -, hload⟩ := exists_outcome_settingsInForce w
  unfold generateExample
  cases hs : w.settingsInForce with
  | error e =>
    rw [hs] at hload
    exact ⟨e, _, outcome_bind_of_error hload _, rfl⟩
  | ok s =>
    rw [hs] at hload
    rw [outcome_bind_of_ok hload]
    rcases chosen_or_refused env s.defaultEnvFile with ⟨source, hsource⟩ | hrefused
    · rcases chosen_or_refused output s.exampleOutput with ⟨target, htarget⟩ | hrefused
      · exact absurd (.mk hs hsource htarget) (hnone _ _)
      · rw [outcome_bind_of_ok (outcome_orSetting_of_chosen hsource _)]
        exact ⟨_, _, outcome_bind_of_error (hrefused _) _, rfl⟩
    · exact ⟨_, _, outcome_bind_of_error (hrefused _) _, rfl⟩

/-- What is shown of it changes no file, and the command is done only if an example has been written. -/
theorem exists_outcome_runGenerateExample (env output : Option Text) (w : World) : ∃ es r w',
    outcome (runGenerateExample env output) w = (r, w') ∧
      w'.tree = (outcome (generateExample env output) { w with events := es }).2.tree ∧
      (exitStatus r = done → ∃ p, (outcome (generateExample env output) { w with events := es }).1 = .ok (some p)) := by
  obtain ⟨es, hheading⟩ : ∃ es, outcome (heading "📝 EnvGuard - Example Generator") w =
      (.ok ⟨⟩, { w with events := es }) := ⟨_, rfl⟩
  refine ⟨es, ?_⟩
  unfold runGenerateExample
  rw [outcome_bind_of_ok hheading]
  rcases hgenerate : outcome (generateExample env output) { w with events := es } with ⟨e | p?, v⟩
  · obtain ⟨r, es', hr, -, hcomplain⟩ := exists_outcome_orComplain_of_error hgenerate
    exact ⟨r, _, hcomplain, rfl, fun hdone => absurd (hr.symm.trans hdone) (by decide)⟩
  · rw [outcome_orComplain_of_ok hgenerate]
    cases p? with
    | none => exact ⟨.ok failed, _, rfl, rfl, fun hdone => absurd hdone (show failed ≠ done by decide)⟩
    | some p => exact ⟨.ok done, _, rfl, rfl, fun _ => ⟨p, rfl⟩⟩

/-! ## What is left of the files -/

/-- A run leaves the source as it was, changes nothing but what the target leads to, and nothing at all unless there is
an example to write; if it is done, it has written one. -/
structure SparesSource (t : FileTree) (cwd : Place) (source target : Path) (status : Status) (t' : FileTree) :
    Prop where
  source_kept : t'.readFile cwd source = t.readFile cwd source
  others_kept : ∀ q, t'.entry? q ≠ t.entry? q → ∃ e, t.locate cwd target = .ok (q, e)
  irregular : t.isFile cwd source ≠ .ok true → t' = t
  same_file : ∀ place e e', t.locate cwd source = .ok (place, e) → t.locate cwd target = .ok (place, e') → t' = t
  same_place : source.resolveFrom cwd = target.resolveFrom cwd → t' = t
  written : status = done → ∃ content, t.readFile cwd source = .ok content ∧
    t'.readFile cwd target = .ok (encode (exampleText (readEnvFile content) source.name))

section Spared

variable {t t' : FileTree} {cwd : Place} {source target : Path} {status : Status}

theorem sparesSource_self (hstatus : status ≠ done) : SparesSource t cwd source target status t :=
  ⟨rfl, fun _ hq => absurd rfl hq, fun _ => rfl, fun _ _ _ _ _ => rfl, fun _ => rfl, fun h => absurd h hstatus⟩

/-- An example that has been written is at another place than its source. -/
theorem sparesSource_of_writeFile {content : Bytes} (hdiffer : source.resolveFrom cwd ≠ target.resolveFrom cwd)
    (hread : t.readFile cwd source = .ok content)
    (hwrite : t.writeFile cwd target (encode (exampleText (readEnvFile content) source.name)) = .ok t') :
    SparesSource t cwd source target status t' := by
  constructor
  case source_kept => rw [FileTree.readFile_of_writeFile_of_ne hread hwrite hdiffer, hread]
  case others_kept => exact fun q => FileTree.exists_locate_of_writeFile hwrite
  case irregular => exact fun hfile => absurd (FileTree.isFile_eq_true_iff.2 ⟨content, hread⟩) hfile
  case same_file =>
    intro place e e' hsource htarget
    have hmet : source.resolveFrom cwd = target.resolveFrom cwd :=
      (FileTree.target_of_locate hsource).symm.trans (FileTree.target_of_locate htarget)
    exact absurd hmet hdiffer
  case same_place => exact fun hmet => absurd hmet hdiffer
  case written => exact fun _ => ⟨content, hread, FileTree.readFile_of_writeFile hwrite⟩

theorem ExampleEnds.sparesSource {result : Except Halt (Option Path)} (h : ExampleEnds t cwd source target result t')
    (hdone : status = done → ∃ p, result = .ok (some p)) : SparesSource t cwd source target status t' := by
  cases h with
  | same | halted =>
    refine sparesSource_self fun hstatus => ?_
    obtain ⟨p, hp⟩ := hdone hstatus
    cases hp
  | written hdiffer hread hwrite => exact sparesSource_of_writeFile hdiffer hread hwrite

end Spared

/-! ## Lines -/

/-- The words behind the name of the command ask for it, if for anything. -/
theorem exists_generateExample_of_readCommand {finder : Finder} {rest : List Text} {c : Command}
    (h : readCommand finder .generateExample rest = .ok c) : ∃ env output, c = .generateExample env output := by
  obtain ⟨given, -, h⟩ := exists_of_bind_ok h
  obtain ⟨output, -, h⟩ := exists_of_bind_ok h
  obtain ⟨env, -, h⟩ := exists_of_bind_ok h
  exact ⟨env, orNone output, (Except.ok.inj h).symm⟩

/-- A line asks for an example of a source, to be written to a target. -/
def World.AsksExample (w : World) (words : List Text) (source target : Path) : Prop :=
  ∃ level env output, w.Asks words level (.generateExample env output) ∧ w.ExamplePaths env output source target

/-- How a line that asks for the command ends, and which files it leaves: it is halted before the command, or ends with
it, in a world that differs in nothing the command looks at. -/
inductive ExampleLineEnds (w : World) (env output : Option Text) : Status → FileTree → Prop
  | halted {status : Status} (h : status ≠ done) : ExampleLineEnds w env output status w.tree
  | ran {v v' : World} {result : Except Halt (Option Path)} {status : Status} (htree : v.tree = w.tree)
      (hcwd : v.cwd = w.cwd) (hforce : v.settingsInForce = w.settingsInForce)
      (hrun : outcome (generateExample env output) v = (result, v'))
      (hdone : status = done → ∃ p, result = .ok (some p)) : ExampleLineEnds w env output status v'.tree

theorem exampleLineEnds {w : World} {words : List Text} {level env output : Option Text}
    (hasks : w.Asks words level (.generateExample env output)) :
    ExampleLineEnds w env output (exitStatus (outcome (runLine words) w).1) (outcome (runLine words) w).2.tree := by
  obtain ⟨es, -, hline⟩ := exists_outcome_runLine hasks
  rw [hline]
  cases (w.prepared level).result with
  | error h => exact .halted (show failed ≠ done by decide)
  | ok _ =>
    obtain ⟨es', r, w', hrun, htree, hdone⟩ :=
      exists_outcome_runGenerateExample env output (w.behind (w.prepared level) es)
    have hforce := settingsInForce_behind w level es
    dsimp only [run]
    rw [hrun]
    dsimp only
    rw [htree]
    exact .ran (v := { w.behind (w.prepared level) es with events := es' }) rfl rfl hforce rfl hdone

/-- **A line that asks for an example** spares its source, however the two paths are spelled and wherever they come
from.  Where it asks for none, or the settings leave it without a source or a target, no file changes. -/
theorem generateExample_sparesSource {w : World} {words rest : List Text} {level : Option Text}
    (hhead : readLineHead words = .ok ⟨level, .generateExample, rest⟩) :
    (∀ source target, w.AsksExample words source target →
      SparesSource w.tree w.cwd source target (exitStatus (outcome (runLine words) w).1)
        (outcome (runLine words) w).2.tree) ∧
    ((∀ source target, ¬ w.AsksExample words source target) → (outcome (runLine words) w).2.tree = w.tree) := by
  constructor
  · rintro source target ⟨level, env, output, hasks, hpaths⟩
    have hline := exampleLineEnds hasks
    generalize (outcome (runLine words) w).2.tree = after at hline ⊢
    cases hline with
    | halted h => exact sparesSource_self h
    | ran htree hcwd hforce hrun hdone =>
      obtain ⟨result, v', hgenerate, hends⟩ := exampleEnds_generateExample (hpaths.of_settings hforce)
      obtain ⟨rfl, rfl⟩ := Prod.mk.inj (hgenerate.symm.trans hrun)
      rw [htree, hcwd] at hends
      exact hends.sparesSource hdone
  · intro hnone
    cases hcommand : readCommand (finderOf w) .generateExample rest with
    | error s => exact tree_runLine_of_stop hhead hcommand
    | ok c =>
      obtain ⟨env, output, rfl⟩ := exists_generateExample_of_readCommand hcommand
      have hasks : w.Asks words level (.generateExample env output) := ⟨.generateExample, rest, hhead, hcommand⟩
      have hline := exampleLineEnds hasks
      generalize (outcome (runLine words) w).2.tree = after at hline ⊢
      cases hline with
      | halted => rfl
      | ran htree hcwd hforce hrun hdone =>
        have hpathless := fun source target hpaths =>
          hnone source target ⟨level, env, output, hasks, World.ExamplePaths.of_settings hpaths hforce.symm⟩
        obtain ⟨e, v', hgenerate, hkept⟩ := exists_outcome_generateExample_of_pathless hpathless
        obtain ⟨-, rfl⟩ := Prod.mk.inj (hgenerate.symm.trans hrun)
        exact hkept.trans htree

/-- A current directory with an env file and a directory. -/
def nestedFolder : World :=
  { World.bare (.notStarted .missing) with
    cwd := ["work".toList]
    tree := ⟨[(["work".toList], .directory), (["work".toList, "sub".toList], .directory),
      (["work".toList, ".env".toList], .file (encode "PORT=80\n".toList) false)]⟩ }

def nestedWords : List Text :=
  ["generate-example".toList, "sub/.././.env".toList, "-o".toList, "/work/sub/../.env.example".toList]

def nestedSource : Path := .ofText "sub/.././.env".toList

def nestedTarget : Path := .ofText "/work/sub/../.env.example".toList

def nestedRun : Except Halt Status × World := outcome (runLine nestedWords) nestedFolder

theorem generateExample_sparesSource_nestedFolder :
    readLineHead nestedWords = .ok ⟨none, .generateExample, nestedWords.tail⟩ ∧
      nestedFolder.AsksExample nestedWords nestedSource nestedTarget ∧ exitStatus nestedRun.1 = done ∧
      SparesSource nestedFolder.tree nestedFolder.cwd nestedSource nestedTarget done nestedRun.2.tree := by
  have hhead : readLineHead nestedWords = .ok ⟨none, .generateExample, nestedWords.tail⟩ := rfl
  have hasks : nestedFolder.AsksExample nestedWords nestedSource nestedTarget :=
    ⟨none, some _, some _, ⟨.generateExample, _, hhead, rfl⟩, .mk rfl (.given _ _) (.given _ _)⟩
  have hdone : exitStatus nestedRun.1 = done := by decide +kernel
  have hspares := (generateExample_sparesSource hhead).1 nestedSource nestedTarget hasks
  exact ⟨hhead, hasks, hdone, hdone ▸ hspares⟩

/-- The source that the settings name, under another spelling. -/
example : exitStatus (outcome (runLine ["generate-example".toList, "-o".toList, "../work/sub/../.env".toList])
    nestedFolder).1 = failed := by decide +kernel

end EnvAudit

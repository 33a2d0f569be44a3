import EnvAudit.Hook.Lifecycle
import EnvAudit.Proofs.Text.Mark
import EnvAudit.Proofs.World.FileTree
import EnvAudit.Proofs.World.Session
/-!
# Hooks and their scripts

Where the hook of a repository is, and whose it is.  A hook that is reached has its git directory above it
(`HoldsHook.exists_gitDirectory`), and what is read of it holds the marker exactly if its text does
(`isOwnHook_unifyNewlines_iff`).
-/
namespace EnvAudit

open Session

/-! ## Where a hook is -/

def gitDirectory (repo : Place) : Path := (Path.ofPlace repo).child gitDirectoryName

def hookPath (repo : Place) : Path := hookOf (gitDirectory repo)

/-- Where the path of the hook leads. -/
def hookPlace (repo : Place) : Place := (hookPath repo).resolveFrom []

/-- The place of the repository that a path names. -/
def World.Names (w : World) (path : Text) (repo : Place) : Prop :=
  (Path.ofText path).text.contains '\x00' = false ∧ (Path.ofText path).resolveFrom w.cwd = repo

theorem World.Names.outcome_resolve {w : World} {path : Text} {repo : Place} (h : w.Names path repo) :
    outcome (resolve (.ofText path)) w = (.ok (.ofPlace repo), w) := by
  rw [Session.outcome_resolve h.1, h.2]

theorem hookPath_eq (repo : Place) :
    hookPath repo = Path.ofPlace (repo ++ [gitDirectoryName] ++ [hooksName, hookName]) := by
  rw [List.append_cons _ hooksName]
  rfl

theorem gitDirectory_eq (repo : Place) : gitDirectory repo = Path.ofPlace (repo ++ [gitDirectoryName]) := rfl

theorem hookPlace_ne_nil (repo : Place) : hookPlace repo ≠ [] := by
  have hplace : hookPlace repo = Path.stepsFrom [] (repo ++ [gitDirectoryName] ++ [hooksName, hookName]) := by
    unfold hookPlace
    rw [hookPath_eq]
    rfl
  rw [hplace, Path.stepsFrom_append]
  have hlast : ∀ place, Path.stepsFrom place [hooksName, hookName] = place ++ [hooksName] ++ [hookName] := fun _ => rfl
  rw [hlast]
  exact List.append_ne_nil_of_right_ne_nil _ (List.cons_ne_nil hookName [])

/-- A hook is there, and is a file. -/
def FileTree.HoldsHook (t : FileTree) (repo : Place) (content : Bytes) (executable : Bool) : Prop :=
  t.locate [] (hookPath repo) = .ok (hookPlace repo, some (.file content executable))

namespace FileTree.HoldsHook

variable {t : FileTree} {repo : Place} {content : Bytes} {executable : Bool} (h : t.HoldsHook repo content executable)

include h

theorem locate (cwd : Place) :
    t.locate cwd (hookPath repo) = .ok (hookPlace repo, some (.file content executable)) :=
  (FileTree.locate_of_isAbsolute rfl []).trans h

theorem entry? : t.entry? (hookPlace repo) = some (.file content executable) :=
  FileTree.entry?_of_walk (FileTree.walk_of_locate h)

theorem readFile (cwd : Place) : t.readFile cwd (hookPath repo) = .ok content := by
  rw [FileTree.readFile, h.locate]

theorem exists? (cwd : Place) : t.exists? cwd (hookPath repo) = .ok true := FileTree.exists?_of_readFile (h.readFile cwd)

theorem exists_gitDirectory (cwd : Place) : t.exists? cwd (gitDirectory repo) = .ok true := by
  have hhook := h.locate cwd
  rw [hookPath_eq] at hhook
  obtain ⟨target, hdirectory⟩ := exists_directory_of_locate_append
    (List.append_ne_nil_of_right_ne_nil repo (List.cons_ne_nil gitDirectoryName [])) (List.cons_ne_nil _ _) hhook
  rw [gitDirectory_eq, FileTree.exists?, FileTree.lookUp, hdirectory]
  rfl

/-- The hook is still there when its place gets another file. -/
theorem put (content' : Bytes) (executable' : Bool) :
    (t.put (hookPlace repo) (.file content' executable')).HoldsHook repo content' executable' := by
  have hplace : t.entry? (hookPlace repo) ≠ some .directory := by
    rw [h.entry?]
    nofun
  have hput := FileTree.locate_put (.file content' executable') hplace h
  rwa [if_pos rfl] at hput

end FileTree.HoldsHook

/-! ## Scripts of this tool -/

/-- A script that can be read and holds the marker. -/
def IsOwn (content : Bytes) : Prop := ∃ t, decodeStrict content = some t ∧ hookMarker <:+: t

theorem isOwnHook_unifyNewlines_iff (t : Text) : isOwnHook (unifyNewlines t) = true ↔ hookMarker <:+: t :=
  occursIn_eq_true_iff.trans (isInfix_unifyNewlines_iff (by decide) (by decide) t)

theorem IsOwn.marker {content : Bytes} (h : IsOwn content) : encode hookMarker <:+: content := by
  obtain ⟨t, hdecoded, hmarker⟩ := h
  rw [← encode_of_decodeStrict hdecoded]
  exact encode_isInfix hmarker

set_option maxRecDepth 4000 in
theorem isInfix_hookScript : hookMarker <:+: hookScript := by
  -- the literal is taken as the list of its characters, since decoding it takes the kernel long
  have hchars : ∃ l, hookScript = l ∧ occursIn hookMarker l = true := ⟨_, String.toList_ofList, by decide +kernel⟩
  obtain ⟨l, hl, hmarker⟩ := hchars
  rw [hl]
  exact occursIn_eq_true_iff.1 hmarker

theorem isOwn_hookScript : IsOwn (encode hookScript) := ⟨hookScript, decodeStrict_encode hookScript, isInfix_hookScript⟩

/-- What is read of a hook. -/
def hookReading (r : Except Failure Bytes) : Except Halt Text :=
  match r with
  | .error f => .error (.failure f)
  | .ok content => match decodeStrict content with
    | none => .error (.failure .undecodable)
    | some t => .ok (unifyNewlines t)

theorem outcome_hookText (hook : Path) (w : World) :
    outcome (hookText hook) w = (hookReading (w.tree.readFile w.cwd hook), w) := by
  unfold hookText hookReading
  rw [outcome_bind, outcome_readFile]
  cases w.tree.readFile w.cwd hook with
  | error f => rfl
  | ok content => cases h : decodeStrict content <;> simp [Except.mapError, h, fail]

theorem hookReading_of_own {content : Bytes} (h : IsOwn content) : ∃ t, hookReading (.ok content) = .ok t ∧
    isOwnHook t = true := by
  obtain ⟨t, hdecoded, hmarker⟩ := h
  refine ⟨unifyNewlines t, ?_, (isOwnHook_unifyNewlines_iff t).2 hmarker⟩
  unfold hookReading
  dsimp only
  rw [hdecoded]

theorem own_of_hookReading {r : Except Failure Bytes} {t : Text} (h : hookReading r = .ok t)
    (hown : isOwnHook t = true) : ∃ content, r = .ok content ∧ IsOwn content := by
  unfold hookReading at h
  split at h
  · cases h
  · rename_i content
    split at h
    · cases h
    · rename_i u hdecoded
      obtain rfl := Except.ok.inj h
      exact ⟨content, rfl, u, hdecoded, (isOwnHook_unifyNewlines_iff u).1 hown⟩

end EnvAudit

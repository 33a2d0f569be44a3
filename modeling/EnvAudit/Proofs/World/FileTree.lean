import EnvAudit.Proofs.Text.Split
import EnvAudit.Proofs.Walk
import EnvAudit.World.FileTree
/-!
# Files that are written and read

What is written to a path is what is read from it (`readFile_of_writeFile`), and what is read from any other place
stays (`readFile_of_writeFile_of_ne`).  A path that can be read can be written (`exists_writeFile_of_readFile`), with
nothing to be made above it (`makeDirectories_of_readFile`).
-/
namespace EnvAudit

theorem Path.stepsFrom_append (ms : List Text) : ∀ (ns : List Text) (place : Place),
    stepsFrom place (ns ++ ms) = stepsFrom (stepsFrom place ns) ms
  | [], _ => rfl
  | _ :: ns, _ => stepsFrom_append ms ns _

namespace FileTree

/-! ## Entries -/

theorem entry?_put (t : FileTree) (place : Place) (e : Entry) (q : Place) :
    entry? (t.put place e) q = if q = place then some e else t.entry? q := by
  have hput := find?_put (putIn place e) rfl (fun _ _ => rfl) q t.entries
  unfold entry? put
  rw [hput]
  by_cases hq : q = place
  · rw [if_pos hq, if_pos hq.symm]
  · rw [if_neg hq, if_neg (Ne.symm hq)]

theorem putIn_putIn (place : Place) (e e' : Entry) : ∀ xs : List (Place × Entry),
    putIn place e' (putIn place e xs) = putIn place e' xs
  | [] => if_pos rfl
  | x :: xs => by
    rw [putIn, putIn]
    by_cases hx : x.1 = place
    · rw [if_pos hx, if_pos hx, putIn, if_pos rfl]
    · rw [if_neg hx, if_neg hx, putIn, if_neg hx, putIn_putIn place e e' xs]

/-- The last entry that is put stays. -/
theorem put_put (t : FileTree) (place : Place) (e e' : Entry) : (t.put place e).put place e' = t.put place e' :=
  congrArg FileTree.mk (putIn_putIn place e e' t.entries)

theorem entry?_erase (t : FileTree) {place : Place} (hplace : place ≠ []) (q : Place) :
    entry? (t.erase place) q = if q = place then none else t.entry? q := by
  unfold entry? erase
  rw [List.find?_filter]
  by_cases hq : q = place
  · subst hq
    have hnone : t.entries.find? (fun e => decide (decide (e.1 ≠ q) = true ∧ decide (e.1 = q) = true)) = none :=
      List.find?_eq_none.2 fun e _ => by simp
    rw [if_pos rfl, hnone, Option.map_none]
    exact if_neg (by simpa using hplace)
  · have hsame : (fun e : Place × Entry => decide (decide (e.1 ≠ place) = true ∧ decide (e.1 = q) = true)) =
        fun e => decide (e.1 = q) := by
      funext e
      by_cases he : e.1 = q <;> simp [he, hq]
    rw [if_neg hq, hsame]

/-! ## Walks -/

/-- The place one name leads to. -/
def nextPlace (place : Place) (n : Text) : Place := if n = Path.parentName then place.dropLast else place ++ [n]

/-- **One step of a walk**: a name that is not too long, and a directory behind it if more names follow. -/
theorem walk_cons_iff {t : FileTree} {place : Place} {n : Text} {ns : List Text} {r : Place × Option Entry} :
    t.walk place (n :: ns) = .ok r ↔ (encode n).length ≤ maxNameBytes ∧
      (ns = [] ∨ t.entry? (nextPlace place n) = some .directory) ∧ t.walk (nextPlace place n) ns = .ok r := by
  unfold nextPlace
  rw [walk]
  dsimp only
  generalize (if n = Path.parentName then place.dropLast else place ++ [n]) = next
  by_cases hlength : maxNameBytes < (encode n).length
  · rw [if_pos hlength]
    exact iff_of_false nofun fun h => absurd h.1 (Nat.not_le.2 hlength)
  rw [if_neg hlength, and_iff_right (Nat.not_lt.1 hlength)]
  cases hentry : t.entry? next with
  | none => cases ns <;> simp [walk, hentry]
  | some e =>
    cases e with
    | directory => simp
    | file content executable => cases ns <;> simp [walk, hentry]

theorem entry?_of_walk {t : FileTree} : ∀ {ns : List Text} {place target : Place} {e : Option Entry},
    t.walk place ns = .ok (target, e) → t.entry? target = e
  | [], place, target, e, h => by
    obtain ⟨rfl, rfl⟩ := Prod.mk.inj (Except.ok.inj h)
    rfl
  | _ :: _, _, _, _, h => entry?_of_walk (walk_cons_iff.1 h).2.2

/-- The names are walked to the place they name. -/
theorem target_of_walk {t : FileTree} : ∀ {ns : List Text} {place target : Place} {e : Option Entry},
    t.walk place ns = .ok (target, e) → target = Path.stepsFrom place ns
  | [], _, _, _, h => (Prod.mk.inj (Except.ok.inj h)).1.symm
  | n :: ns, place, target, _, h => by
    have hrest : target = Path.stepsFrom (nextPlace place n) ns := target_of_walk (walk_cons_iff.1 h).2.2
    exact hrest

/-- What is put where no directory is leaves every way as it is, since only directories are on the way. -/
theorem walk_put {t : FileTree} {new : Entry} {q : Place} (hq : t.entry? q ≠ some .directory) :
    ∀ {ns : List Text} {place target : Place} {e : Option Entry}, t.walk place ns = .ok (target, e) →
      (t.put q new).walk place ns = .ok (target, if target = q then some new else e)
  | [], place, target, e, h => by
    obtain ⟨rfl, rfl⟩ := Prod.mk.inj (Except.ok.inj h)
    rw [walk, entry?_put]
  | n :: ns, place, target, e, h => by
    obtain ⟨hlength, hway, h⟩ := walk_cons_iff.1 h
    refine walk_cons_iff.2 ⟨hlength, hway.imp_right fun hdirectory => ?_, walk_put hq h⟩
    have hne : nextPlace place n ≠ q := fun heq => hq (heq ▸ hdirectory)
    rw [entry?_put, if_neg hne, hdirectory]

/-- A directory stands before every name that is walked. -/
theorem exists_directory_of_walk_append {t : FileTree} {ms : List Text} (hms : ms ≠ []) {r : Place × Option Entry} :
    ∀ {ns : List Text} {place : Place}, ns ≠ [] → t.walk place (ns ++ ms) = .ok r →
      ∃ target, t.walk place ns = .ok (target, some .directory)
  | [], _, hne, _ => absurd rfl hne
  | n :: ns, place, _, h => by
    obtain ⟨hlength, hway, h⟩ := walk_cons_iff.1 h
    have hdirectory := hway.resolve_left (List.append_ne_nil_of_right_ne_nil ns hms)
    cases ns with
    | nil => exact ⟨_, walk_cons_iff.2 ⟨hlength, .inl rfl, by rw [walk, hdirectory]⟩⟩
    | cons m ns =>
      obtain ⟨target, hwalk⟩ := exists_directory_of_walk_append hms (List.cons_ne_nil m ns) h
      exact ⟨target, walk_cons_iff.2 ⟨hlength, .inr hdirectory, hwalk⟩⟩

theorem makeDirectoriesBelow_of_walk {t : FileTree} {target : Place} {content : Bytes} {executable : Bool} :
    ∀ {ns : List Text} {place : Place}, t.walk place ns = .ok (target, some (.file content executable)) →
      makeDirectoriesBelow place ns.dropLast t = .ok t
  | [], _, _ => rfl
  | [_], _, _ => rfl
  | n :: m :: ns, place, h => by
    obtain ⟨-, hway, h⟩ := walk_cons_iff.1 h
    have hdirectory := hway.resolve_left (List.cons_ne_nil m ns)
    unfold nextPlace at hdirectory
    rw [List.dropLast_cons_cons, makeDirectoriesBelow, hdirectory]
    exact makeDirectoriesBelow_of_walk h

/-! ## Reading and writing -/

variable {t t' : FileTree} {cwd : Place} {p : Path} {content : Bytes}

/-- **What a path leads to** is what its names do, if it has no zero character and is not too long. -/
theorem locate_eq_ok_iff {r : Place × Option Entry} : t.locate cwd p = .ok r ↔ p.text.contains '\x00' = false ∧
    (encode p.text).length ≤ maxPathBytes ∧ t.walk (if p.isAbsolute then [] else cwd) p.names = .ok r := by
  unfold locate
  dsimp only
  split
  · rename_i hnul
    exact iff_of_false nofun fun h => Bool.false_ne_true (h.1.symm.trans hnul)
  rename_i hnul
  rw [and_iff_right (Bool.eq_false_iff.2 hnul)]
  split
  · rename_i hlength
    exact iff_of_false nofun fun h => absurd h.1 (Nat.not_le.2 hlength)
  · rename_i hlength
    exact (and_iff_right (Nat.not_lt.1 hlength)).symm

theorem walk_of_locate {target : Place} {e : Option Entry} (h : t.locate cwd p = .ok (target, e)) :
    t.walk (if p.isAbsolute then [] else cwd) p.names = .ok (target, e) := (locate_eq_ok_iff.1 h).2.2

theorem target_of_locate {target : Place} {e : Option Entry} (h : t.locate cwd p = .ok (target, e)) :
    target = p.resolveFrom cwd := target_of_walk (walk_of_locate h)

theorem locate_put {target q : Place} {e : Option Entry} (new : Entry) (hq : t.entry? q ≠ some .directory)
    (h : t.locate cwd p = .ok (target, e)) :
    (t.put q new).locate cwd p = .ok (target, if target = q then some new else e) := by
  obtain ⟨hnul, hlength, hwalk⟩ := locate_eq_ok_iff.1 h
  exact locate_eq_ok_iff.2 ⟨hnul, hlength, walk_put hq hwalk⟩

/-- A path with a root leads from anywhere to the same place. -/
theorem locate_of_isAbsolute (hp : p.isAbsolute = true) (cwd' : Place) : t.locate cwd p = t.locate cwd' p := by
  unfold locate
  rw [if_pos hp, if_pos hp]

/-- A directory is at every place above one that is reached. -/
theorem exists_directory_of_locate_append {place : Place} {more : List Text} {r : Place × Option Entry}
    (hplace : place ≠ []) (hmore : more ≠ []) (h : t.locate cwd (.ofPlace (place ++ more)) = .ok r) :
    ∃ target, t.locate cwd (.ofPlace place) = .ok (target, some .directory) := by
  obtain ⟨tail, htail⟩ : (Path.ofPlace place).text <+: (Path.ofPlace (place ++ more)).text :=
    (List.prefix_append_right_inj ['/']).2 (isPrefix_joinWith_append ['/'] more place)
  obtain ⟨hnul, hlength, hwalk⟩ := locate_eq_ok_iff.1 h
  rw [← htail] at hnul hlength
  obtain ⟨target, hdirectory⟩ := exists_directory_of_walk_append hmore hplace hwalk
  refine ⟨target, locate_eq_ok_iff.2 ⟨?_, ?_, hdirectory⟩⟩
  · rw [List.contains_eq_mem] at hnul ⊢
    exact decide_eq_false fun hmem => of_decide_eq_false hnul (List.mem_append_left tail hmem)
  · unfold encode at hlength ⊢
    rw [List.flatMap_append, List.length_append] at hlength
    omega

/-- What a write leaves: a file at the place of the path, where no directory was. -/
theorem writeFile_eq_ok (h : t.writeFile cwd p content = .ok t') : ∃ e executable,
    t.locate cwd p = .ok (p.resolveFrom cwd, e) ∧ t.entry? (p.resolveFrom cwd) ≠ some .directory ∧
      t' = t.put (p.resolveFrom cwd) (.file content executable) := by
  unfold writeFile at h
  split at h
  · cases h
  · rename_i place hlocate
    have hentry := entry?_of_walk (walk_of_locate hlocate)
    obtain rfl := target_of_locate hlocate
    exact ⟨none, false, hlocate, by rw [hentry]; nofun, (Except.ok.inj h).symm⟩
  · cases h
  · rename_i place content' executable hlocate
    have hentry := entry?_of_walk (walk_of_locate hlocate)
    obtain rfl := target_of_locate hlocate
    exact ⟨_, executable, hlocate, by rw [hentry]; nofun, (Except.ok.inj h).symm⟩

/-- **What is written** is what is read. -/
theorem readFile_of_writeFile (h : t.writeFile cwd p content = .ok t') : t'.readFile cwd p = .ok content := by
  obtain ⟨e, executable, hlocate, hplace, rfl⟩ := writeFile_eq_ok h
  rw [readFile, locate_put _ hplace hlocate, if_pos rfl]

theorem exists_file_of_readFile (h : t.readFile cwd p = .ok content) :
    ∃ place executable, t.locate cwd p = .ok (place, some (.file content executable)) := by
  unfold readFile at h
  split at h
  · cases h
  · cases h
  · cases h
  · rename_i place content' executable hlocate
    obtain rfl := Except.ok.inj h
    exact ⟨place, executable, hlocate⟩

/-- **What is read elsewhere** stays. -/
theorem readFile_of_writeFile_of_ne {q : Path} {old : Bytes} (hread : t.readFile cwd p = .ok old)
    (hwrite : t.writeFile cwd q content = .ok t') (hne : p.resolveFrom cwd ≠ q.resolveFrom cwd) :
    t'.readFile cwd p = .ok old := by
  obtain ⟨place, executable, hlocate⟩ := exists_file_of_readFile hread
  obtain ⟨e, executable', -, hplace, rfl⟩ := writeFile_eq_ok hwrite
  rw [readFile, locate_put _ hplace hlocate, target_of_locate hlocate, if_neg hne]

/-- **A write** changes nothing but what its path leads to. -/
theorem exists_locate_of_writeFile (h : t.writeFile cwd p content = .ok t') {q : Place}
    (hq : t'.entry? q ≠ t.entry? q) : ∃ e, t.locate cwd p = .ok (q, e) := by
  obtain ⟨e, executable, hlocate, -, rfl⟩ := writeFile_eq_ok h
  rw [entry?_put] at hq
  split at hq
  · rename_i hplace
    exact ⟨e, hplace ▸ hlocate⟩
  · exact absurd rfl hq

theorem exists_writeFile_of_readFile (h : t.readFile cwd p = .ok content) (content' : Bytes) :
    ∃ t', t.writeFile cwd p content' = .ok t' := by
  obtain ⟨place, executable, hlocate⟩ := exists_file_of_readFile h
  rw [writeFile, hlocate]
  exact ⟨_, rfl⟩

/-! ## Other changes -/

/-- A directory is made only where nothing was. -/
theorem makeDirectory_eq_ok (h : t.makeDirectory cwd p = .ok t') :
    t' = t ∨ t.entry? (p.resolveFrom cwd) = none ∧ t' = t.put (p.resolveFrom cwd) .directory := by
  unfold makeDirectory at h
  split at h
  · cases h
  · rename_i place hlocate
    have hentry := entry?_of_walk (walk_of_locate hlocate)
    obtain rfl := target_of_locate hlocate
    exact Or.inr ⟨hentry, (Except.ok.inj h).symm⟩
  · exact Or.inl (Except.ok.inj h).symm
  · cases h

theorem makeExecutable_of_file {place : Place} {executable : Bool}
    (h : t.locate cwd p = .ok (place, some (.file content executable))) :
    t.makeExecutable cwd p = .ok (t.put place (.file content true)) := by
  rw [makeExecutable, h]

/-- A file that has been written can be made executable. -/
theorem makeExecutable_of_writeFile (h : t.writeFile cwd p content = .ok t') : ∃ e,
    t.locate cwd p = .ok (p.resolveFrom cwd, e) ∧ e ≠ some .directory ∧
      t'.makeExecutable cwd p = .ok (t.put (p.resolveFrom cwd) (.file content true)) := by
  obtain ⟨e, executable, hlocate, hplace, rfl⟩ := writeFile_eq_ok h
  have hwritten := locate_put (.file content executable) hplace hlocate
  rw [if_pos rfl] at hwritten
  rw [entry?_of_walk (walk_of_locate hlocate)] at hplace
  exact ⟨e, hlocate, hplace, (makeExecutable_of_file hwritten).trans (congrArg _ (put_put ..))⟩

theorem removeFile_of_file {place : Place} {executable : Bool}
    (h : t.locate cwd p = .ok (place, some (.file content executable))) :
    t.removeFile cwd p = .ok (t.erase place) := by
  rw [removeFile, h]

theorem eq_none_of_not_exists {place : Place} {e : Option Entry} (hlocate : t.locate cwd p = .ok (place, e))
    (h : t.exists? cwd p = .ok false) : e = none := by
  rw [exists?, lookUp, hlocate] at h
  exact Option.isSome_eq_false_iff.1 (Except.ok.inj h) |> Option.isNone_iff_eq_none.1

/-- A regular file is one that can be read. -/
theorem isFile_eq_true_iff : t.isFile cwd p = .ok true ↔ ∃ content, t.readFile cwd p = .ok content := by
  constructor
  · unfold isFile lookUp readFile
    rcases t.locate cwd p with f | ⟨place, _ | _ | ⟨content, executable⟩⟩
    · cases f <;> exact fun h => by cases h
    · exact fun h => by cases h
    · exact fun h => by cases h
    · exact fun _ => ⟨content, rfl⟩
  · rintro ⟨content, h⟩
    obtain ⟨place, executable, hlocate⟩ := exists_file_of_readFile h
    rw [isFile, lookUp, hlocate]
    rfl

theorem exists?_of_readFile (h : t.readFile cwd p = .ok content) : t.exists? cwd p = .ok true := by
  obtain ⟨place, executable, hlocate⟩ := exists_file_of_readFile h
  rw [exists?, lookUp, hlocate]
  rfl

theorem makeDirectories_of_readFile (h : t.readFile cwd p = .ok content) : t.makeDirectories cwd p.parent = .ok t := by
  obtain ⟨place, executable, hlocate⟩ := exists_file_of_readFile h
  exact makeDirectoriesBelow_of_walk (walk_of_locate hlocate)

/-! ## Short paths -/

theorem walk_ne_nameTooLong : ∀ {ns : List Text} {place : Place}, (∀ n ∈ ns, (encode n).length ≤ maxNameBytes) →
    t.walk place ns ≠ .error .nameTooLong
  | [], _, _ => by rw [walk]; nofun
  | n :: ns, place, h => by
    have hrest : ∀ m ∈ ns, (encode m).length ≤ maxNameBytes := fun m hm => h m (List.mem_cons_of_mem n hm)
    rw [walk, if_neg (Nat.not_lt.2 (h n List.mem_cons_self))]
    dsimp only
    split
    · exact walk_ne_nameTooLong hrest
    · split <;> nofun
    · split <;> nofun

/-! ## Files that cannot be read -/

end FileTree

/-- A path that the system takes, whether or not it leads anywhere. -/
structure Path.IsShort (p : Path) : Prop where
  path : (encode p.text).length ≤ FileTree.maxPathBytes
  names : ∀ n ∈ p.names, (encode n).length ≤ FileTree.maxNameBytes

/-- **It can be told** of a short path whether a regular file is there. -/
theorem Path.IsShort.exists_isFile {p : Path} (h : p.IsShort) (t : FileTree) (cwd : Place) :
    ∃ there, t.isFile cwd p = .ok there := by
  have hlocate : t.locate cwd p ≠ .error .nameTooLong := by
    unfold FileTree.locate
    dsimp only
    split
    · nofun
    · rw [if_neg (Nat.not_lt.2 h.path)]
      exact FileTree.walk_ne_nameTooLong h.names
  unfold FileTree.isFile FileTree.lookUp
  cases hresult : t.locate cwd p with
  | ok found => exact ⟨_, rfl⟩
  | error f =>
    cases f
    case nameTooLong => exact absurd hresult hlocate
    all_goals exact ⟨_, rfl⟩

end EnvAudit

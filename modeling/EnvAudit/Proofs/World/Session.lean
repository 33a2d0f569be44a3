import EnvAudit.World.Session
/-!
# How a session ends

`outcome` is the whole of what an action does in a world: how it ends, and the world it leaves.  Each way of putting
actions together has one equation, so the outcome of a command is computed step by step along its text.
-/
namespace EnvAudit
namespace Session

variable {α β : Type}

def outcome (s : Session α) (w : World) : Except Halt α × World := ExceptT.run s w

/-! ## Putting actions together -/

@[simp] theorem outcome_pure (a : α) (w : World) : outcome (pure a) w = (.ok a, w) := rfl

theorem outcome_bind (s : Session α) (f : α → Session β) (w : World) : outcome (s >>= f) w =
    match outcome s w with
    | (.ok a, w') => outcome (f a) w'
    | (.error h, w') => (.error h, w') := by
  have hbind : outcome (s >>= f) w = ExceptT.bindCont f (outcome s w).1 (outcome s w).2 := rfl
  rw [hbind]
  rcases outcome s w with ⟨h | a, w'⟩ <;> rfl

theorem outcome_bind_of_ok {s : Session α} {w w' : World} {a : α} (h : outcome s w = (.ok a, w'))
    (f : α → Session β) : outcome (s >>= f) w = outcome (f a) w' := by
  rw [outcome_bind, h]

theorem outcome_bind_of_error {s : Session α} {w w' : World} {e : Halt} (h : outcome s w = (.error e, w'))
    (f : α → Session β) : outcome (s >>= f) w = (.error e, w') := by
  rw [outcome_bind, h]

theorem exists_of_outcome_bind_ok {s : Session α} {f : α → Session β} {w w' : World} {b : β}
    (h : outcome (s >>= f) w = (.ok b, w')) : ∃ a v, outcome s w = (.ok a, v) ∧ outcome (f a) v = (.ok b, w') := by
  rw [outcome_bind] at h
  rcases hs : outcome s w with ⟨e | a, v⟩
  · rw [hs] at h
    cases h
  · rw [hs] at h
    exact ⟨a, v, rfl, h⟩

/-- An action that ends in an error, in whatever world, ends what goes on with it. -/
theorem outcome_bind_fst_of_error {s : Session α} {w : World} {e : Halt} (h : (outcome s w).1 = .error e)
    (f : α → Session β) : (outcome (s >>= f) w).1 = .error e := by
  rw [outcome_bind]
  generalize outcome s w = ending at h ⊢
  obtain ⟨result, w'⟩ := ending
  subst h
  rfl

@[simp] theorem outcome_throw (h : Halt) (w : World) : outcome (throw h : Session α) w = (.error h, w) := rfl

@[simp] theorem outcome_get (w : World) : outcome get w = (.ok w, w) := rfl

@[simp] theorem outcome_set (v w : World) : outcome (set v) w = (.ok ⟨⟩, v) := rfl

@[simp] theorem outcome_modify (f : World → World) (w : World) : outcome (modify f) w = (.ok ⟨⟩, f w) := rfl

@[simp] theorem outcome_orFail (r : Except Failure α) (w : World) :
    outcome (orFail r) w = (r.mapError Halt.failure, w) := by
  cases r <;> rfl

@[simp] theorem outcome_orHalt (r : Except Halt α) (w : World) : outcome (orHalt r) w = (r, w) := by
  cases r <;> rfl

@[simp] theorem outcome_plainText (v : Value) (w : World) :
    outcome (plainText v) w = ((v.plainWithin w.host.shownLevels).mapError Halt.failure, w) := by
  unfold plainText
  rw [outcome_bind_of_ok (outcome_get w), outcome_orFail]

theorem outcome_plainText_of_shown {v : Value} {w : World} (h : v.shownFault? w.host.shownLevels = none) :
    outcome (plainText v) w = (.ok v.plain, w) := by
  rw [outcome_plainText, Value.plainWithin_of_shownFault? h]
  rfl

theorem outcome_tryCatch (s : Session α) (handle : Halt → Session α) (w : World) : outcome (tryCatch s handle) w =
    match outcome s w with
    | (.ok a, w') => (.ok a, w')
    | (.error h, w') => outcome (handle h) w' := by
  simp only [outcome, tryCatch, tryCatchThe, MonadExceptOf.tryCatch, ExceptT.tryCatch, ExceptT.run, ExceptT.mk, bind,
    StateT.bind]
  rcases s w with ⟨h | a, w'⟩ <;> rfl

theorem outcome_attempt (s : Session α) (w : World) : outcome (attempt s) w =
    match outcome s w with
    | (.ok a, w') => (.ok (.ok a), w')
    | (.error (.problem p), w') => (.ok (.error p), w')
    | (.error (.failure f), w') => (.error (.failure f), w') := by
  unfold attempt
  rw [outcome_tryCatch, outcome_bind]
  rcases outcome s w with ⟨(p | f) | a, w'⟩ <;> rfl

/-! ## Events -/

@[simp] theorem outcome_emit (e : Event) (w : World) :
    outcome (emit e) w = (.ok ⟨⟩, { w with events := e :: w.events }) := rfl

@[simp] theorem outcome_record (logger : String) (level : Level) (message : Text) (w : World) :
    outcome (record logger level message) w =
      (.ok ⟨⟩, { w with events := .record ⟨logger.toList, level, message⟩ :: w.events }) := rfl

@[simp] theorem outcome_startGit (call : GitCall) (w : World) :
    outcome (startGit call) w = (.ok w.git, { w with events := .git call :: w.events }) := rfl

/-- A loop of sayings says them in order. -/
theorem outcome_forIn_emit {γ : Type} (say : γ → Event) : ∀ (xs : List γ) (w : World),
    outcome (forIn xs PUnit.unit fun x _ => do
      emit (say x)
      pure (ForInStep.yield PUnit.unit)) w = (.ok ⟨⟩, { w with events := (xs.map say).reverse ++ w.events })
  | [], _ => rfl
  | x :: xs, w => by
    have hfirst : outcome (do
        emit (say x)
        pure (ForInStep.yield PUnit.unit)) w = (.ok (.yield ⟨⟩), { w with events := say x :: w.events }) := rfl
    rw [List.forIn_cons, outcome_bind_of_ok hfirst, List.map_cons, List.reverse_cons, List.append_assoc]
    exact outcome_forIn_emit say xs _

/-- A list is filtered by questions that change nothing. -/
theorem outcome_filterM {γ : Type} {ask : γ → Session Bool} {test : γ → Bool} {w : World} {xs : List γ}
    (h : ∀ x ∈ xs, outcome (ask x) w = (.ok (test x), w)) : outcome (xs.filterM ask) w = (.ok (xs.filter test), w) := by
  have haux : ∀ {xs acc : List γ}, (∀ x ∈ xs, outcome (ask x) w = (.ok (test x), w)) →
      outcome (xs.filterAuxM ask acc) w = (.ok ((xs.filter test).reverse ++ acc), w) := by
    intro xs
    induction xs with
    | nil => exact fun _ => rfl
    | cons x xs ih =>
      intro acc h
      rw [List.filterAuxM, outcome_bind_of_ok (h x List.mem_cons_self), ih fun y hy => h y (List.mem_cons_of_mem x hy)]
      cases hx : test x <;> simp [hx]
  unfold List.filterM
  rw [outcome_bind_of_ok (haux h), List.append_nil, List.reverse_reverse, outcome_pure]

/-! ## Files -/

theorem outcome_isFile (p : Path) (w : World) :
    outcome (isFile p) w = ((w.tree.isFile w.cwd p).mapError Halt.failure, w) := by
  unfold isFile
  rw [outcome_bind_of_ok (outcome_get w), outcome_orFail]

theorem outcome_exists? (p : Path) (w : World) :
    outcome (exists? p) w = ((w.tree.exists? w.cwd p).mapError Halt.failure, w) := by
  unfold exists?
  rw [outcome_bind_of_ok (outcome_get w), outcome_orFail]

theorem outcome_exists?_of_ok {p : Path} {w : World} {there : Bool} (h : w.tree.exists? w.cwd p = .ok there) :
    outcome (exists? p) w = (.ok there, w) := by
  rw [outcome_exists?, h]
  rfl

theorem outcome_exists?_of_error {p : Path} {w : World} {f : Failure} (h : w.tree.exists? w.cwd p = .error f) :
    outcome (exists? p) w = (.error (.failure f), w) := by
  rw [outcome_exists?, h]
  rfl

theorem outcome_tryReadFile (p : Path) (w : World) :
    outcome (tryReadFile p) w = (.ok (w.tree.readFile w.cwd p), w) := outcome_bind_of_ok (outcome_get w) _

theorem outcome_readFile (p : Path) (w : World) :
    outcome (readFile p) w = ((w.tree.readFile w.cwd p).mapError Halt.failure, w) := by
  unfold readFile
  rw [outcome_bind_of_ok (outcome_tryReadFile p w), outcome_orFail]

/-- A change to the tree is made as a whole or not at all. -/
theorem outcome_changeTree_of_ok {change : FileTree → Place → Except Failure FileTree} {w : World} {t : FileTree}
    (h : change w.tree w.cwd = .ok t) : outcome (changeTree change) w = (.ok ⟨⟩, { w with tree := t }) := by
  unfold changeTree
  rw [outcome_bind_of_ok (outcome_get w), h, outcome_bind_of_ok (outcome_orFail _ w), outcome_set]

theorem outcome_changeTree_of_error {change : FileTree → Place → Except Failure FileTree} {w : World} {f : Failure}
    (h : change w.tree w.cwd = .error f) : outcome (changeTree change) w = (.error (.failure f), w) := by
  unfold changeTree
  rw [outcome_bind_of_ok (outcome_get w), h]
  exact outcome_bind_of_error (outcome_orFail _ w) _

/-- An absolute path with the parent steps taken. -/
theorem outcome_resolve {p : Path} (h : p.text.contains '\x00' = false) (w : World) :
    outcome (resolve p) w = (.ok (.ofPlace (p.resolveFrom w.cwd)), w) := by
  unfold resolve
  rw [outcome_bind_of_ok (outcome_get w), if_neg (by rw [h]; exact Bool.false_ne_true), outcome_pure]

/-- What no path is written like is refused. -/
theorem outcome_resolve_of_nul {p : Path} (h : p.text.contains '\x00' = true) (w : World) :
    outcome (resolve p) w = (.error (.failure .badValue), w) := by
  unfold resolve
  rw [outcome_bind_of_ok (outcome_get w), if_pos h]
  rfl

/-! ## Files left alone -/

/-- However it ends, an action changes no file. -/
def LeavesFiles (s : Session α) : Prop := ∀ w, (outcome s w).2.tree = w.tree

theorem leavesFiles_pure (a : α) : LeavesFiles (pure a) := fun _ => rfl

theorem leavesFiles_throw (h : Halt) : LeavesFiles (throw h : Session α) := fun _ => rfl

theorem leavesFiles_get : LeavesFiles get := fun _ => rfl

theorem leavesFiles_emit (e : Event) : LeavesFiles (emit e) := fun _ => rfl

theorem leavesFiles_isFile (p : Path) : LeavesFiles (isFile p) := fun w => by rw [outcome_isFile]

theorem leavesFiles_readFile (p : Path) : LeavesFiles (readFile p) := fun w => by rw [outcome_readFile]

theorem LeavesFiles.bind {s : Session α} {f : α → Session β} (hs : LeavesFiles s) (hf : ∀ a, LeavesFiles (f a)) :
    LeavesFiles (s >>= f) := by
  intro w
  have h := hs w
  rw [outcome_bind]
  generalize outcome s w = ending at h ⊢
  rcases ending with ⟨e | a, w'⟩
  · exact h
  · exact (hf a w').trans h

theorem LeavesFiles.attempt {s : Session α} (hs : LeavesFiles s) : LeavesFiles (attempt s) := by
  intro w
  have h := hs w
  rw [outcome_attempt]
  generalize outcome s w = ending at h ⊢
  rcases ending with ⟨(p | f) | a, w'⟩ <;> exact h

theorem leavesFiles_resolve (p : Path) : LeavesFiles (resolve p) := by
  refine leavesFiles_get.bind fun w => ?_
  by_cases hnul : p.text.contains '\x00' = true
  · rw [if_pos hnul]
    exact leavesFiles_throw _
  · rw [if_neg hnul]
    exact leavesFiles_pure _

end Session

/-! ## What is shown -/

def Event.shown : Event → Text
  | .out t => t
  | _ => []

/-- Nothing that is shown: records and what is said aside. -/
def Event.IsQuiet (e : Event) : Prop := e.shown = []

theorem flatMap_shown_of_quiet {es : List Event} (h : ∀ e ∈ es, e.IsQuiet) : es.reverse.flatMap Event.shown = [] :=
  List.flatMap_eq_nil_iff.2 fun e he => h e (List.mem_reverse.1 he)

theorem World.outText_eq (w : World) : w.outText = w.events.reverse.flatMap Event.shown := by
  unfold World.outText
  refine congrArg (fun shown => List.flatMap shown _) (funext fun e => ?_)
  cases e <;> rfl

/-- **What events show** comes behind what has been shown. -/
theorem World.outText_events (w : World) (es : List Event) :
    { w with events := es ++ w.events }.outText = w.outText ++ es.reverse.flatMap Event.shown := by
  rw [World.outText_eq, World.outText_eq, List.reverse_append, List.flatMap_append]

theorem World.records_record (w : World) (r : Record) :
    ({ w with events := .record r :: w.events } : World).records = w.records ++ [r] := by
  unfold World.records
  rw [List.reverse_cons, List.filterMap_append]
  rfl

theorem World.records_git (w : World) (call : GitCall) :
    ({ w with events := .git call :: w.events } : World).records = w.records := by
  unfold World.records
  rw [List.reverse_cons, List.filterMap_append]
  exact List.append_nil _

/-- No files, no environment and nothing to read, with a git that does this. -/
def World.bare (git : GitOutcome) : World :=
  ⟨⟨[]⟩, [], [], [], .usual ⟨['/'], []⟩ ⟨['/'], []⟩, .fresh, git, [], [], .usual⟩

/-- A world without git, whose current directory holds these files and nothing else. -/
def World.holding (files : List (Text × Bytes)) : World :=
  { World.bare (.notStarted .missing) with tree := ⟨files.map fun f => ([f.1], .file f.2 false)⟩ }

end EnvAudit

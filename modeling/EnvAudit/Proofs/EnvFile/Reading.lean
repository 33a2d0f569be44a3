import EnvAudit.EnvFile.Reader
import EnvAudit.Proofs.EnvFile.Grammar
import EnvAudit.Proofs.Walk
/-!
# What reading an env file finds

Reading is a walk whose state is the number of the next line and the comment that waits.  The waiting comment is the
note of the nearest line above that is not junk, if that line is a comment with a note (`waiting_iff`).  So the
variables of a text can be told from its lines alone: one for each line that assigns, in order, each as `Declares`
says (`readEnv_onePerAssignment`).
-/
namespace EnvAudit

/-! ## The walk -/

structure ReaderState where
  number : Nat
  waiting : Option Text

def readStep (s : ReaderState) (line : Text) : ReaderState × Option Variable :=
  match classify line with
  | .blank => (⟨s.number + 1, none⟩, none)
  | .comment note => (⟨s.number + 1, note⟩, none)
  | .junk => (⟨s.number + 1, s.waiting⟩, none)
  | .assignment key value => (⟨s.number + 1, none⟩, some ⟨key, value, s.number, s.waiting⟩)

theorem variablesFrom_eq_walk : ∀ (n : Nat) (waiting : Option Text) (ls : List Text),
    variablesFrom n waiting ls = walk readStep ⟨n, waiting⟩ ls
  | _, _, [] => rfl
  | n, waiting, line :: rest => by
    rw [variablesFrom, walk, readStep]
    cases classify line with
    | blank => exact variablesFrom_eq_walk _ _ rest
    | comment note => exact variablesFrom_eq_walk _ _ rest
    | assignment key value => exact congrArg (_ :: ·) (variablesFrom_eq_walk _ _ rest)
    | junk => exact variablesFrom_eq_walk _ _ rest

theorem readEnv_eq_walk (t : Text) : readEnv t = walk readStep ⟨1, none⟩ (lines t) := variablesFrom_eq_walk 1 none _

theorem readStep_number (s : ReaderState) (line : Text) : (readStep s line).1.number = s.number + 1 := by
  unfold readStep
  cases classify line <;> rfl

theorem readStep_eq_some_iff (s : ReaderState) (line : Text) (v : Variable) :
    (readStep s line).2 = some v ↔
      ∃ key value, classify line = .assignment key value ∧ v = ⟨key, value, s.number, s.waiting⟩ := by
  unfold readStep
  cases hline : classify line with
  | assignment key value =>
    constructor
    · intro h
      exact ⟨key, value, rfl, (Option.some.inj h).symm⟩
    · rintro ⟨key', value', h, rfl⟩
      obtain ⟨rfl, rfl⟩ := Line.assignment.inj h
      rfl
  | _ => simp

theorem walkEnd_readStep_number (ls : List Text) (n : Nat) (waiting : Option Text) :
    (walkEnd readStep ⟨n, waiting⟩ ls).number = n + ls.length := by
  refine walkEnd_induct readStep _ (fun ls s => s.number = n + ls.length) rfl (fun ls s line ih => ?_) ls
  rw [readStep_number, ih, List.length_append, List.length_singleton, Nat.add_assoc]

/-! ## The waiting comment -/

/-- The nearest line that is not junk is a comment with this note. -/
def NoteAbove (earlier : List Text) (note : Text) : Prop :=
  ∃ line, Latest (fun l => ¬ JunkLine l) earlier line ∧ CommentLine line note ∧ note ≠ []

theorem noteAbove_concat_of_not_junk {line : Text} (h : ¬ JunkLine line) (earlier : List Text) (note : Text) :
    NoteAbove (earlier ++ [line]) note ↔ CommentLine line note ∧ note ≠ [] := by
  constructor
  · rintro ⟨last, hlast, hnote⟩
    rw [(latest_concat_of_pos _ earlier last h).1 hlast] at hnote
    exact hnote
  · intro hnote
    exact ⟨line, (latest_concat_of_pos (fun l => ¬ JunkLine l) earlier line h).2 rfl, hnote⟩

theorem noteAbove_concat_of_junk {line : Text} (h : JunkLine line) (earlier : List Text) (note : Text) :
    NoteAbove (earlier ++ [line]) note ↔ NoteAbove earlier note :=
  exists_congr fun last => and_congr_left fun _ => latest_concat_of_neg (fun l => ¬ JunkLine l) earlier last (not_not_intro h)

theorem noteAbove_nil (note : Text) : ¬ NoteAbove [] note := fun ⟨line, h, _⟩ => not_latest_nil _ line h

/-- **What waits below some lines** is the note above, if there is one. -/
theorem waiting_iff (ls : List Text) (note : Text) :
    (walkEnd readStep ⟨1, none⟩ ls).waiting = some note ↔ NoteAbove ls note := by
  refine walkEnd_induct readStep _ (fun ls s => ∀ note, s.waiting = some note ↔ NoteAbove ls note)
    (fun note => by simp [noteAbove_nil]) (fun ls s line ih note => ?_) ls note
  have hjunk := classify_junk_iff line
  cases hline : classify line with
  | blank =>
    rw [noteAbove_concat_of_not_junk (fun hj => by rw [hjunk.2 hj] at hline; cases hline)]
    have hnote : ¬ CommentLine line note := fun hc => by rw [classify_of_comment hc] at hline; cases hline
    simp [readStep, hline, hnote]
  | comment said =>
    rw [noteAbove_concat_of_not_junk (fun hj => by rw [hjunk.2 hj] at hline; cases hline)]
    obtain ⟨text, htext, rfl⟩ := (classify_comment_iff line said).1 hline
    have hsame : CommentLine line note ↔ text = note := by
      constructor
      · rintro ⟨rest, hrest, rfl⟩
        obtain ⟨rest', hrest', rfl⟩ := htext
        rw [(List.cons.inj (hrest'.symm.trans hrest)).2]
      · rintro rfl
        exact htext
    rw [hsame]
    simp only [readStep, hline]
    by_cases hnil : text = []
    · subst hnil
      simp only [if_true, reduceCtorEq, false_iff]
      exact fun ⟨heq, hne⟩ => hne heq.symm
    · rw [if_neg hnil, Option.some_inj]
      exact ⟨fun heq => ⟨heq, heq ▸ hnil⟩, And.left⟩
  | assignment key value =>
    rw [noteAbove_concat_of_not_junk (fun hj => by rw [hjunk.2 hj] at hline; cases hline)]
    have hnote : ¬ CommentLine line note := fun hc => by rw [classify_of_comment hc] at hline; cases hline
    simp [readStep, hline, hnote]
  | junk =>
    rw [noteAbove_concat_of_junk (hjunk.1 hline), ← ih note]
    simp [readStep, hline]

/-! ## Variables by line -/

/-- What the line at a place declares, by the grammar and the lines before it. -/
structure Declares (ls : List Text) (i : Nat) (v : Variable) : Prop where
  line : v.line = i + 1
  written : ∃ line rest, ls[i]? = some line ∧ AssignmentLine line v.key rest ∧ Unquoted (trim rest) v.value
  comment : ∀ note, v.comment = some note ↔ NoteAbove (ls.take i) note

theorem resultAt_readStep_iff (ls : List Text) (i : Nat) (v : Variable) :
    ResultAt readStep ⟨1, none⟩ ls i v ↔ ∃ line rest, ls[i]? = some line ∧ AssignmentLine line v.key rest ∧
      Unquoted (trim rest) v.value ∧ v.line = i + 1 ∧ v.comment = (walkEnd readStep ⟨1, none⟩ (ls.take i)).waiting := by
  have hnumber : ∀ line, ls[i]? = some line → (walkEnd readStep ⟨1, none⟩ (ls.take i)).number = i + 1 := by
    intro line hline
    have hi : i < ls.length := (List.getElem?_eq_some_iff.1 hline).1
    rw [walkEnd_readStep_number, List.length_take_of_le (Nat.le_of_lt hi), Nat.add_comm]
  constructor
  · rintro ⟨line, hline, hv⟩
    obtain ⟨key, value, hclass, rfl⟩ := (readStep_eq_some_iff _ line v).1 hv
    obtain ⟨rest, hassign, hvalue⟩ := (classify_assignment_iff line key value).1 hclass
    refine ⟨line, rest, hline, hassign, hvalue, ?_, rfl⟩
    rw [hnumber line hline]
    rfl
  · rintro ⟨line, rest, hline, hassign, hvalue, hplace, hcomment⟩
    refine ⟨line, hline, (readStep_eq_some_iff _ line v).2 ⟨v.key, v.value, ?_, ?_⟩⟩
    · exact (classify_assignment_iff line v.key v.value).2 ⟨rest, hassign, hvalue⟩
    · rw [hnumber line hline, ← hcomment, show ((i + 1 : Nat) : Int) = v.line from hplace.symm]

/-- **The variables of a text**: one for each line that assigns, in order, and each is what its line declares. -/
theorem readEnv_onePerAssignment (t : Text) :
    OnePerPlace (fun i => ∃ line key rest, (lines t)[i]? = some line ∧ AssignmentLine line key rest)
      (Declares (lines t)) (readEnv t) := by
  rw [readEnv_eq_walk]
  refine (onePerPlace_walk readStep ⟨1, none⟩ (lines t)).congr (fun i => ?_) (fun i v h => ?_)
  · constructor
    · rintro ⟨v, hv⟩
      obtain ⟨line, rest, hline, hassign, -⟩ := (resultAt_readStep_iff (lines t) i v).1 hv
      exact ⟨line, v.key, rest, hline, hassign⟩
    · rintro ⟨line, key, rest, hline, hassign⟩
      exact ⟨⟨key, unquote (trim rest), i + 1, _⟩, (resultAt_readStep_iff (lines t) i _).2
        ⟨line, rest, hline, hassign, (unquote_iff _ _).1 rfl, rfl, rfl⟩⟩
  · obtain ⟨line, rest, hline, hassign, hvalue, hplace, hcomment⟩ := (resultAt_readStep_iff (lines t) i v).1 h
    refine ⟨hplace, ⟨line, rest, hline, hassign, hvalue⟩, fun note => ?_⟩
    rw [hcomment]
    exact waiting_iff ((lines t).take i) note

end EnvAudit

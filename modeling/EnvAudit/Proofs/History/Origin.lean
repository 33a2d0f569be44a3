import EnvAudit.Proofs.History.Findings
/-!
# Where the path of a finding comes from

In a history each file has a section of its own, which begins with a line that says so.  The scan does not look for these
lines: it reports the path that was named last, also where a section has begun since (`NamedElsewhere`).  Which path is
reported where can be told by going along the lines in a walk of its own beside the scan, whose state is where the path
comes from (`Origin`, `tells_walkEnd`).  So the findings of a log have paths of their own sections exactly if that walk
meets no line that is known with a path from elsewhere (`takesOwnPaths_iff`).
-/
namespace EnvAudit

/-! ## Paths of another section -/

def sectionLead : Text := "diff --git ".toList

/-- A path has been named, a section has begun since, and nothing has named a path behind its beginning. -/
def NamedElsewhere (earlier : List Text) : Prop :=
  ∃ before start after, earlier = before ++ start :: after ∧ sectionLead <+: start ∧
    (∃ line ∈ before, fileLead <+: line) ∧ ∀ line ∈ after, ¬ fileLead <+: line

/-- No finding has its path from the header of another section than the one its line is in. -/
def TakesOwnPaths (table : List Signature) (log : Text) : Prop :=
  OnePerPlace (AddsKnown table (logLines log))
    (fun i f => Reports table (logLines log) i f ∧ ¬ NamedElsewhere ((logLines log).take i)) (scanHistory table log)

theorem not_sectionLead_of_fileLead {line : Text} (h : fileLead <+: line) : ¬ sectionLead <+: line := by
  obtain ⟨path, rfl⟩ := h
  rintro ⟨rest, hrest⟩
  cases hrest

theorem namedElsewhere_nil : ¬ NamedElsewhere [] := by
  rintro ⟨before, start, after, h, -⟩
  exact List.append_ne_nil_of_right_ne_nil before (List.cons_ne_nil start after) h.symm

theorem NamedElsewhere.named {earlier : List Text} (h : NamedElsewhere earlier) :
    ∃ line ∈ earlier, fileLead <+: line := by
  obtain ⟨before, start, after, rfl, -, ⟨line, hline, hlead⟩, -⟩ := h
  exact ⟨line, List.mem_append_left _ hline, hlead⟩

theorem namedElsewhere_concat_iff {earlier : List Text} {line : Text} : NamedElsewhere (earlier ++ [line]) ↔
    sectionLead <+: line ∧ (∃ l ∈ earlier, fileLead <+: l) ∨ ¬ fileLead <+: line ∧ NamedElsewhere earlier := by
  constructor
  · rintro ⟨before, start, after, heq, hstart, hnamed, hafter⟩
    obtain ⟨rfl, rfl, rfl⟩ | ⟨after, rfl, rfl⟩ := concat_eq_append_cons_iff.1 heq
    · exact .inl ⟨hstart, hnamed⟩
    · obtain ⟨hbehind, hline⟩ := List.forall_mem_append.1 hafter
      exact .inr ⟨hline line (List.mem_singleton_self line), before, start, after, rfl, hstart, hnamed, hbehind⟩
  · rintro (⟨hstart, hnamed⟩ | ⟨hline, before, start, after, rfl, hstart, hnamed, hafter⟩)
    · exact ⟨earlier, line, [], rfl, hstart, hnamed, nofun⟩
    · refine ⟨before, start, after ++ [line], by simp, hstart, hnamed, List.forall_mem_append.2 ⟨hafter, ?_⟩⟩
      exact List.forall_mem_singleton.2 hline

/-! ## Where the path comes from -/

inductive Origin where
  /-- Nothing has named a path. -/
  | nowhere
  | here
  | elsewhere
  deriving DecidableEq

/-- A path that has been named is another section's once a section begins. -/
def Origin.atStart : Origin → Origin
  | .nowhere => .nowhere
  | _ => .elsewhere

def Origin.behind (o : Origin) (line : Text) : Origin :=
  if fileLead <+: line then .here else if sectionLead <+: line then o.atStart else o

/-- Whether a line is reported. -/
def addsKnown (table : List Signature) : Text → Bool
  | '+' :: content => !startsWith "++".toList content && (firstMatch table content).isSome
  | _ => false

def originStep (table : List Signature) (o : Origin) (line : Text) : Origin × Option Origin :=
  (o.behind line, if addsKnown table line then some o else none)

def origins (table : List Signature) (ls : List Text) : List Origin := walk (originStep table) .nowhere ls

theorem addsKnown_cons_iff {table : List Signature} {content : Text} : addsKnown table ('+' :: content) = true ↔
    ¬ headerLead <+: '+' :: content ∧ ∃ s ∈ table, s.matches content = true := by
  have hheader : headerLead <+: '+' :: content ↔ "++".toList <+: content := List.prefix_cons_inj '+'
  rw [addsKnown, Bool.and_eq_true, Bool.not_eq_true', Bool.eq_false_iff, ne_eq, startsWith_iff, hheader,
    firstMatch_isSome_iff]

theorem addsKnown_of_not_plus {table : List Signature} {line : Text} (h : ¬ ['+'] <+: line) :
    addsKnown table line = false := by
  unfold addsKnown
  split
  · rename_i content
    exact absurd ⟨content, rfl⟩ h
  · rfl

theorem addsKnown_iff {table : List Signature} {ls : List Text} {i : Nat} :
    AddsKnown table ls i ↔ ∃ line, ls[i]? = some line ∧ addsKnown table line = true := by
  constructor
  · rintro ⟨content, ⟨hline, hheader⟩, hknown⟩
    exact ⟨_, hline, addsKnown_cons_iff.2 ⟨hheader, hknown⟩⟩
  · rintro ⟨line, hline, hknown⟩
    have hplus : ['+'] <+: line := by
      by_contra h
      rw [addsKnown_of_not_plus h] at hknown
      cases hknown
    obtain ⟨content, rfl⟩ := hplus
    obtain ⟨hheader, hknown⟩ := addsKnown_cons_iff.1 hknown
    exact ⟨content, ⟨hline, hheader⟩, hknown⟩

theorem Origin.atStart_eq_nowhere_iff {o : Origin} : o.atStart = .nowhere ↔ o = .nowhere := by
  cases o <;> decide

theorem Origin.atStart_eq_elsewhere_iff {o : Origin} : o.atStart = .elsewhere ↔ o ≠ .nowhere := by
  cases o <;> decide

/-- What is known of some lines where the path of the next one comes from here. -/
structure Origin.Tells (o : Origin) (earlier : List Text) : Prop where
  nowhere : o = .nowhere ↔ ∀ line ∈ earlier, ¬ fileLead <+: line
  elsewhere : o = .elsewhere ↔ NamedElsewhere earlier

theorem Origin.Tells.named {o : Origin} {earlier : List Text} (h : o.Tells earlier) :
    o ≠ .nowhere ↔ ∃ line ∈ earlier, fileLead <+: line := by
  rw [ne_eq, h.nowhere]
  push Not
  rfl

theorem Origin.Tells.concat {o : Origin} {earlier : List Text} (h : o.Tells earlier) (line : Text) :
    (o.behind line).Tells (earlier ++ [line]) := by
  unfold Origin.behind
  by_cases hfile : fileLead <+: line
  · have hstart := not_sectionLead_of_fileLead hfile
    rw [if_pos hfile]
    constructor
    · exact iff_of_false nofun fun hnone => hnone line (by simp) hfile
    · rw [namedElsewhere_concat_iff]
      exact iff_of_false nofun fun helsewhere => helsewhere.elim (fun h => hstart h.1) fun h => h.1 hfile
  · have hnowhere : (∀ l ∈ earlier ++ [line], ¬ fileLead <+: l) ↔ ∀ l ∈ earlier, ¬ fileLead <+: l := by
      rw [List.forall_mem_append, List.forall_mem_singleton, and_iff_left hfile]
    rw [if_neg hfile]
    by_cases hstart : sectionLead <+: line
    · rw [if_pos hstart]
      constructor
      · rw [Origin.atStart_eq_nowhere_iff, hnowhere, h.nowhere]
      · rw [Origin.atStart_eq_elsewhere_iff, namedElsewhere_concat_iff, and_iff_right hstart, and_iff_right hfile,
          h.named]
        exact (or_iff_left_of_imp NamedElsewhere.named).symm
    · rw [if_neg hstart]
      constructor
      · rw [hnowhere, h.nowhere]
      · rw [namedElsewhere_concat_iff, and_iff_right hfile, or_iff_right fun h => hstart h.1, h.elsewhere]

/-- **The state behind some lines** tells where the path comes from. -/
theorem tells_walkEnd (table : List Signature) (ls : List Text) :
    (walkEnd (originStep table) .nowhere ls).Tells ls :=
  walkEnd_induct (originStep table) _ (fun ls o => o.Tells ls)
    ⟨iff_of_true rfl nofun, iff_of_false nofun namedElsewhere_nil⟩ (fun _ _ line ih => ih.concat line) ls

theorem elsewhere_mem_origins_iff {table : List Signature} {ls : List Text} : .elsewhere ∈ origins table ls ↔
    ∃ i, AddsKnown table ls i ∧ NamedElsewhere (ls.take i) := by
  have hresult : ∀ i, ResultAt (originStep table) .nowhere ls i .elsewhere ↔
      AddsKnown table ls i ∧ NamedElsewhere (ls.take i) := by
    intro i
    rw [addsKnown_iff, ← (tells_walkEnd table (ls.take i)).elsewhere]
    unfold ResultAt originStep
    simp only [Option.ite_none_right_eq_some, Option.some.injEq]
    exact ⟨fun ⟨line, hline, hknown, ho⟩ => ⟨⟨line, hline, hknown⟩, ho⟩,
      fun ⟨⟨line, hline, hknown⟩, ho⟩ => ⟨line, hline, hknown, ho⟩⟩
  unfold origins
  rw [mem_walk_iff]
  exact exists_congr hresult

theorem Reports.addsKnown {table : List Signature} {ls : List Text} {i : Nat} {f : HistoryFinding}
    (h : Reports table ls i f) : AddsKnown table ls i := by
  obtain ⟨content, s, hadds, -, ⟨hmatches, before, after, htable, -⟩, -⟩ := h.content
  exact ⟨content, hadds, s, by simp [htable], hmatches⟩

/-- **The findings take their own paths** if nothing that is known is met with a path from elsewhere. -/
theorem takesOwnPaths_iff {table : List Signature} {log : Text} :
    TakesOwnPaths table log ↔ .elsewhere ∉ origins table (logLines log) := by
  rw [elsewhere_mem_origins_iff]
  constructor
  · rintro h ⟨i, hknown, helsewhere⟩
    obtain ⟨f, -, -, hown⟩ := h.exists_of_place hknown
    exact hown helsewhere
  · intro h
    refine (scanHistory_onePerMatch table log).congr (fun _ => Iff.rfl) fun i f hf => ⟨hf, fun helsewhere => ?_⟩
    exact h ⟨i, hf.addsKnown, helsewhere⟩

end EnvAudit

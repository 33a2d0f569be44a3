import EnvAudit.Proofs.Command.Line
/-!
# Lines that set a setting

A line that sets a field and is done has changed that field of the user's file and nothing else in it
(`exists_saved_of_runLine`).  So what such lines have left, one after the other and whatever else the worlds are in
which they ran, is loaded as what was set last of every field, brought to its type, and the defaults of the others
(`World.SetBy.exists_saved`).
-/
namespace EnvAudit

open Session

/-! ## One line -/

theorem userSettings_behind (w : World) (level : Option Text) (es : List Event) :
    (w.behind (w.prepared level) es).userSettings = w.userSettings := by
  obtain ⟨loaded, hstore⟩ := exists_store_prepared w level
  unfold World.behind
  rw [hstore]
  rfl

/-- A change that is reported as done was made; showing it leaves the file alone. -/
theorem set_of_changeSetting {w : World} {key value : Text}
    (h : exitStatus (outcome (changeSetting key value) w).1 = done) :
    (SettingsCall.set key (.text value)).answer w = .ok .done ∧
      (outcome (changeSetting key value) w).2.userBytes? = (w.after (.set key (.text value))).userBytes? := by
  obtain ⟨v, w'', haction, hends⟩ := exists_of_orComplain_done h
  obtain ⟨_, w', hset, hget⟩ := exists_of_outcome_bind_ok haction
  have hasked := World.userBytes?_after_of_ask (c := .load) rfl w'
  obtain ⟨s, w₁, hload, hv⟩ := exists_of_outcome_bind_ok hget
  have hafter : w'.after .load = w'' := by
    unfold World.after SettingsCall.session
    rw [outcome_bind_of_ok hload]
    cases hv
    rfl
  unfold SettingsCall.answer World.after changeSetting
  rw [SettingsCall.outcome_set, hset, hends, outcome_bind, outcome_plainText]
  rw [hafter] at hasked
  cases v.plainWithin w''.host.shownLevels with
  | error e => exact ⟨rfl, hasked⟩
  | ok t => exact ⟨rfl, hasked⟩

/-- **A line that is done** has saved what it sets. -/
theorem exists_saved_of_runLine {w : World} {words : List Text} {level : Option Text} {key value : Text}
    (hasks : w.Asks words level (.setSetting key value)) (hdone : exitStatus (outcome (runLine words) w).1 = done) :
    ∃ f u s, Field.named? key = some f ∧ f.coerceText value = .ok u ∧ w.userSettings = .ok s ∧
      (outcome (runLine words) w).2.userBytes? = some (encode (settingsJson (s.set f u))) := by
  obtain ⟨es, -, hline⟩ := exists_outcome_runLine hasks
  rw [hline] at hdone ⊢
  cases hready : (w.prepared level).result with
  | error e =>
    rw [hready] at hdone
    cases hdone
  | ok _ =>
    rw [hready] at hdone
    obtain ⟨hanswer, hbytes⟩ := set_of_changeSetting hdone
    have hleads := setLeads (w.behind (w.prepared level) es) key (.text value)
    rw [hanswer] at hleads
    cases hleads with
    | saved _ hf hu hs hwritten hsaved =>
      rw [userSettings_behind] at hs
      rw [coerce_text hf] at hu
      rw [eq_settingsJson_of_settingsWritten hwritten] at hsaved
      exact ⟨_, _, _, hf, hu, hs, hbytes.trans hsaved⟩

/-! ## Lines in a row -/

/-- There was no user's file, and lines that were done have set these fields since, the latest first. -/
inductive World.SetBy : World → Overrides → Prop
  | absent {w : World} (h : w.tree.exists? w.cwd w.settings.userFile = .ok false) : SetBy w []
  | line {w w' : World} {sets : Overrides} {words : List Text} {level : Option Text} {f : Field} {t : Text}
      (h : SetBy w sets) (hasks : w.Asks words level (.setSetting f.name t))
      (hdone : exitStatus (outcome (runLine words) w).1 = done)
      (hfile : w'.userBytes? = (outcome (runLine words) w).2.userBytes?) : SetBy w' ((f, t) :: sets)

/-- Every field is what was set last, brought to its type, or its default. -/
structure SavedBy (sets : Overrides) (s : Settings) : Prop where
  unset : ∀ f, overrideOf sets f = none → s.get f = f.usual
  set : ∀ f t, overrideOf sets f = some t → f.coerceText t = .ok (s.get f)

theorem savedBy_nil : SavedBy [] .usual := ⟨fun f _ => Settings.get_ofFields _ f, nofun⟩

theorem SavedBy.cons {sets : Overrides} {s : Settings} (h : SavedBy sets s) {f : Field} {t : Text} {u : Value}
    (hu : f.coerceText t = .ok u) : SavedBy ((f, t) :: sets) (s.set f u) := by
  constructor
  · intro g hg
    rw [overrideOf_cons] at hg
    rw [Settings.get_set]
    by_cases hfg : f = g
    · rw [if_pos hfg] at hg
      cases hg
    · rw [if_neg hfg] at hg
      rw [if_neg (Ne.symm hfg)]
      exact h.unset g hg
  · intro g t' hg
    rw [overrideOf_cons] at hg
    rw [Settings.get_set]
    by_cases hfg : f = g
    · subst hfg
      rw [if_pos rfl] at hg ⊢
      obtain rfl := Option.some.inj hg
      exact hu
    · rw [if_neg hfg] at hg
      rw [if_neg (Ne.symm hfg)]
      exact h.set g t' hg

/-- **What lines have set** is what is loaded of the user's file. -/
theorem World.SetBy.exists_saved {w : World} {sets : Overrides} (h : w.SetBy sets) :
    ∃ s, w.userSettings = .ok s ∧ (∀ levels f, Plain levels (s.get f)) ∧ SavedBy sets s := by
  induction h with
  | absent h =>
    have hplain (levels : Nat) (f : Field) : Plain levels (Settings.usual.get f) := by
      rw [Settings.usual, Settings.get_ofFields]
      exact plain_usual f
    exact ⟨.usual, userSettings_of_absent h, hplain, savedBy_nil⟩
  | @line w w' sets words level f t h hasks hdone hfile ih =>
    obtain ⟨s, hs, hplain, hsaved⟩ := ih
    obtain ⟨f', u, s', hf', hu, hs', hbytes⟩ := exists_saved_of_runLine hasks hdone
    obtain rfl : f' = f := Option.some.inj (hf'.symm.trans (named?_eq_some_iff.2 rfl))
    obtain rfl : s' = s := Except.ok.inj (hs'.symm.trans hs)
    have hfields (levels : Nat) (g : Field) : Plain levels ((s'.set f' u).get g) := by
      rw [Settings.get_set]
      split
      · exact plain_of_coerceText hu
      · exact hplain levels g
    obtain ⟨levels, hlevels⟩ := Nat.exists_eq_add_one_of_ne_zero w'.host.jsonLevels_pos.ne'
    refine ⟨s'.set f' u, ?_, hfields, hsaved.cons hu⟩
    rw [userSettings_of_some (hfile.trans hbytes), hlevels, settingsOfBytes_encode_settingsJson (hfields levels)]

end EnvAudit

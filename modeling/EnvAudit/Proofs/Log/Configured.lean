import EnvAudit.Log.Logger
import EnvAudit.Proofs.Text.Utf8
import EnvAudit.Text.LetterCase
/-!
# Loggers that are configured again

A logger is configured by every call that asks for it, with a level that any text may name.  Whether the name stands for
a level is noticed only where the level is to be set, so a call that is refused stops behind the handler it has added.
Yet no mix of calls takes the level of the logger and that of its handler apart (`callEnds_after`): what every call
keeps is that the logger, once it has a handler, has one, and at its own level (`Logger.IsEven`).
-/
namespace EnvAudit

/-! ## Names in any letter case -/

/-- A text that is a name but for the case of its letters: each is a capital, the small letter of one, or a letter
beyond ASCII that has these capitals. -/
inductive InAnyCase : Text → Text → Prop
  | nil : InAnyCase [] []
  | same (c : Char) {t name : Text} (h : InAnyCase t name) : InAnyCase (c :: t) (c :: name)
  | small (c : Char) {t name : Text} (h : InAnyCase t name) : InAnyCase (asciiLower c :: t) (c :: name)
  | foreign {c : Char} {cs t name : Text} (hc : (c, cs) ∈ foreignCapitals) (h : InAnyCase t name) :
      InAnyCase (c :: t) (cs ++ name)

theorem capital_of_mem_foreignCapitals {c : Char} {cs : Text} (h : (c, cs) ∈ foreignCapitals) : capital c = cs := by
  have hall : ∀ x ∈ foreignCapitals, capital x.1 = x.2 := by decide
  exact hall _ h

theorem asciiLower_capital {c : Char} (h : isAsciiLower c = true) : asciiLower (Char.ofNat (c.toNat - 32)) = c := by
  unfold isAsciiLower at h
  simp only [Bool.and_eq_true, decide_eq_true_eq] at h
  have hcode : (Char.ofNat (c.toNat - 32)).toNat = c.toNat - 32 := toNat_ofNat_of_valid (by omega)
  have hupper : isAsciiUpper (Char.ofNat (c.toNat - 32)) = true := by
    unfold isAsciiUpper
    rw [hcode, Bool.and_eq_true, decide_eq_true_eq, decide_eq_true_eq]
    omega
  unfold asciiLower
  rw [if_pos hupper, hcode, Nat.sub_add_cancel (by omega), Char.ofNat_toNat]

/-- The small letter of a capital has that capital. -/
theorem capital_asciiLower {c : Char} (h : capital c = [c]) : capital (asciiLower c) = [c] := by
  unfold asciiLower
  split
  · rename_i hupper
    unfold isAsciiUpper at hupper
    simp only [Bool.and_eq_true, decide_eq_true_eq] at hupper
    have hcode : (Char.ofNat (c.toNat + 32)).toNat = c.toNat + 32 := toNat_ofNat_of_valid (by omega)
    have hlower : isAsciiLower (Char.ofNat (c.toNat + 32)) = true := by
      unfold isAsciiLower
      rw [hcode, Bool.and_eq_true, decide_eq_true_eq, decide_eq_true_eq]
      omega
    unfold capital
    rw [if_pos hlower, hcode, Nat.add_sub_cancel, Char.ofNat_toNat]
  · exact h

theorem capitals_cons (c : Char) (t : Text) : capitals (c :: t) = capital c ++ capitals t := List.flatMap_cons

theorem inAnyCase_capitals : ∀ t : Text, InAnyCase t (capitals t)
  | [] => .nil
  | c :: t => by
    have hrest := inAnyCase_capitals t
    rw [capitals_cons]
    unfold capital
    split
    · rename_i hlower
      have hsmall := InAnyCase.small (Char.ofNat (c.toNat - 32)) hrest
      rwa [asciiLower_capital hlower] at hsmall
    · cases hfind : foreignCapitals.find? fun x => x.1 = c with
      | none => exact .same c hrest
      | some x =>
        have hx := List.find?_some hfind
        obtain rfl : x.1 = c := of_decide_eq_true hx
        exact .foreign (List.mem_of_find?_eq_some hfind) hrest

/-- **A name of capitals** is written in some case exactly by the texts with these capitals. -/
theorem inAnyCase_iff {t name : Text} (hname : ∀ c ∈ name, capital c = [c]) :
    InAnyCase t name ↔ capitals t = name := by
  constructor
  · intro h
    induction h with
    | nil => rfl
    | same c h ih =>
      obtain ⟨hc, hrest⟩ := List.forall_mem_cons.1 hname
      rw [capitals_cons, hc, ih hrest, List.singleton_append]
    | small c h ih =>
      obtain ⟨hc, hrest⟩ := List.forall_mem_cons.1 hname
      rw [capitals_cons, capital_asciiLower hc, ih hrest, List.singleton_append]
    | foreign hc h ih =>
      rw [capitals_cons, capital_of_mem_foreignCapitals hc, ih (List.forall_mem_append.1 hname).2]
  · rintro rfl
    exact inAnyCase_capitals t

/-! ## Levels that are named -/

/-- What a call is given for a level.  No text, and a text that is no name, stand for `INFO`. -/
inductive NamesLevel : Option Text → NamedLevel → Prop
  | missing : NamesLevel none (.level .info)
  | known {t name : Text} {n : NamedLevel} (hname : (name, n) ∈ levelNames) (hcase : InAnyCase t name) :
      NamesLevel (some t) n
  | unknown {t : Text} (h : ∀ x ∈ levelNames, ¬ InAnyCase t x.1) : NamesLevel (some t) (.level .info)

theorem inAnyCase_levelName_iff {x : Text × NamedLevel} (hx : x ∈ levelNames) (t : Text) :
    InAnyCase t x.1 ↔ x.1 = capitals t := by
  have hcapitals : ∀ y ∈ levelNames, y.1.all (fun c => capital c = [c]) = true := by decide
  have hname : ∀ c ∈ x.1, capital c = [c] := fun c hc => of_decide_eq_true (List.all_eq_true.1 (hcapitals x hx) c hc)
  exact (inAnyCase_iff hname).trans eq_comm

/-- **What is named** in any case is what is looked up. -/
theorem namesLevel_iff {given : Option Text} {n : NamedLevel} : NamesLevel given n ↔ namedLevel given = n := by
  unfold namedLevel
  constructor
  · intro h
    cases h with
    | missing => decide
    | @known t name n hname hcase =>
      have honce : ∀ x ∈ levelNames, levelNames.find? (fun y => y.1 = x.1) = some x := by decide
      have hcapitals : name = capitals t := (inAnyCase_levelName_iff hname t).1 hcase
      rw [Option.getD_some, ← hcapitals, honce _ hname]
      rfl
    | @unknown t h =>
      have hnone : levelNames.find? (fun y => y.1 = capitals t) = none :=
        List.find?_eq_none.2 fun x hx hfound =>
          h x hx ((inAnyCase_levelName_iff hx t).2 (of_decide_eq_true hfound))
      rw [Option.getD_some, hnone]
      rfl
  · rintro rfl
    cases given with
    | none => exact .missing
    | some t =>
      rw [Option.getD_some]
      cases hfind : levelNames.find? fun y => y.1 = capitals t with
      | none =>
        refine .unknown fun x hx hcase => ?_
        exact List.find?_eq_none.1 hfind x hx (decide_eq_true ((inAnyCase_levelName_iff hx t).1 hcase))
      | some x =>
        have hx := List.mem_of_find?_eq_some hfind
        have hname := List.find?_some hfind
        exact .known hx ((inAnyCase_levelName_iff hx t).2 (of_decide_eq_true hname))

/-! ## Calls -/

namespace Logger

/-- A logger that has one handler once it has any, at its own level. -/
def IsEven (l : Logger) : Prop := l.withHandler.handlers = [l.level]

def after (l : Logger) (names : List (Option Text)) : Logger := names.foldl (fun l name => (l.configure name).2) l

end Logger

/-- How a call ends: with the level that is named, or, where it is refused, with all levels as they were. -/
inductive CallEnds (l : Logger) (given : Option Text) : Option Failure × Logger → Prop
  | set {v : Level} (h : NamesLevel given (.level v)) : CallEnds l given (none, ⟨v, [v]⟩)
  | refused {f : Failure} (h : NamesLevel given (.refused f)) (hkept : ∀ v ∈ l.handlers, v = l.level) :
      CallEnds l given (some f, ⟨l.level, [l.level]⟩)

namespace Logger

theorem isEven_fresh : fresh.IsEven := rfl

theorem withHandler_level (l : Logger) : l.withHandler.level = l.level := by
  unfold withHandler
  split <;> rfl

theorem IsEven.withHandler_eq {l : Logger} (h : l.IsEven) : l.withHandler = ⟨l.level, [l.level]⟩ := by
  have hlevel := l.withHandler_level
  unfold IsEven at h
  generalize l.withHandler = handled at h hlevel ⊢
  obtain ⟨level, handlers⟩ := handled
  rw [← h, ← hlevel]

/-- The handlers that are there are at the level of the logger. -/
theorem IsEven.eq_level_of_mem {l : Logger} (h : l.IsEven) {v : Level} (hv : v ∈ l.handlers) : v = l.level := by
  have hhandled : l.withHandler = l := by
    unfold withHandler
    rw [if_neg (by simpa using List.ne_nil_of_mem hv)]
  unfold IsEven at h
  rw [hhandled] at h
  rw [h] at hv
  exact List.mem_singleton.1 hv

/-- **One call** on a logger that is even. -/
theorem IsEven.callEnds {l : Logger} (h : l.IsEven) (given : Option Text) : CallEnds l given (l.configure given) := by
  cases hnamed : namedLevel given with
  | level v =>
    rw [configure_of_level hnamed, h.withHandler_eq]
    exact .set (namesLevel_iff.2 hnamed)
  | refused f =>
    rw [configure_of_refused hnamed, h.withHandler_eq]
    exact .refused (namesLevel_iff.2 hnamed) fun v hv => h.eq_level_of_mem hv

end Logger

theorem CallEnds.isEven {l : Logger} {given : Option Text} {ending : Option Failure × Logger}
    (h : CallEnds l given ending) : ending.2.IsEven := by
  cases h with
  | set => rfl
  | refused => rfl

theorem Logger.IsEven.after : ∀ (names : List (Option Text)) {l : Logger}, l.IsEven → (l.after names).IsEven
  | [], _, h => h
  | given :: names, _, h => IsEven.after names (h.callEnds given).isEven

/-- **Whatever calls came before**, a call leaves one handler, at the level of the logger: the level that is named, or
the level that was there if the name is refused. -/
theorem callEnds_after (earlier : List (Option Text)) (given : Option Text) :
    CallEnds (Logger.fresh.after earlier) given ((Logger.fresh.after earlier).configure given) :=
  (Logger.isEven_fresh.after earlier).callEnds given

/-- A refused name as the first call, and as the last of several. -/
example : Logger.fresh.after [some "basic_format".toList] = ⟨.notSet, [.notSet]⟩ ∧
    Logger.fresh.after [none, some "Fatal".toList, some "_styles".toList] = ⟨.critical, [.critical]⟩ := by decide

end EnvAudit

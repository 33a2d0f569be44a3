import EnvAudit.Proofs.Json.Reading
import EnvAudit.Proofs.Settings.Layers
/-!
# Corrupted files

A user's file that is no JSON object is meant to say nothing, so that the defaults are loaded.  That is what happens if
its bytes spell a text, unless the reader meets an integer that is too long, for which so many digits have to stand in
a row, or comes to the end of its levels, for which so many brackets have to be opened (`corruptLoads`); bytes that spell
no text keep every setting from being loaded (`not_corruptLoads_usual`).
-/
namespace EnvAudit

open Session

/-- No JSON object, or not in UTF-8. -/
def IsCorrupt (content : Bytes) : Prop := ∀ t, encode t = content → ¬ IsJsonObject t

/-- How settings are loaded of a corrupted file. -/
inductive CorruptLoads (levels : Nat) (content : Bytes) : Except Halt Settings → Prop
  | undecodable (h : ∀ t, encode t ≠ content) : CorruptLoads levels content (.error (.failure .undecodable))
  | tooLong {t : Text} (ht : encode t = content) (hread : readJson levels (unifyNewlines t) = .error .integerTooLong)
      (hlong : HasLongNumeral t) : CorruptLoads levels content (.error (.failure .badValue))
  | tooDeep {t : Text} (ht : encode t = content) (hread : readJson levels (unifyNewlines t) = .error .tooDeep)
      (hdeep : levels ≤ bracketsOpened t) : CorruptLoads levels content (.error (.failure .tooDeep))
  | usual {t : Text} (ht : encode t = content) (hshort : readJson levels (unifyNewlines t) ≠ .error .integerTooLong)
      (hflat : readJson levels (unifyNewlines t) ≠ .error .tooDeep) : CorruptLoads levels content (.ok .usual)

theorem corruptLoads_settingsOfBytes (levels : Nat) {content : Bytes} (h : IsCorrupt content) :
    CorruptLoads levels content ((settingsOfBytes levels content).mapError Halt.failure) := by
  unfold settingsOfBytes
  cases hdecoded : decodeStrict content with
  | none =>
    refine .undecodable fun t ht => ?_
    rw [← ht, decodeStrict_encode] at hdecoded
    cases hdecoded
  | some t =>
    have ht := encode_of_decodeStrict hdecoded
    have hreads := documentReads levels t
    dsimp only
    unfold settingsOfText
    generalize hread : readJson levels (unifyNewlines t) = result at hreads
    cases hreads with
    | malformed => exact .usual ht (by rw [hread]; nofun) (by rw [hread]; nofun)
    | tooLong hlong => exact .tooLong ht hread hlong
    | tooDeep hdeep => exact .tooDeep ht hread hdeep
    | @document v hdocument hobject =>
      have hsettings : Settings.ofValue? v = none := by
        cases v with
        | map es => exact absurd (hobject es rfl) (h t ht)
        | _ => rfl
      dsimp only
      rw [hsettings]
      exact .usual ht (by rw [hread]; nofun) (by rw [hread]; nofun)

/-- **A corrupted file says nothing**, if its bytes spell a text, no integer in it is too long and it does not go too
deep.  Otherwise nothing can be loaded. -/
theorem corruptLoads {w : World} (hfirst : w.settings.loaded = none) (hover : w.NotOverridden) {content : Bytes}
    (hbytes : w.userBytes? = some content) (h : IsCorrupt content) :
    CorruptLoads w.host.jsonLevels content (loadSettings.outcome w).1 := by
  rw [hover.loadSettings_eq hfirst, userSettings_of_some hbytes]
  exact corruptLoads_settingsOfBytes _ h

theorem isCorrupt_encode {t : Text} (h : '\x7b' ∉ t) : IsCorrupt (encode t) := by
  intro u hu hobject
  obtain rfl : u = t := Option.some.inj (by rw [← decodeStrict_encode u, hu, decodeStrict_encode])
  obtain ⟨b, m, b', rfl, -⟩ := hobject
  exact h (by simp)

/-- A list that has lost its end. -/
theorem corruptLoads_unended : IsCorrupt (encode "[1".toList) ∧
    CorruptLoads 990 (encode "[1".toList) (loadSettings.outcome (userFileWorld (encode "[1".toList))).1 := by
  have hcorrupt := isCorrupt_encode (t := "[1".toList) (by decide)
  exact ⟨hcorrupt, corruptLoads rfl (notOverridden_userFileWorld _) rfl hcorrupt⟩

/-- **One byte that begins no character** keeps the defaults from being loaded. -/
theorem not_corruptLoads_usual : ¬ ∀ (w : World) (content : Bytes), w.settings.loaded = none → w.NotOverridden →
    w.userBytes? = some content → IsCorrupt content → (loadSettings.outcome w).1 = .ok .usual := by
  intro husual
  have hcorrupt : IsCorrupt [0xff] := by
    intro t ht
    have hdecoded : decodeStrict [0xff] = none := by decide
    rw [← ht, decodeStrict_encode] at hdecoded
    cases hdecoded
  have hload := husual (userFileWorld [0xff]) _ rfl (notOverridden_userFileWorld _) rfl hcorrupt
  rw [(notOverridden_userFileWorld _).loadSettings_eq rfl, userSettings_of_some rfl] at hload
  cases hload

end EnvAudit

import EnvAudit.Proofs.EnvFile.Reading
import EnvAudit.Proofs.History.Printed
import EnvAudit.Proofs.Signature.Rank
/-!
# Env files in a history

Where an env file is new in a history, each of its lines is printed with `+` in front.  The reader of env files and the
scanner look at different texts then: the one at a value without the white space and the quotes around it, the other at
the whole line without returns.  The value is a part of the line, and a line that assigns looks like no header, so
the scanner finds every line whose value a signature knows, and ranks it no later (`scanHistory_addedText`).
-/
namespace EnvAudit

/-! ## Lines that are added -/

def addedText (ls : List Text) : Text := unlines (ls.map ('+' :: ·))

theorem scanHistory_addedText_eq_walk (table : List Signature) : ∀ (ls : List Text), (∀ line ∈ ls, '\n' ∉ line) →
    scanHistory table (addedText ls) = walk (scanStep table) ⟨[], []⟩ (ls.map ('+' :: ·))
  | [], _ => by
    rw [scanHistory_eq_walk]
    exact (walks_idle table ⟨[], []⟩ [[]] fun _ h => idle_of_mem_blank h).results
  | line :: ls, h => by
    have hlines : lines (addedText (line :: ls)) = (line :: ls).map ('+' :: ·) := by
      refine splitOn_joinWith '\n' _ (List.cons_ne_nil _ _) fun p hp => ?_
      obtain ⟨l, hl, rfl⟩ := List.mem_map.1 hp
      exact List.not_mem_cons_of_ne_of_not_mem (by decide) (h l hl)
    rw [scanHistory_eq_walk, hlines]

/-! ## A value is a part of its line -/

theorem Unquoted.isInfix {written value : Text} (h : Unquoted written value) : value <:+: written := by
  cases h with
  | quoted q inner hq => exact ⟨[q], [q], rfl⟩
  | plain _ h => exact List.infix_refl _

theorem AssignmentLine.isInfix {line key rest : Text} (h : AssignmentLine line key rest) : rest <:+: trim line := by
  obtain ⟨-, gap, hline, -⟩ := h
  exact ⟨key ++ gap ++ ['='], [], by simp [hline]⟩

theorem trim_infix_withoutReturns (line : Text) : trim line <:+: withoutReturns line := by
  obtain ⟨-, n, hline⟩ := (withoutReturns_eq_iff line _).1 rfl
  have htrim : trim line = trim (withoutReturns line) := by
    conv => lhs; rw [hline]
    exact strip_append_right isBlank _ _ fun c hc => by rw [List.eq_of_mem_replicate hc]; decide
  rw [htrim]
  exact strip_isInfix isBlank _

theorem value_isInfix {line key rest value : Text} (hassign : AssignmentLine line key rest)
    (hvalue : Unquoted (trim rest) value) : value <:+: withoutReturns line :=
  (hvalue.isInfix.trans (strip_isInfix isBlank rest)).trans (hassign.isInfix.trans (trim_infix_withoutReturns line))

/-! ## A line that assigns looks like no header -/

theorem AssignmentLine.not_plus {line key rest : Text} (h : AssignmentLine line key rest) :
    ¬ ['+'] <+: withoutReturns line := by
  rintro ⟨tail, htail⟩
  obtain ⟨-, n, hline⟩ := (withoutReturns_eq_iff line _).1 rfl
  have htrim : trim line = [] ++ '+' :: trimEnd (tail ++ List.replicate n '\r') := by
    rw [hline, ← htail]
    exact strip_append_cons isBlank '+' (by decide) [] _
  obtain ⟨hkey, gap, hassign, -⟩ := h
  obtain ⟨c, cs, rfl⟩ := List.exists_cons_of_ne_nil hkey.ne_nil
  rw [hassign] at htrim
  exact ne_of_nameChar (hkey.all c (by simp)) (by decide) (List.cons.inj htrim).1

theorem readLogLine_assigned {line key rest : Text} (h : AssignmentLine line key rest) :
    readLogLine ('+' :: line) = .added (withoutReturns line) := by
  refine (readLogLine_iff _ _).2 ?_
  have hplus : withoutReturns ('+' :: line) = '+' :: withoutReturns line :=
    stripEnd_append_cons _ '+' (by decide) [] line
  rw [hplus]
  refine .added _ fun hheader => h.not_plus ?_
  exact List.IsPrefix.trans ⟨['+'], rfl⟩ ((List.prefix_cons_inj '+').1 hheader)

/-! ## What the scanner finds -/

/-- **The scanner sees no less than the detector**: of an env file that is added whole, the line of every variable whose
value a bundled signature knows adds one finding to those of the lines above it, with a signature of no higher rank. -/
theorem scanHistory_addedText (t : Text) (v : Variable) (hv : v ∈ readEnv t) (i : Nat)
    (hrank : rank? bundledTable v.value = some i) :
    ∃ (n j : Nat) (f : HistoryFinding), v.line = n + 1 ∧
      scanHistory bundledTable (addedText ((lines t).take (n + 1))) =
        scanHistory bundledTable (addedText ((lines t).take n)) ++ [f] ∧
      scanHistory bundledTable (addedText ((lines t).take (n + 1))) <+:
        scanHistory bundledTable (addedText (lines t)) ∧
      rankOfName? f.signature = some j ∧ j ≤ i := by
  rw [readEnv_eq_walk] at hv
  obtain ⟨n, hread⟩ := exists_resultAt_of_mem readStep _ _ v hv
  obtain ⟨line, rest, hline, hassign, hvalue, hplace, -⟩ := (resultAt_readStep_iff (lines t) n v).1 hread
  obtain ⟨j, hji, hwhole⟩ := exists_rank_le_of_isInfix (fun s hs => (bundledTable_plain s hs).1)
    (value_isInfix hassign hvalue) hrank
  have hj : j < bundledTable.length := (List.findIdx?_eq_some_iff_getElem.1 hwhole).1
  have hentry : bundledTable[j]? = some bundledTable[j] := List.getElem?_eq_getElem hj
  obtain ⟨f, hsignature, hresult⟩ : ∃ f : HistoryFinding, f.signature = bundledTable[j].name ∧
      ResultAt (scanStep bundledTable) ⟨[], []⟩ ((lines t).map ('+' :: ·)) n f := by
    let m : Marks := walkEnd (scanStep bundledTable) ⟨[], []⟩ (((lines t).map ('+' :: ·)).take n)
    refine ⟨⟨m.commit, m.file, excerpt (withoutReturns line), bundledTable[j].name⟩, rfl, '+' :: line,
      by rw [List.getElem?_map, hline]; rfl, (scanStep_eq_some_iff _ _ _ _).2 ?_⟩
    exact ⟨_, bundledTable[j], readLogLine_assigned hassign, (firstMatch_of_rank hwhole).trans hentry, rfl⟩
  have hone : ∀ l ∈ lines t, '\n' ∉ l := not_mem_of_mem_splitOn '\n' t
  have hsome : ∀ m, scanHistory bundledTable (addedText ((lines t).take m)) =
      walk (scanStep bundledTable) ⟨[], []⟩ (((lines t).map ('+' :: ·)).take m) := fun m => by
    rw [scanHistory_addedText_eq_walk _ _ fun l hl => hone l (List.mem_of_mem_take hl), List.map_take]
  refine ⟨n, j, f, hplace, ?_, ?_, hsignature ▸ rankOfName?_eq hentry, hji⟩
  · rw [hsome, hsome]
    exact hresult.walk_take_succ
  · rw [hsome, scanHistory_addedText_eq_walk _ _ hone]
    exact walk_take_prefix _ _ _ _

/-- A key that is a token of a form of its own, with forty characters in quotes for a value. -/
def tokenKey : Text := "ghp_".toList ++ List.replicate 36 'a'

def tokenValue : Text := List.replicate 40 'b'

def tokenText : Text := "# both are known\n  ".toList ++ tokenKey ++ " = '".toList ++ tokenValue ++ "' \r\n".toList

/-- The line holds more than the value, and here ranks before it. -/
theorem scanHistory_addedText_tokenText :
    (⟨tokenKey, tokenValue, 2, some "both are known".toList⟩ : Variable) ∈ readEnv tokenText ∧
      rank? bundledTable tokenValue = some 17 ∧
      ∃ (n j : Nat) (f : HistoryFinding), (2 : Int) = n + 1 ∧
        scanHistory bundledTable (addedText ((lines tokenText).take (n + 1))) =
          scanHistory bundledTable (addedText ((lines tokenText).take n)) ++ [f] ∧
        scanHistory bundledTable (addedText ((lines tokenText).take (n + 1))) <+:
          scanHistory bundledTable (addedText (lines tokenText)) ∧
        rankOfName? f.signature = some j ∧ j ≤ 17 := by
  have hread : readEnv tokenText = [⟨tokenKey, tokenValue, 2, some "both are known".toList⟩] := by decide
  have hv : (⟨tokenKey, tokenValue, 2, some "both are known".toList⟩ : Variable) ∈ readEnv tokenText := by
    rw [hread]
    exact List.mem_singleton_self _
  have hrank : rank? bundledTable tokenValue = some 17 := by decide +kernel
  exact ⟨hv, hrank, scanHistory_addedText tokenText _ hv 17 hrank⟩

end EnvAudit

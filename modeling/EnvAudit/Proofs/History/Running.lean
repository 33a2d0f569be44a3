import EnvAudit.History.GitLog
import EnvAudit.Proofs.World.Session
/-!
# Running git

A log is read in one of six ways (`LogRead`).  A depth that cannot be written keeps git from being asked, and where git
cannot be started there is no log.  Where it runs, the limit has to be one that can be read up to: of the integers, minus
one and the counts that the memory of the host has room for are (`exists_limitOf_int_iff`).  Then a longer output is cut
and git killed, whatever it would have exited with, and only of an output that is read to its end does the exit status
count.

A scan turns the problems of git into a warning and an empty list and passes on any failure (`scanEnds`).  So a log is
read and scanned as it is meant to be exactly where the depth can be written, and git cannot be started or there is
memory for the limit (`logRuns_iff`).
-/
namespace EnvAudit

open Session

/-! ## Limits -/

variable {host : Host}

theorem limitOf_int {n : Nat} (h : n < host.memory) : limitOf host.memory (.int n) = .ok (.atMost n) := by
  have hbound := host.memory_le
  unfold limitOf
  dsimp only
  rw [if_neg (by omega), if_neg (by omega), if_neg (by omega), if_neg (by omega), if_neg (by omega), Int.toNat_natCast]

theorem exists_limitOf_int_iff {m : Int} :
    (∃ l, limitOf host.memory (.int m) = .ok l) ↔ m = -1 ∨ 0 ≤ m ∧ m < (host.memory : Int) := by
  have hbound := host.memory_le
  unfold limitOf
  dsimp only
  split
  · rename_i hnone
    exact iff_of_true ⟨_, rfl⟩ (.inl hnone)
  rename_i hcount
  split
  · exact iff_of_false nofun (by omega)
  split
  · exact iff_of_false nofun (by omega)
  split
  · exact iff_of_false nofun (by omega)
  split
  · exact iff_of_false nofun (by omega)
  · exact iff_of_true ⟨_, rfl⟩ (.inr (by omega))

/-- A count is a limit as it is, if memory can be had for it. -/
theorem limitOf_int_eq_ok_iff {n : Nat} {l : Limit} :
    limitOf host.memory (.int n) = .ok l ↔ n < host.memory ∧ l = .atMost n := by
  constructor
  · intro h
    have hn : n < host.memory := by
      have hcan := exists_limitOf_int_iff.1 ⟨l, h⟩
      omega
    rw [limitOf_int hn] at h
    exact ⟨hn, (Except.ok.inj h).symm⟩
  · rintro ⟨hn, rfl⟩
    exact limitOf_int hn

/-! ## Reading -/

def cutWarning (l : Limit) : Record := ⟨historyLog.toList, .warning,
  "git log output exceeded ".toList ++ l.text ++ " bytes, scanning truncated history".toList⟩

/-- What git is asked for the log. -/
def logCall (repo : Text) (depth : Value) : GitCall := ⟨logArguments depth.plain, repo⟩

/-- How a log is read on a host, given what git does: what happens, latest first, and what comes of it. -/
inductive LogRead (host : Host) (limit : Value) (repo : Text) (depth : Value) :
    GitOutcome → List Event → Except Halt Text → Prop
  | noDepth {git : GitOutcome} {f : Failure} (hdepth : depth.shownFault? host.shownLevels = some f) :
      LogRead host limit repo depth git [] (.error (.failure f))
  | notStarted (f : Failure) (hdepth : depth.shownFault? host.shownLevels = none) :
      LogRead host limit repo depth (.notStarted f) [.git (logCall repo depth)]
        (.error (.problem (.gitNotStarted repo (startFault repo f))))
  | noLimit {output errors : Bytes} {status : Int} {f : Failure} (hdepth : depth.shownFault? host.shownLevels = none)
      (hlimit : limitOf host.memory limit = .error f) :
      LogRead host limit repo depth (.ran output errors status) [.git (logCall repo depth)] (.error (.failure f))
  | cut {output errors read : Bytes} {status : Int} {l : Limit} (hdepth : depth.shownFault? host.shownLevels = none)
      (hlimit : limitOf host.memory limit = .ok l) (hcut : l.cut output = (read, true)) :
      LogRead host limit repo depth (.ran output errors status)
        [.gitKilled, .record (cutWarning l), .git (logCall repo depth)] (.ok (decodeLossy read))
  | gitFailed {output errors read : Bytes} {status : Int} {l : Limit}
      (hdepth : depth.shownFault? host.shownLevels = none) (hlimit : limitOf host.memory limit = .ok l)
      (hcut : l.cut output = (read, false)) (hstatus : status ≠ 0) :
      LogRead host limit repo depth (.ran output errors status) [.git (logCall repo depth)]
        (.error (.problem (.gitFailed repo status)))
  | whole {output errors read : Bytes} {l : Limit} (hdepth : depth.shownFault? host.shownLevels = none)
      (hlimit : limitOf host.memory limit = .ok l) (hcut : l.cut output = (read, false)) :
      LogRead host limit repo depth (.ran output errors 0) [.git (logCall repo depth)] (.ok (decodeLossy read))

/-- **Reading a log** goes one of these ways, and all it changes is what has happened. -/
theorem exists_logRead (limit : Value) (repo : Text) (depth : Value) (w : World) : ∃ es result,
    LogRead w.host limit repo depth w.git es result ∧
      outcome (readLog limit repo depth) w = (result, { w with events := es ++ w.events }) := by
  unfold readLog
  cases hdepth : depth.shownFault? w.host.shownLevels with
  | some f =>
    refine ⟨_, _, .noDepth hdepth, outcome_bind_of_error ?_ _⟩
    rw [outcome_plainText, Value.plainWithin, hdepth]
    rfl
  | none =>
    rw [outcome_bind_of_ok (outcome_plainText_of_shown hdepth), outcome_bind_of_ok (outcome_startGit _ w)]
    cases w.git with
    | notStarted f => exact ⟨_, _, .notStarted f hdepth, rfl⟩
    | ran output errors status =>
      dsimp only
      rw [outcome_bind_of_ok (outcome_get _), outcome_bind, outcome_orFail]
      cases hlimit : limitOf w.host.memory limit with
      | error f => exact ⟨_, _, .noLimit hdepth hlimit, rfl⟩
      | ok l =>
        dsimp only [Except.mapError]
        rcases hcut : l.cut output with ⟨read, truncated⟩
        cases truncated with
        | true => exact ⟨_, _, .cut hdepth hlimit hcut, rfl⟩
        | false =>
          dsimp only
          rw [if_neg Bool.false_ne_true]
          by_cases hstatus : status = 0
          · subst hstatus
            exact ⟨_, _, .whole hdepth hlimit hcut, rfl⟩
          · rw [if_pos hstatus]
            exact ⟨_, _, .gitFailed hdepth hlimit hcut hstatus, rfl⟩

/-- Reading up to a count fails only where the depth cannot be written, or git runs and there is no memory for as many
bytes. -/
theorem LogRead.ne_failure_iff {n : Nat} {repo : Text} {depth : Value} {git : GitOutcome} {es : List Event}
    {result : Except Halt Text} (h : LogRead host (.int n) repo depth git es result) :
    (∀ f, result ≠ .error (.failure f)) ↔
      depth.shownFault? host.shownLevels = none ∧ ((∃ f, git = .notStarted f) ∨ n < host.memory) := by
  cases h with
  | noDepth hdepth => exact iff_of_false (fun h => h _ rfl) fun h => nomatch hdepth.symm.trans h.1
  | notStarted f hdepth => exact iff_of_true nofun ⟨hdepth, .inl ⟨f, rfl⟩⟩
  | noLimit hdepth hlimit =>
    refine iff_of_false (fun h => h _ rfl) ?_
    rintro ⟨-, ⟨f, hgit⟩ | hn⟩
    · cases hgit
    · cases (limitOf_int hn).symm.trans hlimit
  | cut hdepth hlimit | gitFailed hdepth hlimit | whole hdepth hlimit =>
    exact iff_of_true nofun ⟨hdepth, .inr (limitOf_int_eq_ok_iff.1 hlimit).1⟩

/-! ## Scanning -/

section Scanning

variable {table : List Signature} {limit : Value} {repo : Text} {depth : Value} {w w' : World}

theorem exists_outcome_recordScan (repo : Text) (depth : Value) (findings : Nat) (w : World) :
    ∃ w', (recordScan repo depth findings).outcome w = (.ok ⟨⟩, w') := by
  unfold recordScan
  cases recordScan.integerDepth? depth with
  | none => exact ⟨w, rfl⟩
  | some n => exact ⟨_, outcome_record _ _ _ w⟩

theorem exists_outcome_scanRepository_of_ok (table : List Signature) {log : Text}
    (h : outcome (readLog limit repo depth) w = (.ok log, w')) :
    ∃ w'', outcome (scanRepository table limit repo depth) w = (.ok (scanHistory table log), w'') := by
  obtain ⟨w'', hrecord⟩ := exists_outcome_recordScan repo depth (scanHistory table log).length w'
  have hattempt : outcome (attempt (readLog limit repo depth)) w = (.ok (.ok log), w') := by rw [outcome_attempt, h]
  unfold scanRepository
  rw [outcome_bind_of_ok hattempt]
  exact ⟨w'', outcome_bind_of_ok hrecord _⟩

def skipWarning (p : Problem) : Record :=
  ⟨historyLog.toList, .warning, "History scan skipped: ".toList ++ p.message⟩

/-- A problem with git is a warning. -/
theorem outcome_scanRepository_of_problem {p : Problem}
    (h : outcome (readLog limit repo depth) w = (.error (.problem p), w')) :
    outcome (scanRepository table limit repo depth) w =
      (.ok [], { w' with events := .record (skipWarning p) :: w'.events }) := by
  have hattempt : outcome (attempt (readLog limit repo depth)) w = (.ok (.error p), w') := by rw [outcome_attempt, h]
  unfold scanRepository
  rw [outcome_bind_of_ok hattempt]
  rfl

theorem outcome_scanRepository_of_failure {f : Failure}
    (h : outcome (readLog limit repo depth) w = (.error (.failure f), w')) :
    outcome (scanRepository table limit repo depth) w = (.error (.failure f), w') := by
  have hattempt : outcome (attempt (readLog limit repo depth)) w = (.error (.failure f), w') := by
    rw [outcome_attempt, h]
  exact outcome_bind_of_error hattempt _

end Scanning

/-- How a scan of a repository ends. -/
inductive ScanEnds (w : World) (limit depth : Value) : Except Halt (List HistoryFinding) → Prop
  | found (hdepth : depth.shownFault? w.host.shownLevels = none)
      (h : (∃ f, w.git = .notStarted f) ∨ ∃ l, limitOf w.host.memory limit = .ok l) (fs : List HistoryFinding) :
      ScanEnds w limit depth (.ok fs)
  | noDepth {e : Failure} (hdepth : depth.shownFault? w.host.shownLevels = some e) :
      ScanEnds w limit depth (.error (.failure e))
  | failed {output errors : Bytes} {status : Int} {e : Failure} (hgit : w.git = .ran output errors status)
      (h : limitOf w.host.memory limit = .error e) : ScanEnds w limit depth (.error (.failure e))

/-- **A scan gives findings** unless the depth cannot be written, or git runs and there is no reading up to the limit. -/
theorem scanEnds (table : List Signature) (limit : Value) (repo : Text) (depth : Value) (w : World) :
    ScanEnds w limit depth ((scanRepository table limit repo depth).outcome w).1 := by
  obtain ⟨es, result, hread, houtcome⟩ := exists_logRead limit repo depth w
  generalize hgit : w.git = git at hread
  cases hread with
  | noDepth hdepth =>
    rw [outcome_scanRepository_of_failure houtcome]
    exact .noDepth hdepth
  | notStarted f hdepth =>
    rw [outcome_scanRepository_of_problem houtcome]
    exact .found hdepth (.inl ⟨f, hgit⟩) []
  | noLimit hdepth hlimit =>
    rw [outcome_scanRepository_of_failure houtcome]
    exact .failed hgit hlimit
  | gitFailed hdepth hlimit =>
    rw [outcome_scanRepository_of_problem houtcome]
    exact .found hdepth (.inr ⟨_, hlimit⟩) []
  | cut hdepth hlimit | whole hdepth hlimit =>
    obtain ⟨w', hscan⟩ := exists_outcome_scanRepository_of_ok table houtcome
    rw [hscan]
    exact .found hdepth (.inr ⟨_, hlimit⟩) _

/-! ## As meant -/

/-- The log cannot be had from git. -/
def Unavailable (result : Except Halt Text) : Prop :=
  (∃ path reason, result = .error (.problem (.gitNotStarted path reason))) ∨
    ∃ path status, result = .error (.problem (.gitFailed path status))

/-- Reading up to `n` bytes, given what git does: what happens and what comes of it. -/
structure ReadsLog (n : Nat) (git : GitOutcome) (es : List Event) (result : Except Halt Text) : Prop where
  killed : .gitKilled ∈ es ↔ ∃ output errors status, git = .ran output errors status ∧ n < output.length
  unavailable : Unavailable result ↔ (∃ f, git = .notStarted f) ∨
    ∃ output errors status, git = .ran output errors status ∧ output.length ≤ n ∧ status ≠ 0
  text : ¬ Unavailable result →
    ∃ output errors status, git = .ran output errors status ∧ result = .ok (decodeLossy (output.take n))

/-- Scanning, from one world to another, given what comes of reading. -/
structure ScansLog (table : List Signature) (read : Except Halt Text) (w w' : World)
    (result : Except Halt (List HistoryFinding)) : Prop where
  ends : ∃ fs, result = .ok fs
  skipped : Unavailable read → result = .ok [] ∧ ∃ r : Record, r.level = .warning ∧ w'.records = w.records ++ [r]
  scanned : ∀ log, read = .ok log → result = .ok (scanHistory table log)

/-- The log of a repository is read up to `n` bytes and scanned, as it is meant to be. -/
structure LogRuns (table : List Signature) (n : Nat) (repo : Text) (depth : Value) (w : World) : Prop where
  reads : ∃ es, (outcome (readLog (.int n) repo depth) w).2.events = es ++ w.events ∧
    ReadsLog n w.git es (outcome (readLog (.int n) repo depth) w).1
  scans : ScansLog table (outcome (readLog (.int n) repo depth) w).1 w
    (outcome (scanRepository table (.int n) repo depth) w).2 (outcome (scanRepository table (.int n) repo depth) w).1

theorem not_unavailable_ok (t : Text) : ¬ Unavailable (.ok t) := by
  rintro (⟨_, _, h⟩ | ⟨_, _, h⟩) <;> cases h

theorem cut_atMost_eq_iff {n : Nat} {output read : Bytes} {truncated : Bool} :
    (Limit.atMost n).cut output = (read, truncated) ↔ output.take n = read ∧ decide (n < output.length) = truncated :=
  Prod.ext_iff

theorem exists_ran_iff {output errors : Bytes} {status : Int} {P : Bytes → Int → Prop} :
    (∃ o e s, GitOutcome.ran output errors status = .ran o e s ∧ P o s) ↔ P output status := by
  constructor
  · rintro ⟨_, _, _, hgit, h⟩
    cases hgit
    exact h
  · exact fun h => ⟨output, errors, status, rfl, h⟩

theorem readsLog_ran_iff {n : Nat} {output errors : Bytes} {status : Int} {es : List Event}
    {result : Except Halt Text} : ReadsLog n (.ran output errors status) es result ↔
      (.gitKilled ∈ es ↔ n < output.length) ∧
      (Unavailable result ↔ output.length ≤ n ∧ status ≠ 0) ∧
      (¬ Unavailable result → result = .ok (decodeLossy (output.take n))) := by
  have hstarted : ¬ ∃ f, GitOutcome.ran output errors status = .notStarted f := nofun
  constructor
  · rintro ⟨hkilled, hunavailable, htext⟩
    rw [exists_ran_iff] at hkilled
    rw [exists_ran_iff, or_iff_right hstarted] at hunavailable
    exact ⟨hkilled, hunavailable, fun h => exists_ran_iff.1 (htext h)⟩
  · rintro ⟨hkilled, hunavailable, htext⟩
    refine ⟨?_, ?_, fun h => exists_ran_iff.2 (htext h)⟩
    · rw [exists_ran_iff]
      exact hkilled
    · rw [exists_ran_iff, or_iff_right hstarted]
      exact hunavailable

theorem readsLog_of_logRead {n : Nat} {repo : Text} {depth : Value} {git : GitOutcome} {es : List Event}
    {result : Except Halt Text} (h : LogRead host (.int n) repo depth git es result)
    (hresult : ∀ f, result ≠ .error (.failure f)) : ReadsLog n git es result := by
  cases h with
  | notStarted f =>
    have hnone : Unavailable (.error (.problem (.gitNotStarted repo (startFault repo f)))) := .inl ⟨_, _, rfl⟩
    exact ⟨by simp, iff_of_true hnone (.inl ⟨f, rfl⟩), fun h => absurd hnone h⟩
  | noDepth | noLimit => exact absurd rfl (hresult _)
  | cut _ hlimit hcut =>
    obtain ⟨-, rfl⟩ := limitOf_int_eq_ok_iff.1 hlimit
    obtain ⟨rfl, hlength⟩ := cut_atMost_eq_iff.1 hcut
    rw [decide_eq_true_eq] at hlength
    exact readsLog_ran_iff.2 ⟨iff_of_true (by simp) hlength, iff_of_false (not_unavailable_ok _) (by omega),
      fun _ => rfl⟩
  | @gitFailed _ _ _ status _ _ hlimit hcut hstatus =>
    obtain ⟨-, rfl⟩ := limitOf_int_eq_ok_iff.1 hlimit
    obtain ⟨rfl, hlength⟩ := cut_atMost_eq_iff.1 hcut
    rw [decide_eq_false_iff_not] at hlength
    have hnone : Unavailable (.error (.problem (.gitFailed repo status))) := .inr ⟨_, _, rfl⟩
    exact readsLog_ran_iff.2 ⟨iff_of_false (by simp) hlength,
      iff_of_true hnone ⟨Nat.not_lt.1 hlength, hstatus⟩, fun h => absurd hnone h⟩
  | whole _ hlimit hcut =>
    obtain ⟨-, rfl⟩ := limitOf_int_eq_ok_iff.1 hlimit
    obtain ⟨rfl, hlength⟩ := cut_atMost_eq_iff.1 hcut
    rw [decide_eq_false_iff_not] at hlength
    exact readsLog_ran_iff.2 ⟨iff_of_false (by simp) hlength,
      iff_of_false (not_unavailable_ok _) fun h => absurd rfl h.2, fun _ => rfl⟩

theorem scansLog_of_ok {table : List Signature} {limit depth : Value} {repo log : Text} {w w' : World}
    (h : outcome (readLog limit repo depth) w = (.ok log, w')) :
    ScansLog table (.ok log) w (outcome (scanRepository table limit repo depth) w).2
      (outcome (scanRepository table limit repo depth) w).1 := by
  obtain ⟨w'', hscan⟩ := exists_outcome_scanRepository_of_ok table h
  rw [hscan]
  refine ⟨⟨_, rfl⟩, fun hnone => absurd hnone (not_unavailable_ok log), fun read hread => ?_⟩
  cases hread
  rfl

theorem scansLog_of_problem {table : List Signature} {limit depth : Value} {repo : Text} {p : Problem} {w : World}
    {call : GitCall} (h : outcome (readLog limit repo depth) w =
      (.error (.problem p), { w with events := .git call :: w.events })) :
    ScansLog table (.error (.problem p)) w (outcome (scanRepository table limit repo depth) w).2
      (outcome (scanRepository table limit repo depth) w).1 := by
  rw [outcome_scanRepository_of_problem h]
  refine ⟨⟨[], rfl⟩, fun _ => ⟨rfl, skipWarning p, rfl, ?_⟩, nofun⟩
  rw [World.records_record, World.records_git]

section Runs

variable {table : List Signature} {n : Nat} {repo : Text} {depth : Value} {w : World}

/-- A failure to read is a failure to scan, and that is never meant. -/
theorem LogRuns.canRead (h : LogRuns table n repo depth w) : depth.shownFault? w.host.shownLevels = none ∧
    ((∃ f, w.git = .notStarted f) ∨ n < w.host.memory) := by
  obtain ⟨es, result, hread, houtcome⟩ := exists_logRead (.int n) repo depth w
  refine hread.ne_failure_iff.1 ?_
  rintro f rfl
  obtain ⟨fs, hends⟩ := h.scans.ends
  rw [outcome_scanRepository_of_failure houtcome] at hends
  cases hends

theorem logRuns_of_canRead (hdepth : depth.shownFault? w.host.shownLevels = none)
    (h : (∃ f, w.git = .notStarted f) ∨ n < w.host.memory) : LogRuns table n repo depth w := by
  obtain ⟨es, result, hread, houtcome⟩ := exists_logRead (.int n) repo depth w
  have hresult := hread.ne_failure_iff.2 ⟨hdepth, h⟩
  refine ⟨⟨es, by rw [houtcome], by rw [houtcome]; exact readsLog_of_logRead hread hresult⟩, ?_⟩
  rw [houtcome]
  generalize w.git = git at hread
  cases hread with
  | noDepth | noLimit => exact absurd rfl (hresult _)
  | notStarted | gitFailed => exact scansLog_of_problem houtcome
  | cut | whole => exact scansLog_of_ok houtcome

end Runs

/-- **A log is read and scanned as it is meant to be** exactly where the depth can be written, and git cannot be started
or there is memory for as many bytes as may be read. -/
theorem logRuns_iff (table : List Signature) (n : Nat) (repo : Text) (depth : Value) (w : World) :
    LogRuns table n repo depth w ↔ depth.shownFault? w.host.shownLevels = none ∧
      ((∃ f, w.git = .notStarted f) ∨ n < w.host.memory) :=
  ⟨LogRuns.canRead, fun ⟨hdepth, h⟩ => logRuns_of_canRead hdepth h⟩

/-- **The largest index** is no limit: git prints nothing, and reading that nothing fails. -/
theorem not_logRuns : ¬ ∀ (table : List Signature) (n : Nat) (repo : Text) (depth : Int) (w : World),
    n < Nat.pow 2 63 → LogRuns table n repo (.int depth) w := by
  intro hruns
  have hlargest := hruns [] (Nat.pow 2 63 - 1) ['.'] 100 (.bare (.ran [] [] 0)) (by decide)
  rcases hlargest.canRead.2 with ⟨f, hf⟩ | hn
  · cases hf
  · exact absurd hn (by decide)

end EnvAudit

import EnvAudit.Signature.Basic
import EnvAudit.Text.Basic
/-!
# Scanning a history

The log of a repository is a stream of lines: commits, file headers and content.  Every added line whose content a
signature knows is a finding, with the commit and the file that the stream named last.
-/
namespace EnvAudit

structure HistoryFinding where
  commit : Text
  file : Text
  excerpt : Text
  signature : Value
  deriving Repr

/-! ## Excerpts -/

def excerptLength : Nat := 80

/-- The characters before a position that, if negative, counts from the end. -/
def takeTo (length : Int) (t : Text) : Text :=
  if 0 ≤ length then t.take length.toNat else t.take (t.length - length.natAbs)

def excerptAt (length : Int) (t : Text) : Text :=
  if length < (t.length : Int) then takeTo length t ++ "...".toList else t

def excerpt (t : Text) : Text := excerptAt excerptLength t

/-! ## Lines of the log -/

inductive LogLine where
  | commit (id : Text)
  | file (path : Text)
  | added (content : Text)
  | other
  deriving DecidableEq, Repr

def commitIdLength : Nat := 7

def withoutReturns (line : Text) : Text := stripEnd (· = '\r') line

def readLogLine (line : Text) : LogLine :=
  let line := withoutReturns line
  match after? "commit ".toList line with
  | some rest => .commit ((trim rest).take commitIdLength)
  | none => match after? "+++ b/".toList line with
    | some path => .file path
    | none =>
      if startsWith "+++".toList line then .other
      else match line with
        | '+' :: content => .added content
        | _ => .other

/-! ## The walk -/

def scanLines (table : List Signature) (commit file : Text) : List Text → List HistoryFinding
  | [] => []
  | line :: rest =>
    match readLogLine line with
    | .commit id => scanLines table id file rest
    | .file path => scanLines table commit path rest
    | .other => scanLines table commit file rest
    | .added content =>
      match firstMatch table content with
      | some s => ⟨commit, file, excerpt content, s.name⟩ :: scanLines table commit file rest
      | none => scanLines table commit file rest

def scanHistory (table : List Signature) (log : Text) : List HistoryFinding := scanLines table [] [] (lines log)

end EnvAudit

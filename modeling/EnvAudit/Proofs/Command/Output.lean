import EnvAudit.Command.Output
import EnvAudit.Proofs.World.Session
/-!
# What commands show

Each line that a command shows is one event, and the lines stand in the order in which they were shown.
-/
namespace EnvAudit

open Session

/-- A line as it is shown. -/
def shownLine (t : Text) : Text := withoutSequences (t ++ ['\n'])

theorem outcome_echo (t : Text) (w : World) :
    outcome (echo t) w = (.ok ⟨⟩, { w with events := .out (shownLine t) :: w.events }) := rfl

theorem outcome_echoAll : ∀ (ts : List Text) (w : World), outcome (echoAll ts) w =
    (.ok ⟨⟩, { w with events := (ts.map fun t => .out (shownLine t)).reverse ++ w.events })
  | [], _ => rfl
  | t :: ts, w => by
    rw [echoAll, outcome_bind_of_ok (outcome_echo t w), outcome_echoAll ts, List.map_cons, List.reverse_cons,
      List.append_assoc]
    rfl

theorem leavesFiles_echoAll : ∀ ts : List Text, LeavesFiles (echoAll ts)
  | [] => leavesFiles_pure _
  | _ :: ts => (leavesFiles_emit _).bind fun _ => leavesFiles_echoAll ts

theorem flatMap_shown_echoed (ts : List Text) :
    (ts.map fun t => Event.out (shownLine t)).flatMap Event.shown = ts.flatMap shownLine := List.flatMap_map ..

end EnvAudit

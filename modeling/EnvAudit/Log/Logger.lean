import EnvAudit.Text.Word
import EnvAudit.Failure
/-!
# Loggers

A logger has a level and the levels of its handlers.  Configuring it gives it one handler, unless it has some, and then
sets the level that is named, first for the logger and then for its handlers, one after the other.  A name that stands
for no level means `INFO`, except for two names that stand for something else and are refused where they are to be set:
by then the handler is there, and nothing behind it is done.
-/
namespace EnvAudit

/-! ## Levels -/

inductive Level where
  | notSet
  | debug
  | info
  | warning
  | error
  | critical
  deriving DecidableEq, Repr

namespace Level

def number : Level → Nat
  | .notSet => 0
  | .debug => 10
  | .info => 20
  | .warning => 30
  | .error => 40
  | .critical => 50

def name : Level → Text
  | .notSet => "NOTSET".toList
  | .debug => "DEBUG".toList
  | .info => "INFO".toList
  | .warning => "WARNING".toList
  | .error => "ERROR".toList
  | .critical => "CRITICAL".toList

end Level

/-- Characters beyond ASCII whose capitals are ASCII letters: the sharp and the long S, the I without a dot, and
ligatures. -/
def foreignCapitals : List (Char × Text) := [
  ('ß', "SS".toList), ('ı', "I".toList), ('ſ', "S".toList), ('\ufb00', "FF".toList), ('\ufb01', "FI".toList),
  ('\ufb02', "FL".toList), ('\ufb03', "FFI".toList), ('\ufb04', "FFL".toList), ('\ufb05', "ST".toList),
  ('\ufb06', "ST".toList)]

/-- The capitals of a character if they are ASCII letters.  Any other character stays, and is in no name of a level. -/
def capital (c : Char) : Text :=
  if isAsciiLower c then [Char.ofNat (c.toNat - 32)]
  else ((foreignCapitals.find? fun x => x.1 = c).map (·.2)).getD [c]

def capitals (t : Text) : Text := t.flatMap capital

/-- What a name stands for. -/
inductive NamedLevel where
  | level (l : Level)
  | refused (f : Failure)
  deriving DecidableEq, Repr

def levelNames : List (Text × NamedLevel) := [
  ("CRITICAL".toList, .level .critical), ("FATAL".toList, .level .critical), ("ERROR".toList, .level .error),
  ("WARNING".toList, .level .warning), ("WARN".toList, .level .warning), ("INFO".toList, .level .info),
  ("DEBUG".toList, .level .debug), ("NOTSET".toList, .level .notSet),
  ("BASIC_FORMAT".toList, .refused .badValue), ("_STYLES".toList, .refused .wrongType)]

/-- The level that a text names, in any letter case; without a text, or with an unknown one, it is `INFO`. -/
def namedLevel (t : Option Text) : NamedLevel :=
  ((levelNames.find? fun n => n.1 = capitals (t.getD [])).map (·.2)).getD (.level .info)

/-! ## Configuration -/

structure Logger where
  level : Level
  handlers : List Level
  deriving DecidableEq, Repr

namespace Logger

def fresh : Logger := ⟨.notSet, []⟩

def withHandler (l : Logger) : Logger := if l.handlers.isEmpty then { l with handlers := [.notSet] } else l

/-- The level that is set where another was, or the other one and why it stays. -/
def replaced (old : Level) : NamedLevel → Option Failure × Level
  | .level v => (none, v)
  | .refused f => (some f, old)

/-- One handler after the other.  The first that refuses the level is the last that is asked. -/
def setHandlers (n : NamedLevel) : List Level → Option Failure × List Level
  | [] => (none, [])
  | old :: rest =>
    match replaced old n with
    | (some f, v) => (some f, v :: rest)
    | (none, v) =>
      let (failure, vs) := setHandlers n rest
      (failure, v :: vs)

/-- The logger afterwards, and why the configuring has stopped if it has. -/
def configure (l : Logger) (name : Option Text) : Option Failure × Logger :=
  let n := namedLevel name
  let l := l.withHandler
  match replaced l.level n with
  | (some f, v) => (some f, { l with level := v })
  | (none, v) =>
    let (failure, vs) := setHandlers n l.handlers
    (failure, ⟨v, vs⟩)

theorem setHandlers_of_level (v : Level) :
    ∀ olds : List Level, setHandlers (.level v) olds = (none, olds.map fun _ => v)
  | [] => rfl
  | _ :: rest => by
    rw [setHandlers, replaced]
    dsimp only
    rw [setHandlers_of_level v rest, List.map_cons]

/-- A level that is one is set everywhere. -/
theorem configure_of_level {name : Option Text} {v : Level} (h : namedLevel name = .level v) (l : Logger) :
    l.configure name = (none, ⟨v, l.withHandler.handlers.map fun _ => v⟩) := by
  unfold configure
  dsimp only
  rw [h, setHandlers_of_level]
  rfl

/-- A level that is none is refused before any other is touched. -/
theorem configure_of_refused {name : Option Text} {f : Failure} (h : namedLevel name = .refused f) (l : Logger) :
    l.configure name = (some f, l.withHandler) := by
  unfold configure
  rw [h]
  rfl

/-- The least level that is let through.  A logger without a level of its own lets warnings through. -/
def threshold (l : Logger) : Level := if l.level = .notSet then .warning else l.level

end Logger

/-! ## Records -/

structure Record where
  logger : Text
  level : Level
  message : Text
  deriving DecidableEq, Repr

/-- The line a record is written as; the time is left to whoever writes it. -/
def Record.line (time : Text) (r : Record) : Text :=
  time ++ " - ".toList ++ r.logger ++ " - ".toList ++ r.level.name ++ " - ".toList ++ r.message

def Record.isAtLeast (l : Level) (r : Record) : Bool := l.number ≤ r.level.number

end EnvAudit

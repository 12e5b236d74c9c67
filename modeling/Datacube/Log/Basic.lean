import Datacube.Error
import Datacube.Log.Format

/-!
# Logging

Log lines carry the plan that they belong to. The root logger writes records from its level on
through its handlers; configuring it installs one handler where there is none, and gives every
handler the filter that names the plan, or a dash for records without one.
-/

namespace Datacube
open Text

namespace Log

def defaultFormat : String :=
  "%(asctime)s - %(name)s - %(levelname)s - [%(plan_id)s] %(message)s"

def levels : List (String × Int) :=
  [("CRITICAL", 50), ("FATAL", 50), ("ERROR", 40), ("WARN", 30), ("WARNING", 30), ("INFO", 20),
   ("DEBUG", 10), ("NOTSET", 0)]

def levelName (n : Int) : String :=
  match levels.find? fun (name, k) => k == n && name != "WARN" with
  | some (name, _) => name
  | none => "Level " ++ toString n

/-- The level that a value stands for; null for none. A name may be written in any case, and a truth
value stands for itself. -/
def levelOf (v : Value) : Outcome (Option Value) :=
  match v with
  | .null => .ok none
  | .int _ | .bool _ => .ok (some v)
  | .text s => match levels.lookup (upper s) with
    | some n => .ok (some (.int n))
    | none => fail .badValue
  | _ => fail .wrongType

/-- The format that a value gives; what counts as absent gives the default one. A format must be a
text that declares a field. -/
def formatOf (v : Value) : Outcome String :=
  match v.orElse (.text defaultFormat) with
  | .text format => if hasField format.toList then .ok format else fail .badValue
  | _ => fail .wrongType

end Log

/-- A handler: the format of its lines, and how many filters name the plan. -/
structure Handler where
  format : String
  planFilters : Nat

/-- The root logger. -/
structure Logger where
  level : Value
  handlers : List Handler

/-- A record: its level, its message, and the plan that it belongs to. -/
structure LogRecord where
  level : Int
  message : Value
  plan : Option Value

namespace Logger

def bare : Logger := ⟨.int 30, []⟩

/-- Gives a handler the filter that names the plan, once. -/
def withPlanFilter (h : Handler) : Handler :=
  if h.planFilters = 0 then { h with planFilters := 1 } else h

/-- Installs a handler where there is none, and sets the level with it. The handler stays when the
level is not understood. -/
def install (l : Logger) (level format : Value) : Outcome Unit × Logger :=
  if !l.handlers.isEmpty then (.ok (), l)
  else match Log.formatOf format with
    | .error e => (.error e, l)
    | .ok format =>
      let l := { l with handlers := [⟨format, 0⟩] }
      match Log.levelOf level with
      | .ok level => (.ok (), { l with level := level.getD l.level })
      | .error e => (.error e, l)

/-- Configures the logger: it has a handler, and every handler names the plan. -/
def configure (l : Logger) (level format : Value) : Outcome Unit × Logger :=
  match l.install level format with
  | (.ok (), l) => (.ok (), { l with handlers := l.handlers.map withPlanFilter })
  | failed => failed

def writes (l : Logger) (level : Int) : Bool :=
  0 < level && (l.level.compare? (.int level)).any (· != .greater)

def fields (h : Handler) (r : LogRecord) : Entries String Value :=
  [("levelname", .text (Log.levelName r.level)), ("levelno", .int r.level),
   ("message", .text r.message.toText), ("msg", r.message), ("name", "root"), ("args", "()"),
   ("exc_info", .null), ("exc_text", .null), ("stack_info", .null),
   ("processName", "MainProcess"), ("threadName", "MainThread")] ++
  (match r.plan with
    | some plan => [("plan_id", plan)]
    | none => if h.planFilters = 0 then [] else [("plan_id", .text "-")])

/-- The lines that the handlers write for a record. -/
def lines (l : Logger) (r : LogRecord) : List String :=
  if l.writes r.level then l.handlers.filterMap fun h => Log.line? h.format (fields h r) else []

end Logger
end Datacube

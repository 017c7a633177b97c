import LayoutQuery.Search

/-! # Log lines
What commands log, and the levels from which on it is shown. -/
namespace LayoutQuery.Command

inductive LogLevel where
  | notSet
  | debug
  | info
  | warning
  | error
  | critical
  deriving DecidableEq, Repr

namespace LogLevel

def severity : LogLevel → Nat
  | .notSet => 0
  | .debug => 10
  | .info => 20
  | .warning => 30
  | .error => 40
  | .critical => 50

def name : LogLevel → String
  | .notSet => "NOTSET"
  | .debug => "DEBUG"
  | .info => "INFO"
  | .warning => "WARNING"
  | .error => "ERROR"
  | .critical => "CRITICAL"

def names : List (String × LogLevel) := [
  ("CRITICAL", .critical), ("FATAL", .critical), ("ERROR", .error), ("WARN", .warning),
  ("WARNING", .warning), ("INFO", .info), ("DEBUG", .debug), ("NOTSET", .notSet)]

/-- Reads a name in capitals. -/
def ofName? (s : String) : Option LogLevel := names.lookup s

end LogLevel

structure LogLine where
  level : LogLevel
  logger : String
  event : String
  deriving DecidableEq, Repr

namespace LogLine

protected def toString (l : LogLine) : String := l.level.name ++ ":" ++ l.logger ++ ":" ++ l.event

def conditionParsed : LogLine := ⟨.debug, "sublevel_query.parser", "condition_parsed"⟩

def ofEvent (e : Event) : LogLine :=
  let event :=
    match e with
    | .started _ _ => "search_started"
    | .matched _ => "layout_matched"
    | .finished _ _ => "search_finished"
  ⟨.info, "sublevel_query.search", event⟩

/-- The lines that are shown at a level. -/
def shown (level : LogLevel) (lines : List LogLine) : List LogLine :=
  lines.filter fun l => level.severity ≤ l.level.severity

end LogLine

end LayoutQuery.Command

import LayoutQuery.Command.Log
import LayoutQuery.Command.Usage
import LayoutQuery.Layout.Stream
import LayoutQuery.Settings.Basic

/-! # Work
What a command has printed and logged by its end, and how it ended. -/
namespace LayoutQuery.Command

/-- A failure that no command answers. -/
inductive Escape where
  | amountTooLong (fault : Text.TooManyDigits)
  | stream (fault : StreamFault)
  | unsupported (fault : Unsupported)
  | noConditions
  deriving DecidableEq, Repr

def Escape.message : Escape → String
  | .amountTooLong fault => fault.message
  | .stream fault => fault.message
  | .unsupported fault => fault.message
  | .noConditions => Search.emptyMessage

inductive Result where
  | exit (code : Nat)
  | usage (refusal : Refusal)
  | escaped (failure : Escape)
  deriving DecidableEq, Repr

/-- The code that a command ends with. A failure that it does not answer leaves none. -/
def Result.exitCode? : Result → Option Nat
  | .exit code => some code
  | .usage _ => some 2
  | .escaped _ => none

/-- A record that a command prints. -/
inductive Printed where
  | settings (s : Settings)
  | parsed (keyword canonical : String)
  | checked (layout : String) (matched : Bool) (outcomes : Fields Bool)
  | found (layouts : List String)
  | failed (message : String)
  deriving DecidableEq, Repr

/-- The record as it is shown. -/
def Printed.toJson : Printed → Json
  | .settings s =>
    .object [
      ("app_name", .string s.appName), ("log_level", .string s.logLevel),
      ("layouts_dir", .string s.layoutsDir), ("layout_glob", .string s.layoutGlob),
      ("search_limit", s.searchLimit.elim .null fun n => .integer n)]
  | .parsed keyword canonical =>
    .object [("kind", .string keyword), ("canonical", .string canonical)]
  | .checked layout matched outcomes =>
    .object [
      ("layout", .string layout), ("matches", .bool matched),
      ("conditions", .object (outcomes.map fun o => (o.1, .bool o.2)))]
  | .found layouts =>
    .object [("matches", .array (layouts.map .string)), ("count", .integer layouts.length)]
  | .failed message => .object [("error", .string message)]

/-- What a command has done by its end. All its log lines are kept. -/
structure Work where
  printed : List Printed
  log : List LogLine
  result : Result
  deriving DecidableEq, Repr

/-- Nothing printed and nothing logged. -/
def Work.ending (result : Result) : Work := ⟨[], [], result⟩

/-- Work that was preceded by log lines. -/
def Work.after (log : List LogLine) (w : Work) : Work := { w with log := log ++ w.log }

end LayoutQuery.Command

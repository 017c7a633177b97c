import LayoutQuery.Command.Request
import LayoutQuery.Command.Work
import LayoutQuery.Condition.Parser
import LayoutQuery.Text.Case

/-! # Commands
What each command prints and logs, and how it ends. Conditions are read before any file is looked
at. The log level decides which lines are shown and nothing else. -/
namespace LayoutQuery.Command

/-- Reads conditions up to the first that fails, logging one line for each that is read. -/
def parseAll : List String → List LogLine × Except Result (List Condition)
  | [] => ([], .ok [])
  | text :: rest =>
    match Condition.parse text with
    | .ok c =>
      let (log, found) := parseAll rest
      (.conditionParsed :: log, found.map (c :: ·))
    | .error (.amountTooLong fault) => ([], .error (.escaped (.amountTooLong fault)))
    | .error fault => ([], .error (.usage (.of (.badValue "CONDITIONS" fault.message))))

def withConditions (texts : List String) (go : Search → Work) : Work :=
  let (log, found) := parseAll texts
  let work : Work :=
    match found with
    | .error result => .ending result
    | .ok conditions =>
      match Search.ofList? (conditions.map .condition) with
      | some search => go search
      | none => .ending (.escaped .noConditions)
  work.after log

def runParse (text : String) : Work :=
  let (log, found) := parseAll [text]
  let work : Work :=
    match found with
    | .error result => .ending result
    | .ok conditions =>
      ⟨conditions.map fun c => .parsed c.subject.keyword c.render, [], .exit 0⟩
  work.after log

/-- A fault of loading that a command does not answer. -/
def escapeOf (fault : LoadFault) : Result := .escaped (.stream (.load fault))

def checkLayout (t : Tree) (path : Path) (search : Search) : Work :=
  match Layout.load t path with
  | .error fault =>
    .ending
      (if fault.isForeseen then .usage (.of (.badValue "--layout" fault.message))
      else escapeOf fault)
  | .ok layout =>
    match search.evaluate layout with
    | .error fault => .ending (.escaped (.unsupported fault))
    | .ok v =>
      ⟨[.checked v.layout v.matched v.outcomes], [], .exit (if v.matched then 0 else 1)⟩

def runCheck (t : Tree) (conditions : List String) (layout : String) : Work :=
  withConditions conditions (checkLayout t (Path.ofString layout))

def endSearch : Ending StreamFault → List Printed × Result
  | .found hits =>
    ([.found (hits.map (·.layout))], .exit (if hits.isEmpty then 1 else 0))
  | .broken (.load fault) =>
    if fault.isForeseen then ([.failed fault.message], .exit 2) else ([], escapeOf fault)
  | .broken (.look fault) => ([.failed (fault.fault.message fault.path)], .exit 2)
  | .broken (.glob fault) => ([], .escaped (.stream (.glob fault)))
  | .unsupported fault => ([], .escaped (.unsupported fault))

def searchLayouts (t : Tree) (directory : Path) (pattern : String) (limit : Option Nat)
    (search : Search) : Work :=
  match t.look directory with
  | .error fault => .ending (.escaped (.stream (.look fault)))
  | .ok (some .directory) =>
    let run := search.run (limit.map Int.ofNat) (LayoutStream.unopened directory pattern |>.feed t)
    let (printed, result) := endSearch run.ending
    ⟨printed, run.log.map LogLine.ofEvent, result⟩
  | .ok _ =>
    .ending
      (.usage (.of (.badValue "--layouts-dir" ("Not a directory: " ++ directory.toString))))

def given (text : Option String) : Option String := text.filter (· ≠ "")

def runSearch (t : Tree) (s : Settings) (conditions : List String)
    (directory pattern : Option String) (limit : Option Nat) : Work :=
  withConditions conditions
    (searchLayouts t (Path.ofString (directory.getD s.layoutsDir))
      ((given pattern).getD s.layoutGlob) (limit <|> s.searchLimit))

def perform (t : Tree) (s : Settings) : Request → Work
  | .help => .ending (.exit 0)
  | .showConfig => ⟨[.settings s], [], .exit 0⟩
  | .parse text => runParse text
  | .check conditions layout => runCheck t conditions layout
  | .search conditions directory pattern limit => runSearch t s conditions directory pattern limit

structure Outcome where
  printed : List Printed
  level : LogLevel
  shown : List LogLine
  result : Result
  deriving DecidableEq, Repr

/-- Until a command line has set it, the level is that of warnings. -/
def Outcome.early (result : Result) : Outcome := ⟨[], .warning, [], result⟩

def chooseLevel (s : Settings) (asked : Option String) : Except UsageFault LogLevel :=
  let name := Text.upper ((given asked).getD s.logLevel)
  match LogLevel.ofName? name with
  | some level => .ok level
  | none => .error (.badValue "--log-level" ("Unknown log level: " ++ name))

/-- Runs a command line: its command is found first, then the level is set, then the command's own
words are read. -/
def run (t : Tree) (s : Settings) (words : List String) : Outcome :=
  match Invocation.ofWords words with
  | .error refusal => .early (.usage refusal)
  | .ok .help => .early (.exit 0)
  | .ok (.command asked name rest) =>
    match chooseLevel s asked with
    | .error fault => .early (.usage (.of fault))
    | .ok level =>
      let work : Work :=
        match name.readWords rest with
        | .error fault => .ending (.usage (.of fault))
        | .ok request => perform t s request
      ⟨work.printed, level, LogLine.shown level work.log, work.result⟩

/-- The path that a command line reads, if it gets as far as reading. -/
def source (s : Settings) (words : List String) : Option Path :=
  match Invocation.ofWords words with
  | .ok (.command _ name rest) =>
    match name.readWords rest with
    | .ok (.check _ layout) => some (Path.ofString layout)
    | .ok (.search _ directory _ _) => some (Path.ofString (directory.getD s.layoutsDir))
    | _ => none
  | _ => none

def variablesFile (t : Tree) : Option (List UInt8) :=
  match t.read (Path.ofString ".env") with
  | .ok bytes => some bytes
  | .error _ => none

def loadSettings (t : Tree) (environment : Fields String) : Except SettingsFault Settings :=
  Settings.load environment (variablesFile t)

end LayoutQuery.Command

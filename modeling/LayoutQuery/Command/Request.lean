import LayoutQuery.Command.Similar
import LayoutQuery.Command.Words

/-! # Requests
What a command line asks for. Its leading options are read up to the name of the command, then the
words of the command: bad values of options first, then what is missing, then what is too much. -/
namespace LayoutQuery.Command

inductive Request where
  | help
  | showConfig
  | parse (text : String)
  | check (conditions : List String) (layout : String)
  | search (conditions : List String) (directory pattern : Option String) (limit : Option Nat)
  deriving DecidableEq, Repr

inductive CommandName where
  | showConfig
  | parse
  | check
  | search
  deriving DecidableEq, Repr

namespace CommandName

def names : List (String × CommandName) := [
  ("show-config", .showConfig), ("parse", .parse), ("check", .check), ("search", .search)]

def options : CommandName → List OptionForm
  | .showConfig | .parse => [helpOption]
  | .check => [⟨"--layout", .path⟩, helpOption]
  | .search => [⟨"--layouts-dir", .path⟩, ⟨"--pattern", .text⟩, ⟨"--limit", .limit⟩, helpOption]

/-- The limit in the words of a search, when no value is refused. -/
def limit? (w : Words) : Option Nat := do (Limit.ofString (← w.value? "--limit")).toOption

def request (c : CommandName) (w : Words) : Except UsageFault Request :=
  if w.asksHelp then .ok .help
  else
    match w.badValue? c.options with
    | some fault => .error fault
    | none =>
      match c, w.arguments with
      | .showConfig, [] => .ok .showConfig
      | .showConfig, extra => .error (.extraArguments extra)
      | .parse, [] => .error (.argumentMissing "text")
      | .parse, [text] => .ok (.parse text)
      | .parse, _ :: extra => .error (.extraArguments extra)
      | _, [] => .error (.argumentMissing "conditions")
      | .check, conditions =>
        match w.value? "--layout" with
        | none => .error (.optionMissing "--layout")
        | some layout => .ok (.check conditions layout)
      | .search, conditions =>
        .ok (.search conditions (w.value? "--layouts-dir") (w.value? "--pattern") (limit? w))

def readWords (c : CommandName) (words : List String) : Except UsageFault Request := do
  c.request (← (sortWords c.options true words).mapError (·.fault))

end CommandName

def leadingOptions : List OptionForm := [
  ⟨"--log-level", .text⟩, ⟨"--install-completion", .flag⟩, ⟨"--show-completion", .flag⟩,
  helpOption]

/-- A command line up to its command: what it asks of all commands, and what is left. -/
inductive Invocation where
  | help
  | command (logLevel : Option String) (name : CommandName) (words : List String)
  deriving DecidableEq, Repr

/-- Refuses a command line, and suggests the commands that are close to the first of the words. -/
def refuse (fault : UsageFault) (words : List String) : Except Refusal Invocation :=
  let known := CommandName.names.map (·.1)
  .error ⟨fault, words.head?.elim [] fun word => closeWords word known⟩

/-- What becomes of words that start with no command. A word that looks like an option is first
taken for one, and suggestions are made for what is behind it. -/
def Invocation.withoutCommand (name : String) (words : List String) : Except Refusal Invocation :=
  if isOption name then
    match sortWords leadingOptions false words with
    | .error halt => refuse halt.fault halt.rest
    | .ok w => if w.asksHelp then .ok .help else refuse (.unknownCommand name) w.arguments
  else refuse (.unknownCommand name) words

def Invocation.ofWords (words : List String) : Except Refusal Invocation := do
  let w ← (sortWords leadingOptions false words).mapError fun halt => .of halt.fault
  if w.asksHelp then .ok .help
  else
    match w.arguments with
    | [] => .error (.of .commandMissing)
    | name :: rest =>
      match CommandName.names.lookup name with
      | some known => .ok (.command (w.value? "--log-level") known rest)
      | none => withoutCommand name w.arguments

end LayoutQuery.Command

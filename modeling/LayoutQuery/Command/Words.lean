import LayoutQuery.Command.Similar
import LayoutQuery.Command.Usage
import LayoutQuery.Fields
import LayoutQuery.Settings.Limit

/-! # Words of a command line
The words are options, which start with a hyphen, and arguments. An option that is not known, or
that lacks a value, is a fault before any value is looked at; then values are looked at in the order
in which their options were given. -/
namespace LayoutQuery.Command

/-- What an option takes. One that takes no value is a flag. -/
inductive OptionKind where
  | flag
  | text
  | path
  | limit
  deriving DecidableEq, Repr

structure OptionForm where
  name : String
  kind : OptionKind
  deriving DecidableEq, Repr

def helpOption : OptionForm := ⟨"--help", .flag⟩

def OptionKind.objection? : OptionKind → String → Option String
  | .flag, _ | .text, _ => none
  | .path, value =>
    if value.toList.contains '\x00' then some "Value error, embedded null byte" else none
  | .limit, value =>
    match Limit.ofString value with
    | .ok _ => none
    | .error fault => some fault.message

/-- The options in the order in which they were given, and the words that are none. -/
structure Words where
  options : List (String × String)
  arguments : List String

namespace Words

/-- The options under their names; of an option's values the last counts. -/
def values (w : Words) : Fields String := Fields.ofList w.options

def value? (w : Words) (option : String) : Option String := w.values.get? option

def asksHelp (w : Words) : Bool := w.options.any fun o => o.1 == helpOption.name

def badValue? (forms : List OptionForm) (w : Words) : Option UsageFault :=
  w.values.findSome? fun o => do
    let form ← forms.find? (·.name == o.1)
    let text ← form.kind.objection? o.2
    some (.badValue ("'" ++ o.1 ++ "'") text)

end Words

def splitOption (word : String) : String × Option String :=
  let name := word.toList.takeWhile (· != '=')
  match word.toList.drop name.length with
  | _ :: value => (String.ofList name, some (String.ofList value))
  | [] => (word, none)

/-- What is said of an option that is not known. Behind a single hyphen stand letters, of which
the first is named. -/
def unknownOption (forms : List OptionForm) (word : String) : UsageFault :=
  match word.toList with
  | '-' :: '-' :: _ =>
    let name := (splitOption word).1
    .unknownOption name (closeWords name (forms.map (·.name)))
  | cs => .unknownOption (String.ofList (cs.take 2)) []

def isOption (word : String) : Bool :=
  match word.toList with
  | '-' :: _ :: _ => true
  | _ => false

structure Halt where
  fault : UsageFault
  rest : List String

/-- Sorts words into options and arguments. Two hyphens end the options, and so does the first
argument unless options may stand between arguments. -/
def sortWords (forms : List OptionForm) (between : Bool) : List String → Except Halt Words
  | [] => .ok ⟨[], []⟩
  | word :: rest =>
    if word = "--" then .ok ⟨[], rest⟩
    else if isOption word then
      let (name, attached) := splitOption word
      match forms.find? (·.name == name), attached with
      | none, _ => .error ⟨unknownOption forms word, rest⟩
      | some ⟨_, .flag⟩, some _ => .error ⟨.valueUnwanted name, rest⟩
      | some ⟨_, .flag⟩, none => do
        let w ← sortWords forms between rest
        .ok { w with options := (name, "") :: w.options }
      | some _, some value => do
        let w ← sortWords forms between rest
        .ok { w with options := (name, value) :: w.options }
      | some _, none =>
        match rest with
        | [] => .error ⟨.valueMissing name, []⟩
        | value :: rest => do
          let w ← sortWords forms between rest
          .ok { w with options := (name, value) :: w.options }
    else if between then do
      let w ← sortWords forms between rest
      .ok { w with arguments := word :: w.arguments }
    else .ok ⟨[], word :: rest⟩

end LayoutQuery.Command

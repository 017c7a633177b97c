import LayoutQuery.Text.Blank
import LayoutQuery.Text.Quoted

/-! # Usage faults
What can be wrong with a command line, and what is said when it is refused. -/
namespace LayoutQuery.Command

inductive UsageFault where
  | unknownOption (name : String) (close : List String)
  | valueMissing (option : String)
  | valueUnwanted (option : String)
  | badValue (place text : String)
  | argumentMissing (name : String)
  | optionMissing (name : String)
  | extraArguments (words : List String)
  | unknownCommand (name : String)
  | commandMissing
  deriving DecidableEq, Repr

namespace UsageFault

def text : UsageFault → String
  | .unknownOption name _ => "No such option: " ++ Text.withoutControls name
  | .valueMissing option => "Option " ++ Text.quoted option ++ " requires an argument."
  | .valueUnwanted option => "Option " ++ Text.quoted option ++ " does not take a value."
  | .badValue place text => "Invalid value for " ++ place ++ ": " ++ text
  | .argumentMissing name => "Missing argument '" ++ name ++ "'."
  | .optionMissing name => "Missing option '" ++ name ++ "'."
  | .extraArguments words =>
    "Got unexpected extra argument(s) (" ++
      String.intercalate " " (words.map Text.withoutControls) ++ ")"
  | .unknownCommand name => "No such command " ++ Text.quoted name ++ "."
  | .commandMissing => "Missing command."

/-- The options that may have been meant, in ascending order. -/
def hint : UsageFault → String
  | .unknownOption _ [] => ""
  | .unknownOption _ close =>
    " (Possible options: " ++ String.intercalate ", " (close.mergeSort (· ≤ ·)) ++ ")"
  | _ => ""

end UsageFault

/-- Why a command line is refused, and the commands that may have been meant. -/
structure Refusal where
  fault : UsageFault
  commands : List String
  deriving DecidableEq, Repr

namespace Refusal

/-- A refusal that suggests no command. -/
def of (fault : UsageFault) : Refusal := ⟨fault, []⟩

/-- The fault's text; a suggestion takes the place of its last full stop. -/
def message (r : Refusal) : String :=
  let text := r.fault.text
  let suggested :=
    if r.commands.isEmpty then text
    else
      String.ofList (Text.dropEndWhile (· == '.') text.toList) ++ ". Did you mean " ++
        String.intercalate ", " (r.commands.map Text.quoted) ++ "?"
  suggested ++ r.fault.hint

end Refusal

end LayoutQuery.Command

import LayoutQuery.Condition.Basic
import LayoutQuery.Text.Quoted

/-! # Reading conditions
A keyword and a gap, then target, comparator and amount with optional gaps between, then nothing
but gaps. The first part that fails decides the error. -/
namespace LayoutQuery.Condition

/-- In what way a text fails to have the form of a condition. -/
inductive Malformed where
  | noKeyword
  | noComparison (keyword : String)
  | trailingInput
  deriving DecidableEq, Repr

def Malformed.message : Malformed → String
  | .noKeyword => "expected a condition keyword followed by whitespace"
  | .noComparison keyword =>
    "expected '<target> <comparator> <amount>' after " ++ Text.quoted keyword
  | .trailingInput => "unexpected trailing input"

inductive ParseError where
  | malformed (text : String) (reason : Malformed)
  | unknownKeyword (keyword : String)
  | unknownRoomType (target : String)
  | amountTooLong (fault : Text.TooManyDigits)
  deriving DecidableEq, Repr

def ParseError.message : ParseError → String
  | .malformed text reason => reason.message ++ ": " ++ Text.quoted text
  | .unknownKeyword keyword => "Unrecognized search condition " ++ Text.quoted keyword
  | .unknownRoomType target => "Invalid argument " ++ Text.quoted target
  | .amountTooLong fault => fault.message

/-- Whether the error speaks of the text as a condition. Only a numeral too long to be read is a
failure of another kind. -/
def ParseError.isConditionError : ParseError → Bool
  | .amountTooLong _ => false
  | _ => true

def isLetter (c : Char) : Bool := ('a' ≤ c && c ≤ 'z') || ('A' ≤ c && c ≤ 'Z')

def isKeywordChar (c : Char) : Bool := isLetter c || c == '_' || c == '-'

def isTargetChar (c : Char) : Bool := isLetter c || Text.isDigit c || c == '_' || c == '-'

inductive Keyword where
  | count
  | countUnit
  deriving DecidableEq, Repr

/-- Keywords are read in any letter case. -/
def Keyword.ofChars? (cs : List Char) : Option Keyword :=
  let lowered := String.ofList (cs.map Char.toLower)
  if lowered = "count" then some .count
  else if lowered = "count_unit" then some .countUnit
  else none

/-- The keyword in front of a text, and what follows the gap behind it. -/
def readKeyword (cs : List Char) : Option (List Char × List Char) :=
  let start := cs.dropWhile Text.isGap
  let word := start.takeWhile isKeywordChar
  let rest := start.dropWhile isKeywordChar
  if word.isEmpty || !(rest.head?.any Text.isGap) then none
  else some (word, rest.dropWhile Text.isGap)

/-- Target, comparator and amount as they are written, and what follows them. -/
structure Comparison where
  target : List Char
  relation : Relation
  digits : List Char
  rest : List Char
  deriving DecidableEq, Repr

def readComparison (cs : List Char) : Option Comparison :=
  let target := cs.takeWhile isTargetChar
  let afterTarget := (cs.dropWhile isTargetChar).dropWhile Text.isGap
  match afterTarget with
  | [] => none
  | symbol :: afterSymbol =>
    match Relation.ofSymbol? symbol with
    | none => none
    | some relation =>
      let numeral := afterSymbol.dropWhile Text.isGap
      let digits := numeral.takeWhile Text.isDigit
      if target.isEmpty || digits.isEmpty then none
      else some ⟨target, relation, digits, numeral.dropWhile Text.isDigit⟩

def readSubject (keyword : Keyword) (target : String) : Except ParseError Subject :=
  match keyword with
  | .count => .ok (.entity target)
  | .countUnit =>
    match RoomType.ofToken? target with
    | some type => .ok (.room type)
    | none => .error (.unknownRoomType target)

def parse (text : String) : Except ParseError Condition :=
  match readKeyword text.toList with
  | none => .error (.malformed text .noKeyword)
  | some (word, body) =>
    match Keyword.ofChars? word with
    | none => .error (.unknownKeyword (String.ofList word))
    | some keyword =>
      match readComparison body with
      | none => .error (.malformed text (.noComparison (String.ofList word)))
      | some comparison =>
        if !comparison.rest.all Text.isGap then .error (.malformed text .trailingInput)
        else
          match Text.readNatural comparison.digits with
          | .error fault => .error (.amountTooLong fault)
          | .ok amount => do
            let subject ← readSubject keyword (String.ofList comparison.target)
            .ok ⟨subject, comparison.relation, amount⟩

end LayoutQuery.Condition

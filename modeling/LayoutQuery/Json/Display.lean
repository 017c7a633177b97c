import LayoutQuery.Json.Basic
import LayoutQuery.Number.Shortest
import LayoutQuery.Text.Quoted

/-! # Display of JSON values
The text that stands for a value where a name is wanted. A string stands for itself; inside a list
or an object strings are quoted. -/
namespace LayoutQuery

/-- Digits with the point after the first and the exponent behind; at least two digits of it. -/
def Number.scientificText (digits : List Char) (exponent : Int) : List Char :=
  let mantissa :=
    match digits with
    | first :: second :: rest => first :: '.' :: second :: rest
    | _ => digits
  let size := Text.decimal exponent.natAbs
  mantissa ++ ['e', if exponent < 0 then '-' else '+'] ++
    (if size.length < 2 then '0' :: size else size)

/-- Digits in their places before and after the point; a whole number ends in `.0`. -/
def Number.positionalText (digits : List Char) (exponent : Int) : List Char :=
  if exponent < 0 then ['0', '.'] ++ List.replicate (-exponent - 1).toNat '0' ++ digits
  else
    let whole := exponent.toNat + 1
    let padded := digits ++ List.replicate (whole + 1 - digits.length) '0'
    padded.take whole ++ '.' :: padded.drop whole

/-- The fewest digits that read back, positional for exponents from -4 to 15. -/
def Number.Binary.display : Number.Binary → String
  | .nan => "nan"
  | .infinite negative => if negative then "-inf" else "inf"
  | .finite negative 0 _ => if negative then "-0.0" else "0.0"
  | .finite negative mantissa q =>
    let (digits, exponent) := (Number.shortest mantissa q).leading
    let text :=
      if -4 ≤ exponent ∧ exponent < 16 then Number.positionalText digits exponent
      else Number.scientificText digits exponent
    (if negative then "-" else "") ++ String.ofList text

namespace Json

mutual

/-- A value as it stands inside a list or an object. -/
def inner : Json → String
  | .null => "None"
  | .bool b => if b then "True" else "False"
  | .integer n => Text.integer n
  | .number x => x.display
  | .string s => Text.quoted s
  | .array items => "[" ++ String.intercalate ", " (innerItems items) ++ "]"
  | .object members => "\x7b" ++ String.intercalate ", " (innerMembers members) ++ "\x7d"

def innerItems : List Json → List String
  | [] => []
  | v :: rest => v.inner :: innerItems rest

def innerMembers : List (String × Json) → List String
  | [] => []
  | (name, v) :: rest => (Text.quoted name ++ ": " ++ v.inner) :: innerMembers rest

end

def display : Json → String
  | .string s => s
  | v => v.inner

end Json

end LayoutQuery

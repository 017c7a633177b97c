import LayoutQuery.Text.Blank
import LayoutQuery.Text.Decimal

/-! # Limits
A limit is a whole number of at least one. Around its digits there may be blanks, a sign, zeros in
front, a fraction of zeros behind, and single underscores between two digits. A number of more than
`Text.digitLimit` digits is not read. -/
namespace LayoutQuery

inductive LimitFault where
  | notInteger
  | tooLong
  | belowOne
  deriving DecidableEq, Repr

def LimitFault.message : LimitFault → String
  | .notInteger => "Input should be a valid integer, unable to parse string as an integer"
  | .tooLong => "Unable to parse input string as an integer, exceeded maximum size"
  | .belowOne => "Input should be greater than or equal to 1"

namespace Limit

/-- The blanks that may stand around a limit; the controls that separate fields are none. -/
def isSpace (c : Char) : Bool := Text.isBlank c && !(0x1C ≤ c.toNat && c.toNat ≤ 0x1F)

/-- Drops the zeros in front of a numeral, and underscores among them. A zero stays if nothing or a
point is behind it; else a digit or a minus sign has to be. `last` is what was dropped last. -/
def dropZerosAfter (last : Char) : List Char → Option (List Char)
  | [] => some [last]
  | c :: cs =>
    if c = '0' ∨ c = '_' then dropZerosAfter c cs
    else if c = '.' then some (last :: c :: cs)
    else if Text.isDigit c ∨ c = '-' then some (c :: cs)
    else none

/-- Drops the zeros in front of a numeral, which has to start with a digit. -/
def dropZeros : List Char → Option (List Char)
  | [] => none
  | c :: cs =>
    if c = '0' then dropZerosAfter c cs else if Text.isDigit c then some (c :: cs) else none

/-- Drops a fraction that is all zeros and has at least one. -/
def dropFraction (cs : List Char) : List Char :=
  let fraction := (cs.dropWhile (· != '.')).drop 1
  if !fraction.isEmpty && fraction.all (· == '0') then cs.takeWhile (· != '.') else cs

def hasDoubleUnderscore : List Char → Bool
  | a :: b :: rest => (a == '_' && b == '_') || hasDoubleUnderscore (b :: rest)
  | _ => false

/-- Drops underscores, of which none may stand at an end or beside another. -/
def dropUnderscores (cs : List Char) : Option (List Char) :=
  if cs.head? = some '_' ∨ cs.getLast? = some '_' ∨ hasDoubleUnderscore cs then none
  else some (cs.filter (· != '_'))

def plain? (cs : List Char) : Option (List Char) := do
  let cs := Text.trimBoth isSpace cs
  let (sign, body) :=
    match cs with
    | '-' :: body => (['-'], body)
    | '+' :: body => ([], body)
    | _ => ([], cs)
  dropUnderscores (sign ++ dropFraction (← dropZeros body))

/-- A plain numeral: a minus sign or none, and digits with no zero in front. -/
def number? (cs : List Char) : Option Int :=
  let (negative, digits) :=
    match cs with
    | '-' :: digits => (true, digits)
    | _ => (false, cs)
  if digits.isEmpty || !digits.all Text.isDigit || (digits.head? = some '0' && digits ≠ ['0']) ||
      Text.digitLimit < digits.length then none
  else
    let size : Int := Text.decimalValue digits
    some (if negative then -size else size)

/-- Whether a text starts as a plain numeral and goes on for more digits than can be read. -/
def isOverlong (cs : List Char) : Bool :=
  let sign := cs.takeWhile (· == '-') |>.take 1
  let digits := (cs.drop sign.length).takeWhile Text.isDigit
  digits.head? != some '0' && Text.digitLimit < digits.length

def ofString (s : String) : Except LimitFault Nat :=
  if isOverlong s.toList then .error .tooLong
  else
    match (plain? s.toList).bind number? with
    | none => .error .notInteger
    | some n => if n < 1 then .error .belowOne else .ok n.toNat

end Limit

end LayoutQuery

import LayoutQuery.Json.Basic
import LayoutQuery.Json.Fault

/-! # Reading JSON numbers
A numeral takes as many characters as fit its form; a point or a letter that no digit follows is
left to what comes next. -/
namespace LayoutQuery.Json

/-- The parts of a number's spelling. A fraction or an exponent is there when it has digits. -/
structure Numeral where
  negative : Bool
  whole : List Char
  fraction : Option (List Char)
  exponent : Option Int

/-- A fraction, unless no digit follows the point. -/
def readFraction (cs : List Char) : Option (List Char) × List Char :=
  match cs with
  | '.' :: more =>
    match more.takeWhile Text.isDigit with
    | [] => (none, cs)
    | digits => (some digits, more.dropWhile Text.isDigit)
  | _ => (none, cs)

/-- An exponent, unless it has no digit. -/
def readExponent (cs : List Char) : Option Int × List Char :=
  match cs with
  | [] => (none, [])
  | e :: more =>
    if e = 'e' ∨ e = 'E' then
      let (negative, body) :=
        match more with
        | '-' :: body => (true, body)
        | '+' :: body => (false, body)
        | _ => (false, more)
      match body.takeWhile Text.isDigit with
      | [] => (none, cs)
      | digits =>
        let size : Int := Text.decimalValue digits
        (some (if negative then -size else size), body.dropWhile Text.isDigit)
    else (none, cs)

/-- A number. Its whole part is a lone zero or starts with another digit. -/
def readNumeral (cs : List Char) : Option (Numeral × List Char) :=
  let (negative, body) :=
    match cs with
    | '-' :: body => (true, body)
    | _ => (false, cs)
  match body with
  | [] => none
  | c :: more =>
    if !Text.isDigit c then none
    else
      let (whole, rest) :=
        if c = '0' then (['0'], more)
        else (c :: more.takeWhile Text.isDigit, more.dropWhile Text.isDigit)
      let (fraction, rest) := readFraction rest
      let (exponent, rest) := readExponent rest
      some (⟨negative, whole, fraction, exponent⟩, rest)

def Numeral.value (n : Numeral) : Except Stop Json :=
  match n.fraction, n.exponent with
  | none, none =>
    match Text.readNatural n.whole with
    | .ok size => .ok (.integer (if n.negative then -(size : Int) else size))
    | .error e => .error (.tooManyDigits e)
  | _, _ =>
    let fraction := n.fraction.getD []
    let digits := (n.whole ++ fraction).dropWhile (· == '0')
    .ok (.number (Number.Binary.ofDecimal n.negative (Text.decimalValue digits) digits.length
      (n.exponent.getD 0 - fraction.length)))

end LayoutQuery.Json

import LayoutQuery.Json.Numeral
import LayoutQuery.Json.StringReader

/-! # Reading JSON
A reader takes a value off the front of a text and leaves the rest. A text holds one value, with
blanks before and behind it. -/
namespace LayoutQuery.Json

def isSpace (c : Char) : Bool := c == ' ' || c == '\t' || c == '\n' || c == '\r'

def skipSpaces (cs : List Char) : List Char := cs.dropWhile isSpace

/-- The values that are spelled by one word. -/
def words : List (String × Json) := [
  ("null", .null), ("true", .bool true), ("false", .bool false), ("NaN", .number .nan),
  ("Infinity", .number (.infinite false)), ("-Infinity", .number (.infinite true))]

def readWord (cs : List Char) : Option (Json × List Char) :=
  words.findSome? fun w => (Text.after? w.1.toList cs).map (w.2, ·)

mutual

/-- Reads a value. A bracket takes a step, and so does the item behind it, so `fuel` need only exceed
twice the number of characters. -/
def readValue : Nat → List Char → Except Stop (Json × List Char)
  | 0, cs => .error (.complaint .valueExpected cs)
  | fuel + 1, cs =>
    match cs with
    | '"' :: more => do
      let (s, rest) ← readString cs more
      .ok (.string (String.ofList s), rest)
    | '{' :: more =>
      match skipSpaces more with
      | '}' :: rest => .ok (.object [], rest)
      | first => do
        let (members, rest) ← readMembers fuel first
        .ok (ofMembers members, rest)
    | '[' :: more =>
      match skipSpaces more with
      | ']' :: rest => .ok (.array [], rest)
      | first => do
        let (items, rest) ← readItems fuel first
        .ok (.array items, rest)
    | _ =>
      match readWord cs with
      | some found => .ok found
      | none =>
        match readNumeral cs with
        | some (n, rest) => do
          let v ← n.value
          .ok (v, rest)
        | none => .error (.complaint .valueExpected cs)

/-- Reads the items of a list up to its closing bracket. -/
def readItems : Nat → List Char → Except Stop (List Json × List Char)
  | 0, cs => .error (.complaint .valueExpected cs)
  | fuel + 1, cs => do
    let (v, rest) ← readValue fuel cs
    match skipSpaces rest with
    | ']' :: rest => .ok ([v], rest)
    | ',' :: rest => do
      let (vs, rest) ← readItems fuel (skipSpaces rest)
      .ok (v :: vs, rest)
    | rest => .error (.complaint .commaExpected rest)

/-- Reads the members of an object up to its closing brace. -/
def readMembers : Nat → List Char → Except Stop (List (String × Json) × List Char)
  | 0, cs => .error (.complaint .nameExpected cs)
  | fuel + 1, cs =>
    match cs with
    | '"' :: more => do
      let (name, rest) ← readString cs more
      match skipSpaces rest with
      | ':' :: rest => do
        let (v, rest) ← readValue fuel (skipSpaces rest)
        let member := (String.ofList name, v)
        match skipSpaces rest with
        | '}' :: rest => .ok ([member], rest)
        | ',' :: rest => do
          let (members, rest) ← readMembers fuel (skipSpaces rest)
          .ok (member :: members, rest)
        | rest => .error (.complaint .commaExpected rest)
      | rest => .error (.complaint .colonExpected rest)
    | _ => .error (.complaint .nameExpected cs)

end

/-- Reads a text that holds one value, with blanks before and behind it. -/
def readText (cs : List Char) : Except Stop Json :=
  match cs with
  | '\uFEFF' :: _ => .error (.complaint .byteOrderMark cs)
  | _ => do
    let (v, rest) ← readValue (2 * cs.length + 1) (skipSpaces cs)
    match skipSpaces rest with
    | [] => .ok v
    | extra => .error (.complaint .extraData extra)

def parse (cs : List Char) : Except Fault Json := (readText cs).mapError (Stop.fault cs)

end LayoutQuery.Json

import LayoutQuery.Json.Fault
import LayoutQuery.Text.Word

/-! # Reading JSON strings
A string ends at the first quote that is not escaped. Characters outside the first plane are
spelled by two escapes, one for each half. -/
namespace LayoutQuery.Json

def hexValue? (c : Char) : Option Nat :=
  if '0' ≤ c ∧ c ≤ '9' then some (c.toNat - '0'.toNat)
  else if 'a' ≤ c ∧ c ≤ 'f' then some (c.toNat - 'a'.toNat + 10)
  else if 'A' ≤ c ∧ c ≤ 'F' then some (c.toNat - 'A'.toNat + 10)
  else none

/-- The number that the first four characters spell in base sixteen. -/
def fourHex? : List Char → Option Nat
  | a :: b :: c :: d :: _ => do
    let a ← hexValue? a
    let b ← hexValue? b
    let c ← hexValue? c
    let d ← hexValue? d
    some (((a * 16 + b) * 16 + c) * 16 + d)
  | _ => none

/-- The character that an escape spells, and how many characters the spelling takes. -/
structure Escape where
  char : Char
  width : Nat

def isHighHalf (n : Nat) : Bool := 0xD800 ≤ n && n < 0xDC00

def isLowHalf (n : Nat) : Bool := 0xDC00 ≤ n && n < 0xE000

/-- The character of one code unit; half of a pair that stands alone is no character. -/
def unitChar (n : Nat) : Char := if isHighHalf n || isLowHalf n then '\uFFFD' else Char.ofNat n

/-- An escape by code, from its `u` on. A high half takes the low half that follows it. Four
digits must be followed by something, since the string has still to end. -/
def readCodeEscape (cs : List Char) : Except Stop Escape :=
  let digits := cs.drop 1
  if digits.length ≤ 4 then .error (.complaint .badCodeEscape cs)
  else
    match fourHex? digits with
    | none => .error (.complaint .badCodeEscape cs)
    | some n =>
      let next := digits.drop 4
      match isHighHalf n, decide (6 < next.length), Text.after? ['\\', 'u'] next with
      | true, true, some more =>
        match fourHex? more with
        | none => .error (.complaint .badCodeEscape (next.drop 1))
        | some m =>
          if isLowHalf m then
            .ok ⟨Char.ofNat (0x10000 + (n - 0xD800) * 0x400 + (m - 0xDC00)), 11⟩
          else .ok ⟨unitChar n, 5⟩
      | _, _, _ => .ok ⟨unitChar n, 5⟩

def simpleEscape? : Char → Option Char
  | '"' => some '"'
  | '\\' => some '\\'
  | '/' => some '/'
  | 'b' => some '\x08'
  | 'f' => some '\x0c'
  | 'n' => some '\n'
  | 'r' => some '\r'
  | 't' => some '\t'
  | _ => none

/-- An escape, from behind its backslash on, in the string whose quote opens `start`. -/
def readEscape (start cs : List Char) : Except Stop Escape :=
  match cs with
  | [] => .error (.complaint .unterminatedString start)
  | 'u' :: _ => readCodeEscape cs
  | c :: _ =>
    match simpleEscape? c with
    | some d => .ok ⟨d, 1⟩
    | none => .error (.complaint .badEscape ('\\' :: cs))

/-- A string, from behind its opening quote on; `start` is the text from that quote on. -/
def readString (start : List Char) : List Char → Except Stop (List Char × List Char)
  | [] => .error (.complaint .unterminatedString start)
  | c :: cs =>
    if c = '"' then .ok ([], cs)
    else if c = '\\' then do
      let e ← readEscape start cs
      let (s, rest) ← readString start (cs.drop e.width)
      .ok (e.char :: s, rest)
    else if c.toNat < 0x20 then .error (.complaint .controlCharacter (c :: cs))
    else do
      let (s, rest) ← readString start cs
      .ok (c :: s, rest)
termination_by cs => cs.length

end LayoutQuery.Json

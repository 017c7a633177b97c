import LayoutQuery.Text.Decimal
import LayoutQuery.Text.Lines

/-! # Faults in JSON
Why reading a text stops, and how the place is told. While reading, a place is the part of the text
that starts there; in the end it has an offset, a line and a column. -/
namespace LayoutQuery.Json

inductive Complaint where
  | byteOrderMark
  | valueExpected
  | nameExpected
  | colonExpected
  | commaExpected
  | extraData
  | unterminatedString
  | controlCharacter
  | badEscape
  | badCodeEscape
  deriving DecidableEq, Repr

def Complaint.message : Complaint → String
  | .byteOrderMark => "Unexpected UTF-8 BOM (decode using utf-8-sig)"
  | .valueExpected => "Expecting value"
  | .nameExpected => "Expecting property name enclosed in double quotes"
  | .colonExpected => "Expecting ':' delimiter"
  | .commaExpected => "Expecting ',' delimiter"
  | .extraData => "Extra data"
  | .unterminatedString => "Unterminated string starting at"
  | .controlCharacter => "Invalid control character at"
  | .badEscape => "Invalid \\escape"
  | .badCodeEscape => "Invalid \\uXXXX escape"

/-- Why reading stopped: a complaint about the text from `rest` on, or a whole number too long. -/
inductive Stop where
  | complaint (what : Complaint) (rest : List Char)
  | tooManyDigits (fault : Text.TooManyDigits)
  deriving DecidableEq, Repr

/-- What is wrong with a text, and where. -/
structure SyntaxFault where
  what : Complaint
  place : Text.Place
  deriving DecidableEq, Repr

def SyntaxFault.message (f : SyntaxFault) : String :=
  f.what.message ++ ": line " ++ Text.natural f.place.line ++ " column " ++
    Text.natural f.place.column ++ " (char " ++ Text.natural f.place.offset ++ ")"

inductive Fault where
  | malformed (fault : SyntaxFault)
  | tooManyDigits (fault : Text.TooManyDigits)
  deriving DecidableEq, Repr

def Fault.message : Fault → String
  | .malformed f => f.message
  | .tooManyDigits f => f.message

/-- The fault of a text in which reading stopped. -/
def Stop.fault (cs : List Char) : Stop → Fault
  | .complaint what rest => .malformed ⟨what, Text.placeAfter (cs.take (cs.length - rest.length))⟩
  | .tooManyDigits f => .tooManyDigits f

end LayoutQuery.Json

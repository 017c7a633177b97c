import LayoutQuery.Fields
import LayoutQuery.Number.Binary

/-! # JSON values
Numbers written without point and exponent are whole numbers of any size; all others are binary.
The members of an object keep the order in which their names first appeared. -/
namespace LayoutQuery

inductive Json where
  | null
  | bool (value : Bool)
  | integer (value : Int)
  | number (value : Number.Binary)
  | string (value : String)
  | array (items : List Json)
  | object (members : List (String × Json))
  deriving Inhabited

namespace Json

/-- The object of a list of members, of which the last of each name counts. -/
def ofMembers (members : List (String × Json)) : Json := .object (Fields.ofList members)

/-- A member's value, when the value is an object that has it. -/
def get? (name : String) : Json → Option Json
  | .object members => Fields.get? name members
  | _ => none

/-- What kind of value this is, in one word. -/
def kind : Json → String
  | .null => "NoneType"
  | .bool _ => "bool"
  | .integer _ => "int"
  | .number _ => "float"
  | .string _ => "str"
  | .array _ => "list"
  | .object _ => "dict"

/-- Whether the value counts as nothing: null, false, a zero, or empty. -/
def isVoid : Json → Bool
  | .null => true
  | .bool b => !b
  | .integer n => n == 0
  | .number x => x.isZero
  | .string s => s == ""
  | .array items => items.isEmpty
  | .object members => members.isEmpty

end Json

end LayoutQuery

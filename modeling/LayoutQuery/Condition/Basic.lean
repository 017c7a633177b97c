import LayoutQuery.Text.Blank
import LayoutQuery.Text.Case
import LayoutQuery.Text.Decimal
import LayoutQuery.Text.Quoted

/-! # Conditions
A condition compares how often its subject occurs in a layout with an amount. Its canonical text
is what the parser reads back. -/
namespace LayoutQuery

inductive Relation where
  | less
  | equal
  | greater
  deriving DecidableEq, Repr

namespace Relation

def symbol : Relation → Char
  | .less => '<'
  | .equal => '='
  | .greater => '>'

def ofSymbol? : Char → Option Relation
  | '<' => some .less
  | '=' => some .equal
  | '>' => some .greater
  | _ => none

def compare (left right : Int) : Relation :=
  if left < right then .less else if right < left then .greater else .equal

theorem ofSymbol?_symbol (r : Relation) : ofSymbol? r.symbol = some r := by
  cases r <;> rfl

theorem symbol_of_ofSymbol? {c : Char} {r : Relation} (h : ofSymbol? c = some r) :
    r.symbol = c := by
  unfold ofSymbol? at h
  split at h <;> cases h <;> rfl

end Relation

inductive RoomType where
  | room
  | deadEnd
  | hallway
  deriving DecidableEq, Repr

namespace RoomType

/-- The one token that a room type is written with. -/
def token : RoomType → String
  | .room => "room"
  | .deadEnd => "cap"
  | .hallway => "hall"

def tokens : List (String × RoomType) := [
  ("room", .room), ("cap", .deadEnd), ("alcove", .deadEnd), ("hall", .hallway),
  ("hallway", .hallway)]

/-- Reads any token, in any letter case and with blanks around it. -/
def ofToken? (s : String) : Option RoomType := tokens.lookup (Text.lower (Text.trim s))

end RoomType

inductive Subject where
  | entity (name : String)
  | room (type : RoomType)
  deriving DecidableEq, Repr

namespace Subject

def keyword : Subject → String
  | .entity _ => "count"
  | .room _ => "count_unit"

def target : Subject → String
  | .entity name => name
  | .room type => type.token

/-- Names are kept without the blanks around them. -/
def trimmed : Subject → Subject
  | .entity name => .entity (Text.trim name)
  | .room type => .room type

end Subject

@[ext]
structure Condition where
  subject : Subject
  relation : Relation
  amount : Nat
  deriving DecidableEq, Repr

namespace Condition

/-- The canonical text: keyword, target, comparator and amount with single spaces between. -/
def render (c : Condition) : String :=
  c.subject.keyword ++ " " ++ c.subject.target ++ " " ++ String.singleton c.relation.symbol ++
    " " ++ Text.natural c.amount

inductive PartError where
  | unknownRelation (text : String)
  | unknownRoomType (text : String)
  | negativeAmount (amount : Int)
  deriving DecidableEq, Repr

def PartError.message : PartError → String
  | .unknownRelation text => Text.quoted text ++ " is not a valid Ordering"
  | .unknownRoomType text => Text.quoted text ++ " is not a valid RoomType"
  | .negativeAmount amount => "amount must be non-negative, got " ++ Text.integer amount

def readRelation (text : String) : Except PartError Relation :=
  match text.toList with
  | [c] => (Relation.ofSymbol? c).elim (.error (.unknownRelation text)) .ok
  | _ => .error (.unknownRelation text)

def readRoomType (text : String) : Except PartError RoomType :=
  match [RoomType.room, .deadEnd, .hallway].find? (·.token == text) with
  | some type => .ok type
  | none => .error (.unknownRoomType text)

def make (subject : Subject) (relation : Relation) : Int → Except PartError Condition
  | .ofNat n => .ok ⟨subject.trimmed, relation, n⟩
  | .negSucc n => .error (.negativeAmount (.negSucc n))

end Condition

end LayoutQuery

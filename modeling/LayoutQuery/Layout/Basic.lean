import LayoutQuery.Condition.Basic
import LayoutQuery.Json.Display

/-! # Layouts
A generated layout: the entities placed in it and the map units that it is built from. It is
decoded from a JSON object, and the first fault in a fixed order is reported. -/
namespace LayoutQuery

structure Entity where
  name : String
  /-- Any value that the generator attached, null if none. -/
  kind : Json

structure MapUnit where
  name : String
  type : RoomType
  deriving DecidableEq, Repr

structure Layout where
  name : String
  entities : List Entity
  units : List MapUnit

namespace Layout

/-- What is wrong with a decoded value. -/
inductive Fault where
  | notObject (kind : String)
  | notList (member kind : String)
  | entityName (index : Nat)
  | unitRoomType (index : Nat)
  | unknownRoomType (index : Nat) (token : String)
  deriving DecidableEq, Repr

def Fault.message : Fault → String
  | .notObject kind => "Layout payload must be a JSON object, got " ++ kind
  | .notList member kind => member ++ " must be a list, got " ++ kind
  | .entityName index => "spawn_objects[" ++ Text.natural index ++ "] needs a string 'name'"
  | .unitRoomType index => "map_units[" ++ Text.natural index ++ "] needs a string 'room_type'"
  | .unknownRoomType index token =>
    "map_units[" ++ Text.natural index ++ "] has unknown room_type " ++ Text.quoted token

/-- A list member. Absent and null stand for the empty list. -/
def listMember (member : String) (v : Json) : Except Fault (List Json) :=
  match v.get? member with
  | none | some .null => .ok []
  | some (.array items) => .ok items
  | some other => .error (.notList member other.kind)

def decodeEntity (index : Nat) (v : Json) : Except Fault Entity :=
  match v.get? "name" with
  | some (.string name) => .ok ⟨name, (v.get? "kind").getD .null⟩
  | _ => .error (.entityName index)

/-- A unit without a name is named for its place in the list. -/
def decodeUnit (index : Nat) (v : Json) : Except Fault MapUnit :=
  match v.get? "room_type" with
  | some (.string token) =>
    match RoomType.ofToken? token with
    | some type =>
      .ok ⟨(v.get? "unit").elim ("unit_" ++ Text.natural index) Json.display, type⟩
    | none => .error (.unknownRoomType index token)
  | _ => .error (.unitRoomType index)

/-- Decodes the items in order, the first of them at `index`. -/
def decodeAll {α : Type} (decode : Nat → Json → Except Fault α) (index : Nat) :
    List Json → Except Fault (List α)
  | [] => .ok []
  | v :: rest => do
    let x ← decode index v
    let xs ← decodeAll decode (index + 1) rest
    .ok (x :: xs)

/-- A name that counts as nothing gives way to the default. -/
def decodeName (default : String) (v : Json) : String :=
  match v.get? "name" with
  | some name => if name.isVoid then default else name.display
  | none => default

def ofJson (defaultName : String) (v : Json) : Except Fault Layout :=
  match v with
  | .object _ => do
    let entities ← decodeAll decodeEntity 0 (← listMember "spawn_objects" v)
    let units ← decodeAll decodeUnit 0 (← listMember "map_units" v)
    .ok ⟨decodeName defaultName v, entities, units⟩
  | other => .error (.notObject other.kind)

end Layout

end LayoutQuery

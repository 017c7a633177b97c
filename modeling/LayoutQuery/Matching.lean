import LayoutQuery.Layout.Basic

/-! # Matching
How often a subject occurs in a layout, and whether a condition holds of it. Entity names are
compared without regard to letter case. -/
namespace LayoutQuery

namespace Layout

def countEntities (l : Layout) (name : String) : Nat :=
  l.entities.countP fun e => Text.Alike e.name name

def countRooms (l : Layout) (type : RoomType) : Nat :=
  l.units.countP fun u => u.type = type

def count (l : Layout) : Subject → Nat
  | .entity name => l.countEntities name
  | .room type => l.countRooms type

end Layout

namespace Condition

def Holds (c : Condition) (l : Layout) : Prop :=
  Relation.compare (l.count c.subject) c.amount = c.relation

instance (c : Condition) (l : Layout) : Decidable (c.Holds l) :=
  inferInstanceAs (Decidable (_ = _))

end Condition

end LayoutQuery

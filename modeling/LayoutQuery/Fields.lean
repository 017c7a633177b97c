/-! # Fields
Lists of named values. A name that is set again keeps its place. -/
namespace LayoutQuery

abbrev Fields (α : Type) := List (String × α)

namespace Fields

variable {α : Type}

def get? (name : String) (fields : Fields α) : Option α := fields.lookup name

def put (name : String) (value : α) : Fields α → Fields α
  | [] => [(name, value)]
  | (other, old) :: rest =>
    if other = name then (other, value) :: rest else (other, old) :: put name value rest

/-- The fields of a list in which the last value of each name counts. -/
def ofList (pairs : List (String × α)) : Fields α :=
  pairs.foldl (fun done p => put p.1 p.2 done) []

end Fields

end LayoutQuery

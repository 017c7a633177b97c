/-! # Paths
A path is a list of parts. Empty parts and single dots are dropped when it is read, two dots are
kept. Paths are ordered part by part. -/
namespace LayoutQuery

def splitSlashes : List Char → List (List Char)
  | [] => [[]]
  | c :: cs =>
    match splitSlashes cs with
    | [] => [[c]]
    | first :: rest => if c = '/' then [] :: first :: rest else (c :: first) :: rest

/-- The parts of a text that say something. -/
def pathParts (s : String) : List String :=
  ((splitSlashes s.toList).map String.ofList).filter fun part => part ≠ "" ∧ part ≠ "."

/-- Two slashes in front are a root of their own; any other number is the same as one. -/
def pathRoot (s : String) : String :=
  match (s.toList.takeWhile (· == '/')).length with
  | 0 => ""
  | 2 => "//"
  | _ => "/"

structure Path where
  /-- Empty for a path that starts in the working directory. -/
  root : String
  parts : List String
  deriving DecidableEq, Repr

namespace Path

def here : Path := ⟨"", []⟩

def ofString (s : String) : Path := ⟨pathRoot s, pathParts s⟩

protected def toString (p : Path) : String :=
  if p = here then "." else p.root ++ String.intercalate "/" p.parts

def child (p : Path) (name : String) : Path := { p with parts := p.parts ++ [name] }

def key (p : Path) : List String := if p.root = "" then p.parts else p.root :: p.parts

/-- The last part without its last suffix. A dot in front or at the end starts no suffix. -/
def stemOf (name : List Char) : List Char :=
  let suffix := name.reverse.takeWhile (· != '.')
  let base := (name.reverse.dropWhile (· != '.')).drop 1
  if suffix.isEmpty || base.isEmpty then name else base.reverse

/-- The last part; empty if there is none. -/
def name (p : Path) : String := p.parts.getLast?.getD ""

def stem (p : Path) : String := String.ofList (stemOf p.name.toList)

def insert (p : Path) : List Path → List Path
  | [] => [p]
  | q :: rest =>
    if p.key < q.key then p :: q :: rest
    else if p = q then q :: rest
    else q :: insert p rest

def sorted (paths : List Path) : List Path := paths.foldr insert []

end Path

end LayoutQuery

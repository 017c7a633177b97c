/-! # Similar words
How much two words have in common, and the known words that are close to one that is not known. -/
namespace LayoutQuery.Command

def commonStart : List Char → List Char → Nat
  | a :: as, b :: bs => if a = b then commonStart as bs + 1 else 0
  | _, _ => 0

/-- A stretch that two words share: where it starts in each, and its length. -/
structure Block where
  left : Nat
  right : Nat
  size : Nat
  deriving DecidableEq, Repr

/-- The longest shared stretch, the first one of that length. -/
def longestBlock (a b : List Char) : Block :=
  let starts := (List.range a.length).flatMap fun i => (List.range b.length).map fun j => (i, j)
  starts.foldl
    (fun best s =>
      let size := commonStart (a.drop s.1) (b.drop s.2)
      if best.size < size then ⟨s.1, s.2, size⟩ else best)
    ⟨0, 0, 0⟩

/-- The number of characters in shared stretches: the longest one, and those of the words before
and behind it. `fuel` need only exceed the length of `a`. -/
def shared : Nat → List Char → List Char → Nat
  | 0, _, _ => 0
  | fuel + 1, a, b =>
    let block := longestBlock a b
    if block.size = 0 then 0
    else
      block.size + shared fuel (a.take block.left) (b.take block.right) +
        shared fuel (a.drop (block.left + block.size)) (b.drop (block.right + block.size))

/-- Twice what two words share, over the length of both. -/
structure Likeness where
  twice : Nat
  total : Nat
  deriving DecidableEq, Repr

def likeness (a b : String) : Likeness :=
  ⟨2 * shared (a.length + 1) a.toList b.toList, a.length + b.length⟩

def Likeness.lt (x y : Likeness) : Bool := x.twice * y.total < y.twice * x.total

/-- Three fifths in common are close. -/
def Likeness.isClose (x : Likeness) : Bool := 3 * x.total ≤ 5 * x.twice

/-- Adds a word to a list with the closest first, and greater words before others as close. -/
def rank (x : Likeness × String) : List (Likeness × String) → List (Likeness × String)
  | [] => [x]
  | y :: rest =>
    if y.1.lt x.1 || (!x.1.lt y.1 && y.2 < x.2) then x :: y :: rest else y :: rank x rest

def greatestLikeness (a b : String) : Likeness := ⟨2 * min a.length b.length, a.length + b.length⟩

/-- At most three close words, the closest first. Words that their lengths keep apart are not
compared. -/
def closeWords (word : String) (known : List String) : List String :=
  let close := known.filterMap fun k =>
    if (greatestLikeness k word).isClose then
      let l := likeness k word
      if l.isClose then some (l, k) else none
    else none
  ((close.foldr rank []).take 3).map (·.2)

end LayoutQuery.Command

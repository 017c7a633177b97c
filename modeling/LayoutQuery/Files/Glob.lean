import LayoutQuery.Files.Tree
import LayoutQuery.Files.Wildcard

/-! # Globs
A glob is a path whose parts may hold wildcards; a part of two stars leads to a directory and to
all directories below it. It selects paths that exist, in ascending order and each once. -/
namespace LayoutQuery

inductive GlobFault where
  | empty
  | absolute
  | doubleStar
  | noParts
  | onlySlash
  deriving DecidableEq, Repr

def GlobFault.message : GlobFault → String
  | .empty => "Unacceptable pattern: ''"
  | .absolute => "Non-relative patterns are unsupported"
  | .doubleStar => "Invalid pattern: '**' can only be an entire path component"
  | .noParts => "tuple index out of range"
  | .onlySlash => "'_TerminatingSelector' object has no attribute 'select_from'"

inductive GlobStep where
  | name (name : String)
  | wild (pattern : List Wild)
  | descend
  /-- A slash at the end: only directories lead here. -/
  | here
  deriving DecidableEq, Repr

def hasDoubleStar : List Char → Bool
  | a :: b :: rest => (a == '*' && b == '*') || hasDoubleStar (b :: rest)
  | _ => false

namespace GlobStep

def ofPart (part : String) : Except GlobFault GlobStep :=
  let cs := part.toList
  if part = "**" then .ok .descend
  else if hasDoubleStar cs then .error .doubleStar
  else if cs.any fun c => c == '*' || c == '?' || c == '[' then .ok (.wild (Wild.ofChars cs))
  else .ok (.name part)

end GlobStep

structure Glob where
  steps : List GlobStep
  deriving Repr

namespace Glob

def ofString (s : String) : Except GlobFault Glob :=
  if s = "" then .error .empty
  else if pathRoot s ≠ "" then .error .absolute
  else
    let closed := s.toList.getLast? = some '/'
    match pathParts s with
    | [] => .error (if closed then .onlySlash else .noParts)
    | parts => do
      let steps ← parts.mapM GlobStep.ofPart
      .ok ⟨steps ++ if closed then [.here] else []⟩

/-- The paths that the steps lead to from the directory `p`. All but the last step must lead to
directories. A path that is too long to be looked at or listed is a fault, and the first one counts.
A descent lists a directory only after the steps behind have selected from it. -/
def follow (t : Tree) : List GlobStep → Path → Except PathFault (List Path)
  | [], p => .ok [p]
  | .here :: _, p => .ok [p]
  | .name name :: rest, p => do
    match ← t.look (p.child name) with
    | none => .ok []
    | some entry =>
      if rest.isEmpty || entry = .directory then follow t rest (p.child name) else .ok []
  | .wild pattern :: rest, p => do
    let listed ← t.children p fun entry => rest.isEmpty || entry = .directory
    let found ← (listed.filter fun q => Wild.matchesAll pattern q.name.toList).mapM (follow t rest)
    .ok found.flatten
  | .descend :: rest, p => do
    let found ← (t.directoriesUnder p).mapM fun q => do
      let selected ← follow t rest q
      let _ ← t.look q
      .ok selected
    .ok found.flatten

def select (g : Glob) (t : Tree) (directory : Path) : Except PathFault (List Path) := do
  match ← t.look directory with
  | some .directory => .ok (Path.sorted (← follow t g.steps directory))
  | _ => .ok []

end Glob

end LayoutQuery

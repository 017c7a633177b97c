import LayoutQuery.Files.Path
import LayoutQuery.Text.Quoted

/-! # File trees
Files and directories, each under the list of names that leads to it from the root. Relative paths
start at the working directory, which the tree calls its home. Names and paths have a greatest
length, and no path holds the character with code zero. -/
namespace LayoutQuery

inductive FileFault where
  | missing
  | isDirectory
  | notDirectory
  | nameTooLong
  | nullCharacter
  deriving DecidableEq, Repr

def FileFault.message (fault : FileFault) (path : Path) : String :=
  let name := Text.quoted path.toString
  match fault with
  | .missing => "[Errno 2] No such file or directory: " ++ name
  | .isDirectory => "[Errno 21] Is a directory: " ++ name
  | .notDirectory => "[Errno 20] Not a directory: " ++ name
  | .nameTooLong => "[Errno 36] File name too long: " ++ name
  | .nullCharacter => "embedded null byte"

def FileFault.isAbsence : FileFault → Bool
  | .missing | .notDirectory | .nullCharacter => true
  | .isDirectory | .nameTooLong => false

structure PathFault where
  path : Path
  fault : FileFault
  deriving DecidableEq, Repr

inductive Entry where
  | file (bytes : List UInt8)
  | directory
  deriving DecidableEq, Repr

structure Tree where
  home : List String
  entries : List (List String × Entry)
  deriving Repr

/-- One part further; two dots lead to the directory above. -/
def stepTo (names : List String) (part : String) : List String :=
  if part = ".." then names.dropLast else names ++ [part]

namespace Tree

def chain (names : List String) : List String → List (List String × Entry)
  | [] => []
  | part :: rest => (names ++ [part], .directory) :: chain (names ++ [part]) rest

def bare (home : List String) : Tree := ⟨home, chain [] home⟩

def entryAt (t : Tree) (names : List String) : Option Entry :=
  if names = [] then some .directory else t.entries.lookup names

def nameLimit : Nat := 255

/-- The length in bytes that a path does not reach. -/
def pathLimit : Nat := 4096

/-- Follows the parts of a path. Whatever is left by a part must be a directory. -/
def walk (t : Tree) (names : List String) : List String → Except FileFault (List String)
  | [] => .ok names
  | part :: rest =>
    match t.entryAt names with
    | none => .error .missing
    | some (.file _) => .error .notDirectory
    | some .directory =>
      if nameLimit < part.utf8ByteSize then .error .nameTooLong
      else t.walk (stepTo names part) rest

def start (t : Tree) (p : Path) : List String := if p.root = "" then t.home else []

def locate (t : Tree) (p : Path) : Except FileFault (List String) :=
  if p.parts.any (·.toList.contains '\x00') then .error .nullCharacter
  else if pathLimit ≤ p.toString.utf8ByteSize then .error .nameTooLong
  else t.walk (t.start p) p.parts

def find (t : Tree) (p : Path) : Except FileFault Entry := do
  match t.entryAt (← t.locate p) with
  | some entry => .ok entry
  | none => .error .missing

def read (t : Tree) (p : Path) : Except FileFault (List UInt8) := do
  match ← t.find p with
  | .file bytes => .ok bytes
  | .directory => .error .isDirectory

def look (t : Tree) (p : Path) : Except PathFault (Option Entry) :=
  match t.find p with
  | .ok entry => .ok (some entry)
  | .error fault => if fault.isAbsence then .ok none else .error ⟨p, fault⟩

/-- The paths of the entries to keep among those directly in a directory, in ascending order. They
are listed also where they are too long to be followed. -/
def children (t : Tree) (p : Path) (keep : Entry → Bool) : Except PathFault (List Path) :=
  match t.locate p with
  | .ok names =>
    .ok (Path.sorted (t.entries.filterMap fun (key, entry) =>
      if key.dropLast = names ∧ keep entry then key.getLast?.map p.child else none))
  | .error fault => .error ⟨p, fault⟩

/-- A directory and all directories below it, in ascending order. They are listed also where their
paths are too long to be followed. -/
def directoriesUnder (t : Tree) (p : Path) : List Path :=
  match t.locate p with
  | .ok names =>
    Path.sorted (p :: (t.entries.map (·.1)).filterMap fun key =>
      if names.isPrefixOf key ∧ key ≠ names ∧ t.entryAt key = some .directory then
        some { p with parts := p.parts ++ key.drop names.length }
      else none)
  | .error _ => [p]

def put (t : Tree) (names : List String) (entry : Entry) : Tree :=
  { t with entries := (names, entry) :: t.entries.filter fun e => e.1 ≠ names }

def makeDirectories (t : Tree) (names : List String) : List String → Except FileFault Tree
  | [] => .ok t
  | part :: parts =>
    let next := stepTo names part
    match t.entryAt next with
    | some (.file _) => .error .notDirectory
    | some .directory => t.makeDirectories next parts
    | none => (t.put next .directory).makeDirectories next parts

def makeDirectory (t : Tree) (p : Path) : Except FileFault Tree :=
  t.makeDirectories (t.start p) p.parts

def write (t : Tree) (p : Path) (bytes : List UInt8) : Except FileFault Tree := do
  let t ← t.makeDirectories (t.start p) p.parts.dropLast
  let place ← t.locate p
  match t.entryAt place with
  | some .directory => .error .isDirectory
  | _ => .ok (t.put place (.file bytes))

def remove (t : Tree) (p : Path) : Except FileFault Tree := do
  let place ← t.locate p
  match t.entryAt place with
  | none => .error .missing
  | some .directory => .error .isDirectory
  | some (.file _) => .ok { t with entries := t.entries.filter fun e => e.1 ≠ place }

end Tree

end LayoutQuery

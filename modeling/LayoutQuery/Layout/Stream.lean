import LayoutQuery.Files.Glob
import LayoutQuery.Layout.Snapshot
import LayoutQuery.Search

/-! # Streams of layouts
A stream delivers the snapshots that a glob selects in a directory. The paths are listed when it is
first asked; each file is looked at and read when its turn comes. After a failure, or at its end,
it delivers nothing more. -/
namespace LayoutQuery

inductive StreamFault where
  | glob (fault : GlobFault)
  | look (fault : PathFault)
  | load (fault : LoadFault)
  deriving DecidableEq, Repr

def StreamFault.message : StreamFault → String
  | .glob fault => fault.message
  | .look fault => fault.fault.message fault.path
  | .load fault => fault.message

inductive LayoutStream where
  | unopened (directory : Path) (pattern : String)
  /-- The paths whose turn is still to come. -/
  | listed (rest : List Path)
  deriving DecidableEq, Repr

namespace LayoutStream

def done : LayoutStream := .listed []

/-- The paths that are still to come, listed now if they have not been before. -/
def paths (t : Tree) : LayoutStream → Except StreamFault (List Path)
  | .unopened directory pattern => do
    let glob ← (Glob.ofString pattern).mapError .glob
    (glob.select t directory).mapError .look
  | .listed rest => .ok rest

/-- What a path delivers in its turn: a layout if it is a file, and else nothing. -/
def deliver (t : Tree) (p : Path) : Except StreamFault (Option Layout) := do
  match ← (t.look p).mapError .look with
  | some (.file _) => some <$> (Layout.load t p).mapError .load
  | _ => .ok none

def pull (t : Tree) : List Path → Except StreamFault (Option Layout) × List Path
  | [] => (.ok none, [])
  | p :: rest =>
    match deliver t p with
    | .error fault => (.error fault, [])
    | .ok none => pull t rest
    | .ok (some l) => (.ok (some l), rest)

def next (t : Tree) (s : LayoutStream) : Except StreamFault (Option Layout) × LayoutStream :=
  match s.paths t with
  | .error fault => (.error fault, done)
  | .ok paths =>
    let (found, rest) := pull t paths
    (found, .listed rest)

/-- All layouts that `paths` deliver while the files stay as they are. -/
def feedOf (t : Tree) : List Path → Feed StreamFault
  | [] => ⟨[], none⟩
  | p :: rest =>
    match deliver t p with
    | .error fault => ⟨[], some fault⟩
    | .ok none => feedOf t rest
    | .ok (some l) =>
      let more := feedOf t rest
      ⟨l :: more.layouts, more.failure⟩

def feed (t : Tree) (s : LayoutStream) : Feed StreamFault :=
  match s.paths t with
  | .error fault => ⟨[], some fault⟩
  | .ok paths => feedOf t paths

/-- The paths behind those that deliver the first `count` layouts. -/
def behind (t : Tree) : Nat → List Path → List Path
  | 0, paths => paths
  | count + 1, paths => behind t count (pull t paths).2

def afterRun {ε : Type} (t : Tree) (s : LayoutStream) (run : Run ε) : LayoutStream :=
  if run.drained then done
  else
    match s.paths t with
    | .error _ => done
    | .ok paths => .listed (behind t run.taken paths)

end LayoutStream

/-- Searches a stream; what the run took from it is gone. -/
def Search.runStream (s : Search) (limit : Option Int) (t : Tree) (stream : LayoutStream) :
    Run StreamFault × LayoutStream :=
  let run := s.run limit (stream.feed t)
  (run, stream.afterRun t run)

end LayoutQuery

import LayoutQuery.Command.Run

/-! # The program
Reads the environment and the files that a command line asks for, runs it, and shows what came of
it. -/
namespace LayoutQuery.Program

/-- The environment that the system keeps for this process. -/
def environment : IO (Fields String) := do
  let bytes ← try IO.FS.readBinFile "/proc/self/environ" catch _ => pure ByteArray.empty
  let text := (String.fromUTF8? bytes).getD ""
  return (text.splitOn "\x00").filterMap fun entry =>
    match entry.splitOn "=" with
    | name :: first :: rest => some (name, String.intercalate "=" (first :: rest))
    | _ => none

/-- Adds the entries of a directory, and all below it, to a tree. -/
partial def addEntries (t : Tree) (names : List String) (entries : Array IO.FS.DirEntry) :
    IO Tree := do
  let mut t := t
  for entry in entries do
    let place := names ++ [entry.fileName]
    if ← entry.path.isDir then
      t ← addEntries (t.put place .directory) place (← entry.path.readDir)
    else
      let bytes ← try some <$> IO.FS.readBinFile entry.path catch _ => pure none
      match bytes with
      | some bytes => t := t.put place (.file bytes.toList)
      | none => pure ()
  return t

/-- Adds what a path leads to. -/
def addPath (t : Tree) (p : Path) : IO Tree := do
  let place := p.parts.foldl stepTo (t.start p)
  let there := (← IO.currentDir) / p.toString
  if ← there.isDir then
    let t := { t with entries := Tree.chain [] place ++ t.entries }
    addEntries t place (← there.readDir)
  else if ← there.pathExists then
    let bytes ← IO.FS.readBinFile there
    let t := { t with entries := Tree.chain [] place.dropLast ++ t.entries }
    return t.put place (.file bytes.toList)
  else return t

/-- Shows log lines and faults apart from what is printed. -/
def report (o : Command.Outcome) : IO UInt32 := do
  for line in o.shown do IO.eprintln line.toString
  for record in o.printed do IO.println record.toJson.display
  match o.result with
  | .exit _ => pure ()
  | .usage refusal => IO.eprintln ("Error: " ++ refusal.message)
  | .escaped failure => IO.eprintln failure.message
  return (o.result.exitCode?.getD 1).toUInt32

def run (words : List String) : IO UInt32 := do
  let home := (Path.ofString (← IO.currentDir).toString).parts
  let environment ← environment
  let t ← addPath (Tree.bare home) (Path.ofString ".env")
  match Command.loadSettings t environment with
  | .error fault => do
    IO.eprintln fault.message
    return 1
  | .ok s => do
    let t ←
      match Command.source s words with
      | some p => addPath t p
      | none => pure t
    report (Command.run t s words)

end LayoutQuery.Program

def main (words : List String) : IO UInt32 := LayoutQuery.Program.run words

import LayoutQuery.Files.Tree
import LayoutQuery.Json.Reader
import LayoutQuery.Layout.Basic
import LayoutQuery.Text.Utf8

/-! # Snapshots
A snapshot is a file that holds one layout as UTF-8 encoded JSON, with line ends of any kind. -/
namespace LayoutQuery

inductive LoadFault where
  | undecodable (path : Path) (fault : Text.Utf8Fault)
  | malformed (path : Path) (fault : Json.SyntaxFault)
  | payload (fault : Layout.Fault)
  | tooManyDigits (fault : Text.TooManyDigits)
  | file (path : Path) (fault : FileFault)
  deriving DecidableEq, Repr

namespace LoadFault

def message : LoadFault → String
  | .undecodable path fault => path.toString ++ " is not a valid JSON snapshot: " ++ fault.message
  | .malformed path fault => path.toString ++ " is not a valid JSON snapshot: " ++ fault.message
  | .payload fault => fault.message
  | .tooManyDigits fault => fault.message
  | .file path fault => fault.message path

/-- Whether the fault lies in the format of the snapshot. -/
def isFormat : LoadFault → Bool
  | .undecodable _ _ | .malformed _ _ | .payload _ => true
  | .tooManyDigits _ | .file _ _ => false

/-- Whether a command answers the fault. A numeral too long to be read is not foreseen, nor is a
path that no file can have. -/
def isForeseen : LoadFault → Bool
  | .tooManyDigits _ | .file _ .nullCharacter => false
  | _ => true

end LoadFault

namespace Layout

/-- The layout in the content of the file at `path`; a layout without a name has the file's stem. -/
def ofBytes (path : Path) (bytes : List UInt8) : Except LoadFault Layout := do
  let text ← (Text.decode bytes).mapError (.undecodable path)
  let value ←
    (Json.parse (Text.unifyNewlines text)).mapError fun fault =>
      match fault with
      | .malformed fault => .malformed path fault
      | .tooManyDigits fault => .tooManyDigits fault
  (ofJson path.stem value).mapError .payload

def load (t : Tree) (path : Path) : Except LoadFault Layout := do
  let bytes ← (t.read path).mapError (.file path)
  ofBytes path bytes

end Layout

end LayoutQuery

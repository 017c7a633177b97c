/-! # Blanks
The characters of white space, and a text without those at its two ends. -/
namespace LayoutQuery.Text

/-- White space in the widest sense: the controls that separate lines, fields and files count,
and so do the spaces of every script. -/
def isBlank (c : Char) : Bool :=
  let n := c.toNat
  (0x09 ≤ n && n ≤ 0x0D) || (0x1C ≤ n && n ≤ 0x20) || n == 0x85 || n == 0xA0 || n == 0x1680 ||
    (0x2000 ≤ n && n ≤ 0x200A) || n == 0x2028 || n == 0x2029 || n == 0x202F || n == 0x205F ||
    n == 0x3000

/-- Drops the longest end that holds only characters of `p`. -/
def dropEndWhile (p : Char → Bool) : List Char → List Char
  | [] => []
  | c :: cs =>
    match dropEndWhile p cs with
    | [] => if p c then [] else [c]
    | rest => c :: rest

def trimBoth (p : Char → Bool) (cs : List Char) : List Char := dropEndWhile p (cs.dropWhile p)

def trim (s : String) : String := String.ofList (trimBoth isBlank s.toList)

/-- A space or a tab: what may stand between the parts of a condition. -/
def isGap (c : Char) : Bool := c == ' ' || c == '\t'

end LayoutQuery.Text

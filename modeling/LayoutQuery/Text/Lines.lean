/-! # Lines
Line ends of every kind become one newline, and a place in a text is told by line and column. -/
namespace LayoutQuery.Text

/-- Carriage returns, alone or before a newline, become newlines. -/
def unifyNewlines : List Char → List Char
  | [] => []
  | '\r' :: '\n' :: cs => '\n' :: unifyNewlines cs
  | c :: cs => (if c == '\r' then '\n' else c) :: unifyNewlines cs

/-- A place in a text: the number of characters before it, and its line and column, from one. -/
structure Place where
  offset : Nat
  line : Nat
  column : Nat
  deriving DecidableEq, Repr

/-- The place right after the text `before`. -/
def placeAfter (before : List Char) : Place where
  offset := before.length
  line := before.count '\n' + 1
  column := (before.reverse.takeWhile (· != '\n')).length + 1

end LayoutQuery.Text

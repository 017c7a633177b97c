/-! # Words in front
Taking a known word off the front of a text. -/
namespace LayoutQuery.Text

/-- The rest of a text that starts with `word`. -/
def after? : List Char → List Char → Option (List Char)
  | [], cs => some cs
  | _ :: _, [] => none
  | w :: word, c :: cs => if w = c then after? word cs else none

end LayoutQuery.Text

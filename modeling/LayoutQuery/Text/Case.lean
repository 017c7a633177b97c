import LayoutQuery.Text.FoldTable
import LayoutQuery.Text.LowerTable
import LayoutQuery.Text.UpperTable

/-! # Letter case
Texts are mapped character by character; two texts are alike when they fold to the same text. -/
namespace LayoutQuery.Text

def fold (s : String) : String := foldMap.apply s

def lower (s : String) : String := lowerMap.apply s

def upper (s : String) : String := upperMap.apply s

/-- Equality that takes no notice of letter case. -/
def Alike (s t : String) : Prop := fold s = fold t

instance (s t : String) : Decidable (Alike s t) := inferInstanceAs (Decidable (_ = _))

end LayoutQuery.Text

import LayoutQuery.Json.Display
import LayoutQuery.Proofs.Text.Numeral

/-! # Values that display as nothing
Of all values only the empty string displays as an empty text. -/
namespace LayoutQuery

namespace Number

theorem positionalText_ne_nil (digits : List Char) (exponent : Int) :
    positionalText digits exponent ≠ [] := by
  rw [positionalText]
  split
  · simp
  · simp

theorem scientificText_ne_nil (digits : List Char) (exponent : Int) :
    scientificText digits exponent ≠ [] := by
  simp [scientificText]

theorem Binary.display_ne_empty (x : Binary) : x.display ≠ "" := by
  unfold Binary.display
  split
  · decide
  · split
    · decide
    · decide
  · split
    · decide
    · decide
  · rw [Ne, String.append_eq_empty_iff, String.ofList_eq_empty_iff]
    rintro ⟨-, htext⟩
    split at htext
    · exact positionalText_ne_nil _ _ htext
    · exact scientificText_ne_nil _ _ htext

end Number

theorem Text.natural_ne_empty (n : Nat) : natural n ≠ "" := by
  rw [natural, Ne, String.ofList_eq_empty_iff]
  exact decimal_ne_nil n

namespace Json

theorem display_eq_empty_iff {v : Json} : v.display = "" ↔ v = .string "" := by
  cases v with
  | string s => simp [display]
  | null => simp [display, inner]
  | bool b => cases b <;> simp [display, inner]
  | integer n =>
    cases n with
    | ofNat n => simp [display, inner, Text.integer, Text.natural_ne_empty]
    | negSucc n => simp [display, inner, Text.integer]
  | number x => simp [display, inner, x.display_ne_empty]
  | array items => simp [display, inner]
  | object members => simp [display, inner]

end Json

end LayoutQuery

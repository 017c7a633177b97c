import LayoutQuery.Number.Binary
import LayoutQuery.Text.Blank
import LayoutQuery.Text.Decimal

/-! # Shortest decimals
The fewest decimal digits that read back as a given binary number. On the grid of numbers with `n`
significant digits only the two neighbours of the value can read back; the first grid with such a
neighbour wins, and of two the nearer one. -/
namespace LayoutQuery.Number

/-- The number `digits * 10 ^ exponent`. -/
structure Scientific where
  digits : Nat
  exponent : Int
  deriving DecidableEq, Repr

/-- The least power of ten above `x`, which is about `2 ^ log`. -/
def Quotient.scale (x : Quotient) (log : Int) : Int :=
  let guess := Int.fdiv (log * 30103) 100000
  let above (k : Int) : Bool := x.num * Nat.pow 10 (-k).toNat < x.den * Nat.pow 10 k.toNat
  if above guess then guess else if above (guess + 1) then guess + 1 else guess + 2

def readsBack (mantissa : Nat) (exponent : Int) (d : Scientific) : Bool :=
  (Quotient.ofDecimal d.digits d.exponent).toBinary false == .finite false mantissa exponent

/-- The neighbour of the value on the grid of multiples of `10 ^ grid` that reads back, if any. -/
def onGrid (mantissa : Nat) (exponent grid : Int) : Option Scientific :=
  let x := Quotient.ofBinary mantissa exponent
  let num := x.num * Nat.pow 10 (-grid).toNat
  let den := x.den * Nat.pow 10 grid.toNat
  let below : Scientific := ⟨num / den, grid⟩
  let above : Scientific := ⟨num / den + 1, grid⟩
  let reads := readsBack mantissa exponent
  match reads below, reads above with
  | false, false => none
  | true, false => some below
  | false, true => some above
  | true, true =>
    let twice := 2 * num
    let middle := (2 * below.digits + 1) * den
    if twice < middle then some below
    else if middle < twice then some above
    else if below.digits % 2 = 0 then some below else some above

/-- Digits of a value other than zero; seventeen always suffice. -/
def shortest (mantissa : Nat) (exponent : Int) : Scientific :=
  let x := Quotient.ofBinary mantissa exponent
  let scale := x.scale x.log2
  let grids := (List.range 17).map fun n : Nat => scale - 1 - (n : Int)
  (grids.findSome? (onGrid mantissa exponent)).getD ⟨mantissa, exponent⟩

/-- The digits without trailing zeros, and the exponent of the first one. -/
def Scientific.leading (d : Scientific) : List Char × Int :=
  let digits := Text.decimal d.digits
  (Text.dropEndWhile (· == '0') digits, digits.length + d.exponent - 1)

end LayoutQuery.Number

/-! # Binary floating point
A number written with a point or an exponent is kept as the nearest value of at most 53 binary
digits. Rounding works on exact quotients of naturals; a tie goes to the even mantissa. -/
namespace LayoutQuery.Number

/-- `finite s m q` is the number `m * 2 ^ q`, negated when `s` holds. -/
inductive Binary where
  | nan
  | infinite (negative : Bool)
  | finite (negative : Bool) (mantissa : Nat) (exponent : Int)
  deriving DecidableEq, Repr

/-- A positive quotient of naturals. -/
structure Quotient where
  num : Nat
  den : Nat
  deriving DecidableEq, Repr

/-- The quotient `digits * 10 ^ exponent`. -/
def Quotient.ofDecimal (digits : Nat) (exponent : Int) : Quotient :=
  ⟨digits * Nat.pow 10 exponent.toNat, Nat.pow 10 (-exponent).toNat⟩

/-- The quotient `mantissa * 2 ^ exponent`. -/
def Quotient.ofBinary (mantissa : Nat) (exponent : Int) : Quotient :=
  ⟨mantissa * Nat.pow 2 exponent.toNat, Nat.pow 2 (-exponent).toNat⟩

def Quotient.rounded (x : Quotient) : Nat :=
  let whole := x.num / x.den
  let rest := x.num % x.den
  if 2 * rest < x.den then whole
  else if x.den < 2 * rest then whole + 1
  else whole + whole % 2

/-- The exponent of the greatest power of two that is not above `x`. -/
def Quotient.log2 (x : Quotient) : Int :=
  let guess : Int := (Nat.log2 x.num : Int) - (Nat.log2 x.den : Int)
  if x.den * Nat.pow 2 guess.toNat ≤ x.num * Nat.pow 2 (-guess).toNat then guess else guess - 1

/-- The nearest value of 53 binary digits, or infinity when that exceeds the greatest one. -/
def Quotient.toBinary (x : Quotient) (negative : Bool) : Binary :=
  let exponent : Int := max (x.log2 - 52) (-1074)
  let mantissa :=
    Quotient.rounded ⟨x.num * Nat.pow 2 (-exponent).toNat, x.den * Nat.pow 2 exponent.toNat⟩
  let (mantissa, exponent) :=
    if mantissa = Nat.pow 2 53 then (Nat.pow 2 52, exponent + 1) else (mantissa, exponent)
  if 971 < exponent then .infinite negative else .finite negative mantissa exponent

def Binary.zero (negative : Bool) : Binary := .finite negative 0 (-1074)

/-- Reads `digits * 10 ^ exponent`, where `digits` has at most `length` digits. What is far outside
the range of exponents needs no power of ten. -/
def Binary.ofDecimal (negative : Bool) (digits length : Nat) (exponent : Int) : Binary :=
  if digits = 0 then .zero negative
  else if 310 < exponent then .infinite negative
  else if length + exponent < -330 then .zero negative
  else (Quotient.ofDecimal digits exponent).toBinary negative

def Binary.isZero : Binary → Bool
  | .finite _ 0 _ => true
  | _ => false

end LayoutQuery.Number

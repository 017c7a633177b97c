/-! # Decimal numerals
Writing and reading whole numbers in base ten. A numeral of more than `digitLimit` digits, leading
zeros included, is refused when it is read. -/
namespace LayoutQuery.Text

def isDigit (c : Char) : Bool := '0' ≤ c && c ≤ '9'

def digitValue (c : Char) : Nat := c.toNat - '0'.toNat

def digitChar (n : Nat) : Char := Char.ofNat ('0'.toNat + n)

/-- The shortest numeral of `n`, without leading zeros. -/
def decimal (n : Nat) : List Char :=
  if n < 10 then [digitChar n] else decimal (n / 10) ++ [digitChar (n % 10)]

/-- The number that a string of digits stands for. -/
def decimalValue (digits : List Char) : Nat :=
  digits.foldl (fun value c => 10 * value + digitValue c) 0

def natural (n : Nat) : String := String.ofList (decimal n)

def integer : Int → String
  | .ofNat n => natural n
  | .negSucc n => "-" ++ natural (n + 1)

def digitLimit : Nat := 4300

/-- A numeral longer than `digitLimit`. -/
structure TooManyDigits where
  count : Nat
  deriving DecidableEq, Repr

def TooManyDigits.message (e : TooManyDigits) : String :=
  "Exceeds the limit (" ++ natural digitLimit ++ " digits) for integer string conversion: " ++
    "value has " ++ natural e.count ++
    " digits; use sys.set_int_max_str_digits() to increase the limit"

def readNatural (digits : List Char) : Except TooManyDigits Nat :=
  if digits.length ≤ digitLimit then .ok (decimalValue digits) else .error ⟨digits.length⟩

end LayoutQuery.Text

/-! # Case maps
A case map takes each character to one or more characters. It is kept as runs of equally spaced
code points that all move by the same amount, and a list of those that become several characters.
Every other character is its own image. -/
namespace LayoutQuery.Text

structure CaseRun where
  first : Nat
  last : Nat
  step : Nat
  shift : Int
  deriving DecidableEq, Repr

def CaseRun.covers (r : CaseRun) (n : Nat) : Bool :=
  r.first ≤ n && n ≤ r.last && (n - r.first) % r.step == 0

def CaseRun.image (r : CaseRun) (n : Nat) : Char := Char.ofNat (n + r.shift).toNat

structure CaseMap where
  runs : List CaseRun
  expansions : List (Nat × List Nat)

def CaseMap.image (m : CaseMap) (c : Char) : List Char :=
  match m.expansions.lookup c.toNat with
  | some codes => codes.map Char.ofNat
  | none =>
    match m.runs.find? (·.covers c.toNat) with
    | some r => [r.image c.toNat]
    | none => [c]

def CaseMap.apply (m : CaseMap) (s : String) : String := String.ofList (s.toList.flatMap m.image)

end LayoutQuery.Text

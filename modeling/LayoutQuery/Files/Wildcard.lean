/-! # Wildcards
Patterns for the name of a file: a star for any run of characters, a question mark for one, and a
set in brackets, which an exclamation mark at its front turns into its complement. A bracket that
is never closed stands for itself. -/
namespace LayoutQuery

inductive Wild where
  | anyRun
  | anyOne
  | literal (c : Char)
  | oneOf (negated : Bool) (ranges : List (Char × Char))
  deriving DecidableEq, Repr

namespace Wild

/-- What stands between a bracket and the one that closes it. A closing bracket that comes first,
or right after an exclamation mark, belongs to the set. -/
def bracketed? (cs : List Char) : Option (List Char) :=
  let bang := cs.takeWhile (· == '!') |>.take 1
  let behind := cs.drop bang.length
  let close := behind.takeWhile (· == ']') |>.take 1
  let behind := behind.drop close.length
  let body := behind.takeWhile (· != ']')
  if body.length < behind.length then some (bang ++ close ++ body) else none

/-- Cuts a set at the hyphens that make ranges. The first `keep` characters of a piece hold no such
hyphen; every piece but the first begins with the end of a range. -/
def pieces (keep : Nat) (cs : List Char) : List (List Char) :=
  let body := (cs.drop keep).takeWhile (· != '-')
  let cut := cs.take keep ++ body
  if cut.length < cs.length then cut :: pieces 2 (cs.drop (cut.length + 1)) else [cs]
termination_by cs.length

/-- A hyphen at the very end stands for itself. -/
def joinLastHyphen : List (List Char) → List (List Char)
  | [] => []
  | [piece] => [piece]
  | [piece, []] => [piece ++ ['-']]
  | piece :: rest => piece :: joinLastHyphen rest

/-- Takes out the ranges that run backwards, with both their ends. -/
def dropBackward : List (List Char) → List (List Char)
  | [] => []
  | piece :: rest =>
    match dropBackward rest with
    | [] => [piece]
    | next :: more =>
      match piece.getLast?, next.head? with
      | some a, some b =>
        if b < a then (piece.dropLast ++ next.tail) :: more else piece :: next :: more
      | _, _ => piece :: next :: more

/-- A character of a set; `hyphen` marks one that makes a range. -/
structure Mark where
  char : Char
  hyphen : Bool
  deriving DecidableEq, Repr

def marks : List (List Char) → List Mark
  | [] => []
  | [piece] => piece.map (⟨·, false⟩)
  | piece :: rest => piece.map (⟨·, false⟩) ++ ⟨'-', true⟩ :: marks rest

def ranges : List Mark → List (Char × Char)
  | [] => []
  | [a] => [(a.char, a.char)]
  | [a, b] => [(a.char, a.char), (b.char, b.char)]
  | a :: b :: c :: rest =>
    if b.hyphen then (a.char, c.char) :: ranges rest
    else (a.char, a.char) :: ranges (b :: c :: rest)

/-- The set that a text between brackets describes. An exclamation mark that is left alone stands
for any character. -/
def ofSet (cs : List Char) : Wild :=
  let keep := if cs.head? = some '!' then 2 else 1
  match marks (dropBackward (joinLastHyphen (pieces keep cs))) with
  | [⟨'!', false⟩] => .anyOne
  | ⟨'!', false⟩ :: rest => .oneOf true (ranges rest)
  | all => .oneOf false (ranges all)

def ofChars : List Char → List Wild
  | [] => []
  | c :: cs =>
    if c = '*' then .anyRun :: ofChars cs
    else if c = '?' then .anyOne :: ofChars cs
    else if c = '[' then
      match bracketed? cs with
      | some set => ofSet set :: ofChars (cs.drop (set.length + 1))
      | none => .literal c :: ofChars cs
    else .literal c :: ofChars cs
termination_by cs => cs.length

def admits (c : Char) : Wild → Bool
  | .anyRun | .anyOne => true
  | .literal d => c == d
  | .oneOf negated ranges => ranges.any (fun r => r.1 ≤ c && c ≤ r.2) != negated

def orLater : List Bool → List Bool
  | [] => []
  | b :: rest =>
    let later := orLater rest
    (b || later.head?.getD false) :: later

/-- Whether a pattern matches each of the ends of a text, from the whole text to the empty one. -/
def matchesEnds : List Wild → List Char → List Bool
  | [], cs => cs.map (fun _ => false) ++ [true]
  | .anyRun :: rest, cs => orLater (matchesEnds rest cs)
  | w :: rest, cs =>
    List.zipWith (fun c behind => w.admits c && behind) cs (matchesEnds rest cs).tail ++ [false]

def matchesAll (pattern : List Wild) (cs : List Char) : Bool :=
  (matchesEnds pattern cs).head?.getD false

end Wild

end LayoutQuery

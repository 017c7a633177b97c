import LayoutQuery.Json.Reader
import LayoutQuery.Proofs.Except
import LayoutQuery.Proofs.Text.Letters

/-! # Steps of reading JSON
What the reader does at the front of a list, of an object and of their items and members, one step
at a time. -/
namespace LayoutQuery.Json

open Text

variable {cs more rest start : List Char} {v : Json} {vs : List Json} {name : String}
  {ms : List (String × Json)} (fuel : Nat)

theorem skipSpaces_append {gap : List Char} (hgap : Only isSpace gap) (hcs : Stops isSpace cs) :
    skipSpaces (gap ++ cs) = cs := dropWhile_run hgap hcs

theorem readValue_quote (more : List Char) : readValue (fuel + 1) ('"' :: more) =
    readString ('"' :: more) more >>= fun r => .ok (.string (String.ofList r.1), r.2) := rfl

theorem readValue_bracket (more : List Char) : readValue (fuel + 1) ('[' :: more) =
    match skipSpaces more with
    | ']' :: rest => .ok (.array [], rest)
    | first => readItems fuel first >>= fun r => .ok (.array r.1, r.2) := rfl

theorem readValue_brace (more : List Char) : readValue (fuel + 1) ('{' :: more) =
    match skipSpaces more with
    | '}' :: rest => .ok (.object [], rest)
    | first => readMembers fuel first >>= fun r => .ok (ofMembers r.1, r.2) := rfl

theorem readValue_string {s : List Char} (h : readString ('"' :: more) more = .ok (s, rest)) :
    readValue (fuel + 1) ('"' :: more) = .ok (.string (String.ofList s), rest) := by
  rw [readValue_quote, h]
  rfl

theorem readValue_noItems (h : skipSpaces more = ']' :: rest) :
    readValue (fuel + 1) ('[' :: more) = .ok (.array [], rest) := by
  rw [readValue_bracket, h]
  rfl

theorem readValue_array (hopen : (skipSpaces more).head? ≠ some ']') :
    readValue (fuel + 1) ('[' :: more) =
      readItems fuel (skipSpaces more) >>= fun r => .ok (.array r.1, r.2) := by
  rw [readValue_bracket]
  split
  next rest hclose =>
    rw [hclose] at hopen
    exact absurd rfl hopen
  next => rfl

theorem readValue_noMembers (h : skipSpaces more = '}' :: rest) :
    readValue (fuel + 1) ('{' :: more) = .ok (.object [], rest) := by
  rw [readValue_brace, h]
  rfl

theorem readValue_object (hopen : (skipSpaces more).head? ≠ some '}') :
    readValue (fuel + 1) ('{' :: more) =
      readMembers fuel (skipSpaces more) >>= fun r => .ok (ofMembers r.1, r.2) := by
  rw [readValue_brace]
  split
  next rest hclose =>
    rw [hclose] at hopen
    exact absurd rfl hopen
  next => rfl

variable {fuel}

theorem readItems_last (hv : readValue fuel cs = .ok (v, more))
    (hend : skipSpaces more = ']' :: rest) :
    readItems (fuel + 1) cs = .ok ([v], rest) := by
  rw [readItems, hv]
  simp only [bind, Except.bind, hend]

theorem readItems_more (hv : readValue fuel cs = .ok (v, more))
    (hsep : skipSpaces more = ',' :: rest) :
    readItems (fuel + 1) cs =
      readItems fuel (skipSpaces rest) >>= fun r => .ok (v :: r.1, r.2) := by
  rw [readItems, hv]
  simp only [bind, Except.bind, hsep]

/-- A name, a colon and what is left of a member: its value, with no blank in front. -/
def ReadsName (cs : List Char) (name : String) (rest : List Char) : Prop :=
  ∃ more s after behind, cs = '"' :: more ∧ readString cs more = .ok (s, after) ∧
    name = String.ofList s ∧ skipSpaces after = ':' :: behind ∧ rest = skipSpaces behind

theorem readMembers_last (hname : ReadsName cs name start) (hv : readValue fuel start = .ok (v, more))
    (hend : skipSpaces more = '}' :: rest) :
    readMembers (fuel + 1) cs = .ok ([(name, v)], rest) := by
  obtain ⟨front, s, after, behind, rfl, hstring, rfl, hcolon, rfl⟩ := hname
  rw [readMembers, hstring]
  simp only [bind, Except.bind, hcolon, hv, hend]

theorem readMembers_more (hname : ReadsName cs name start) (hv : readValue fuel start = .ok (v, more))
    (hsep : skipSpaces more = ',' :: rest) :
    readMembers (fuel + 1) cs =
      readMembers fuel (skipSpaces rest) >>= fun r => .ok ((name, v) :: r.1, r.2) := by
  obtain ⟨front, s, after, behind, rfl, hstring, rfl, hcolon, rfl⟩ := hname
  rw [readMembers, hstring]
  simp only [bind, Except.bind, hcolon, hv, hsep]

end LayoutQuery.Json

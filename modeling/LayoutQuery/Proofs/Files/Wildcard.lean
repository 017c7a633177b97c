import LayoutQuery.Files.Wildcard
import Mathlib.Data.List.Infix

/-! # What wildcards match
A pattern matches a text that can be cut into pieces, one for each part of the pattern. All ends of
a text are tried at once, so where the piece of a star ends need not be guessed. -/
namespace LayoutQuery.Wild

/-- A star takes a run of any length, which leaves an end of the text. Any other part takes a
character that it admits. -/
def Matches : List Wild → List Char → Prop
  | [], cs => cs = []
  | .anyRun :: rest, cs => ∃ behind, behind <:+ cs ∧ Matches rest behind
  | w :: rest, cs => ∃ c behind, cs = c :: behind ∧ w.admits c = true ∧ Matches rest behind

variable {w : Wild} {rest pattern : List Wild} {c : Char} {cs : List Char}

theorem matches_one_iff (hw : w ≠ .anyRun) : Matches (w :: rest) cs ↔
    ∃ c behind, cs = c :: behind ∧ w.admits c = true ∧ Matches rest behind := by
  rw [Matches.eq_3 _ _ _ hw]

/-! ## The answers for all ends -/

theorem tail_orLater (bs : List Bool) : (orLater bs).tail = orLater bs.tail := by
  cases bs with
  | nil => rfl
  | cons b bs => rfl

theorem matchesEnds_one (hw : w ≠ .anyRun) (cs : List Char) : matchesEnds (w :: rest) cs =
    List.zipWith (fun c behind => w.admits c && behind) cs (matchesEnds rest cs).tail ++ [false] :=
  matchesEnds.eq_3 _ _ _ hw

theorem length_orLater (bs : List Bool) : (orLater bs).length = bs.length := by
  induction bs with
  | nil => rfl
  | cons b bs ih => simp [orLater, ih]

/-- One answer for each end, that of the whole text and the empty one included. -/
theorem length_matchesEnds (pattern : List Wild) (cs : List Char) :
    (matchesEnds pattern cs).length = cs.length + 1 := by
  induction pattern with
  | nil => simp [matchesEnds]
  | cons w rest ih =>
    by_cases hw : w = .anyRun
    · subst hw
      rw [matchesEnds, length_orLater, ih]
    · simp [matchesEnds_one hw, ih]

theorem exists_matchesEnds (pattern : List Wild) (cs : List Char) :
    ∃ ends, matchesEnds pattern cs = matchesAll pattern cs :: ends := by
  have hlength := length_matchesEnds pattern cs
  obtain ⟨b, ends, hends⟩ := List.exists_cons_of_length_eq_add_one hlength
  refine ⟨ends, ?_⟩
  rw [matchesAll, hends]
  rfl

/-- The answers for the ends of a text stand behind the answer for all of it. -/
theorem tail_matchesEnds (pattern : List Wild) (c : Char) (cs : List Char) :
    (matchesEnds pattern (c :: cs)).tail = matchesEnds pattern cs := by
  induction pattern with
  | nil => rfl
  | cons w rest ih =>
    by_cases hw : w = .anyRun
    · subst hw
      rw [matchesEnds, tail_orLater, ih, matchesEnds]
    · obtain ⟨ends, hends⟩ := exists_matchesEnds rest cs
      rw [matchesEnds_one hw, matchesEnds_one hw, ih, hends]
      rfl

/-! ## The answer for all of a text -/

theorem matchesAll_nil (cs : List Char) : matchesAll [] cs = cs.isEmpty := by
  cases cs with
  | nil => rfl
  | cons c cs => rfl

theorem matchesAll_anyRun_nil (rest : List Wild) :
    matchesAll (.anyRun :: rest) [] = matchesAll rest [] := by
  have hone : (matchesEnds rest []).length = 1 := length_matchesEnds rest []
  obtain ⟨b, hends⟩ := List.length_eq_one_iff.mp hone
  rw [matchesAll, matchesAll, matchesEnds, hends]
  simp [orLater]

/-- A star takes nothing, or one character and then again what a star takes. -/
theorem matchesAll_anyRun_cons (rest : List Wild) (c : Char) (cs : List Char) :
    matchesAll (.anyRun :: rest) (c :: cs) =
      (matchesAll rest (c :: cs) || matchesAll (.anyRun :: rest) cs) := by
  obtain ⟨ends, hends⟩ := exists_matchesEnds rest (c :: cs)
  have htail := tail_matchesEnds rest c cs
  rw [hends, List.tail_cons] at htail
  rw [matchesAll, matchesEnds, hends, orLater, htail, matchesAll.eq_1 (.anyRun :: rest) cs,
    matchesEnds]
  rfl

theorem matchesAll_one_nil (hw : w ≠ .anyRun) : matchesAll (w :: rest) [] = false := by
  rw [matchesAll, matchesEnds_one hw]
  rfl

theorem matchesAll_one_cons (hw : w ≠ .anyRun) (c : Char) (cs : List Char) :
    matchesAll (w :: rest) (c :: cs) = (w.admits c && matchesAll rest cs) := by
  obtain ⟨ends, hends⟩ := exists_matchesEnds rest cs
  rw [matchesAll, matchesEnds_one hw, tail_matchesEnds, hends]
  rfl

theorem matchesAll_iff : matchesAll pattern cs = true ↔ Matches pattern cs := by
  induction pattern generalizing cs with
  | nil => rw [matchesAll_nil, List.isEmpty_iff, Matches]
  | cons w rest ih =>
    by_cases hw : w = .anyRun
    · subst hw
      -- what a star leaves is the text itself, or an end of what stands behind its first character
      induction cs with
      | nil => simp [matchesAll_anyRun_nil, ih, Matches]
      | cons c cs ihcs =>
        rw [matchesAll_anyRun_cons, Bool.or_eq_true, ih, ihcs, Matches, Matches]
        simp only [List.suffix_cons_iff, or_and_right, exists_or, exists_eq_left]
    · rw [matches_one_iff hw]
      cases cs with
      | nil => simp [matchesAll_one_nil hw]
      | cons c cs => simp [matchesAll_one_cons hw, ih]

/-! ## A star in front of plain characters -/

theorem matches_literals_iff {text : List Char} : Matches (text.map .literal) cs ↔ cs = text := by
  induction text generalizing cs with
  | nil => rfl
  | cons d text ih =>
    have hd : Wild.literal d ≠ .anyRun := nofun
    rw [List.map_cons, matches_one_iff hd]
    simp [ih, admits]

theorem matches_ending_iff {text : List Char} :
    Matches (.anyRun :: text.map .literal) cs ↔ text <:+ cs := by
  rw [Matches]
  simp [matches_literals_iff]

end LayoutQuery.Wild

import LayoutQuery.Text.Lines
import LayoutQuery.Proofs.Text.Runs
import LayoutQuery.Json.Reader

/-! # Line ends made equal
Where line ends are unified a text without carriage returns stays as it is, and blanks stay
blanks. -/
namespace LayoutQuery.Text

variable {a b cs : List Char}

theorem unifyNewlines_cons {c : Char} (hc : c ≠ '\r') :
    unifyNewlines (c :: cs) = c :: unifyNewlines cs := by
  rw [unifyNewlines]
  · simp [hc]
  · intro cs' h
    simp [hc] at h

theorem unifyNewlines_append (ha : '\r' ∉ a) : unifyNewlines (a ++ b) = a ++ unifyNewlines b := by
  induction a with
  | nil => rfl
  | cons c a ih =>
    rw [List.mem_cons, not_or] at ha
    rw [List.cons_append, unifyNewlines_cons (Ne.symm ha.1), ih ha.2, List.cons_append]

end LayoutQuery.Text

namespace LayoutQuery.Json

open Text

variable {b w : List Char}

/-- Blanks stay blanks, and what follows them is not touched. -/
theorem unifyNewlines_spaces (hw : Only isSpace w) (hb : Stops isSpace b) :
    ∃ w', Only isSpace w' ∧ unifyNewlines (w ++ b) = w' ++ unifyNewlines b := by
  induction w using unifyNewlines.induct with
  | case1 => exact ⟨[], only_nil, rfl⟩
  | case2 w ih =>
    obtain ⟨w', hw', heq⟩ := ih (only_cons.mp (only_cons.mp hw).2).2
    refine ⟨'\n' :: w', only_cons.mpr ⟨rfl, hw'⟩, ?_⟩
    simp [unifyNewlines, heq]
  | case3 c w hnot ih =>
    obtain ⟨hc, hrest⟩ := only_cons.mp hw
    obtain ⟨w', hw', heq⟩ := ih hrest
    refine ⟨(if c == '\r' then '\n' else c) :: w', only_cons.mpr ⟨?_, hw'⟩, ?_⟩
    · split
      · rfl
      · exact hc
    · rw [List.cons_append, unifyNewlines, heq]
      · rfl
      · rintro tail rfl htail
        cases w with
        | nil =>
          rw [List.nil_append] at htail
          subst htail
          simp [isSpace] at hb
        | cons d w =>
          cases htail
          exact hnot _ rfl rfl

end LayoutQuery.Json

import LayoutQuery.Files.Glob
import LayoutQuery.Proofs.Except
import LayoutQuery.Proofs.Files.Path
import Mathlib.Data.List.Infix
import Mathlib.Tactic.SplitIfs

/-! # Patterns that are refused
What is wrong with a pattern can be told from its text, whatever files there are. -/
namespace LayoutQuery

variable {cs : List Char} {part pattern : String} {fault : GlobFault}

theorem hasDoubleStar_iff : hasDoubleStar cs = true ↔ ['*', '*'] <:+: cs := by
  induction cs with
  | nil => simp [hasDoubleStar]
  | cons a cs ih =>
    cases cs with
    | nil => simp [hasDoubleStar, List.infix_cons_iff]
    | cons b cs =>
      have hfront : ['*', '*'] <+: a :: b :: cs ↔ (a == '*' && b == '*') = true := by
        simp [List.cons_prefix_cons, @eq_comm _ '*']
      rw [hasDoubleStar, Bool.or_eq_true, ih, List.infix_cons_iff (a := a), hfront]

theorem pathRoot_eq_empty_iff : pathRoot pattern = "" ↔ pattern.toList.head? ≠ some '/' := by
  cases hchars : pattern.toList with
  | nil => simp [pathRoot, hchars]
  | cons c cs =>
    by_cases hc : c = '/'
    · subst hc
      have hsome : (('/' :: cs).takeWhile (· == '/')).length ≠ 0 := by simp
      rw [pathRoot, hchars]
      split
      next hnone => exact absurd hnone hsome
      next => simp
      next => simp
    · simp [pathRoot_eq_empty hchars hc, hc]

namespace Glob

/-- The ways in which a text is no pattern. An empty part and a single dot say nothing; two stars
are a part of their own. -/
inductive Refused (pattern : String) : GlobFault → Prop where
  | empty : pattern = "" → Refused pattern .empty
  | absolute : pattern.toList.head? = some '/' → Refused pattern .absolute
  | noParts : pattern ≠ "" → pattern.toList.head? ≠ some '/' → pathParts pattern = [] →
      pattern.toList.getLast? ≠ some '/' → Refused pattern .noParts
  | onlySlash : pattern.toList.head? ≠ some '/' → pathParts pattern = [] →
      pattern.toList.getLast? = some '/' → Refused pattern .onlySlash
  | doubleStar {part : String} : pattern.toList.head? ≠ some '/' → part ∈ pathParts pattern →
      part ≠ "**" → ['*', '*'] <:+: part.toList → Refused pattern .doubleStar

theorem ofPart_eq_error_iff : GlobStep.ofPart part = .error fault ↔
    part ≠ "**" ∧ ['*', '*'] <:+: part.toList ∧ fault = .doubleStar := by
  rw [GlobStep.ofPart, ← hasDoubleStar_iff]
  split_ifs with hwhole hdouble hwild
  · simp [hwhole]
  · simp [hwhole, hdouble, eq_comm]
  · simp [hdouble]
  · simp [hdouble]

theorem ofString_noParts (hempty : pattern ≠ "") (hrelative : pattern.toList.head? ≠ some '/')
    (hparts : pathParts pattern = []) :
    Glob.ofString pattern =
      .error (if pattern.toList.getLast? = some '/' then .onlySlash else .noParts) := by
  rw [Glob.ofString, if_neg hempty, if_neg (not_not.mpr (pathRoot_eq_empty_iff.mpr hrelative)),
    hparts]

theorem ofString_parts (hempty : pattern ≠ "") (hrelative : pattern.toList.head? ≠ some '/')
    (hparts : pathParts pattern ≠ []) :
    Glob.ofString pattern = .error fault ↔
      (pathParts pattern).mapM GlobStep.ofPart = .error fault := by
  obtain ⟨part, parts, hcons⟩ := List.exists_cons_of_ne_nil hparts
  rw [Glob.ofString, if_neg hempty, if_neg (not_not.mpr (pathRoot_eq_empty_iff.mpr hrelative)),
    hcons]
  dsimp only
  rw [bind_eq_error_iff]
  simp

theorem ofString_eq_error_iff : Glob.ofString pattern = .error fault ↔ Refused pattern fault := by
  constructor
  · intro h
    by_cases hempty : pattern = ""
    · rw [Glob.ofString, if_pos hempty] at h
      cases h
      exact .empty hempty
    by_cases hrelative : pattern.toList.head? = some '/'
    · rw [Glob.ofString, if_neg hempty, if_pos (mt pathRoot_eq_empty_iff.mp (not_not.mpr hrelative))]
        at h
      cases h
      exact .absolute hrelative
    by_cases hparts : pathParts pattern = []
    · rw [ofString_noParts hempty hrelative hparts] at h
      by_cases hclosed : pattern.toList.getLast? = some '/'
      · rw [if_pos hclosed] at h
        cases h
        exact .onlySlash hrelative hparts hclosed
      · rw [if_neg hclosed] at h
        cases h
        exact .noParts hempty hrelative hparts hclosed
    · obtain ⟨part, hpart, hfault⟩ :=
        exists_of_mapM_error ((ofString_parts hempty hrelative hparts).mp h)
      obtain ⟨hwhole, hdouble, rfl⟩ := ofPart_eq_error_iff.mp hfault
      exact .doubleStar hrelative hpart hwhole hdouble
  · intro h
    cases h with
    | empty hempty => rw [Glob.ofString, if_pos hempty]
    | absolute hroot =>
      have hempty : pattern ≠ "" := by
        rintro rfl
        cases hroot
      rw [Glob.ofString, if_neg hempty, if_pos (mt pathRoot_eq_empty_iff.mp (not_not.mpr hroot))]
    | noParts hempty hrelative hparts hopen =>
      rw [ofString_noParts hempty hrelative hparts, if_neg hopen]
    | onlySlash hrelative hparts hclosed =>
      have hempty : pattern ≠ "" := by
        rintro rfl
        cases hclosed
      rw [ofString_noParts hempty hrelative hparts, if_pos hclosed]
    | @doubleStar part hrelative hpart hwhole hdouble =>
      have hempty : pattern ≠ "" := by
        rintro rfl
        cases hpart
      rw [ofString_parts hempty hrelative (List.ne_nil_of_mem hpart)]
      have hfails := ofPart_eq_error_iff.mpr ⟨hwhole, hdouble, rfl⟩
      cases hall : (pathParts pattern).mapM GlobStep.ofPart with
      | ok steps => exact absurd hall (mapM_ne_ok hpart hfails steps)
      | error other =>
        obtain ⟨part', -, hother⟩ := exists_of_mapM_error hall
        rw [(ofPart_eq_error_iff.mp hother).2.2]

end Glob

end LayoutQuery

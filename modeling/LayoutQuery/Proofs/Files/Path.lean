import LayoutQuery.Files.Path
import Mathlib.Data.List.Basic

/-! # Paths as texts
A relative path that is written with slashes between its parts reads back as that path, and is as
long as its parts and the slashes. -/
namespace LayoutQuery

variable {a b : List Char} {parts : List String}

theorem splitSlashes_ne_nil (cs : List Char) : splitSlashes cs ≠ [] := by
  cases cs with
  | nil => exact List.cons_ne_nil _ _
  | cons c cs =>
    rw [splitSlashes]
    split
    next => exact List.cons_ne_nil _ _
    next =>
      split
      next => exact List.cons_ne_nil _ _
      next => exact List.cons_ne_nil _ _

theorem splitSlashes_append (ha : '/' ∉ a) :
    splitSlashes (a ++ '/' :: b) = a :: splitSlashes b := by
  induction a with
  | nil =>
    obtain ⟨first, rest, hb⟩ := List.exists_cons_of_ne_nil (splitSlashes_ne_nil b)
    rw [List.nil_append, splitSlashes, hb]
    rfl
  | cons c a ih =>
    rw [List.mem_cons, not_or] at ha
    rw [List.cons_append, splitSlashes, ih ha.2]
    exact if_neg (Ne.symm ha.1)

theorem splitSlashes_of_not_mem (ha : '/' ∉ a) : splitSlashes a = [a] := by
  induction a with
  | nil => rfl
  | cons c a ih =>
    rw [List.mem_cons, not_or] at ha
    rw [splitSlashes, ih ha.2]
    exact if_neg (Ne.symm ha.1)

/-- A text that can be a part of a path. -/
def IsPart (s : String) : Prop := s ≠ "" ∧ s ≠ "." ∧ '/' ∉ s.toList

instance (s : String) : Decidable (IsPart s) := inferInstanceAs (Decidable (_ ∧ _ ∧ _))

theorem splitSlashes_intercalate (h : ∀ part ∈ parts, IsPart part) (hne : parts ≠ []) :
    splitSlashes (String.intercalate "/" parts).toList = parts.map String.toList := by
  induction parts with
  | nil => exact absurd rfl hne
  | cons part parts ih =>
    have hpart := (h part List.mem_cons_self).2.2
    cases parts with
    | nil =>
      rw [String.intercalate_singleton]
      exact splitSlashes_of_not_mem hpart
    | cons next parts =>
      have hrest := ih (fun p hp => h p (List.mem_cons_of_mem part hp)) (List.cons_ne_nil next parts)
      rw [String.intercalate_cons_cons, String.toList_append, String.toList_append, List.append_assoc,
        List.map_cons, ← hrest]
      exact splitSlashes_append hpart

theorem pathParts_intercalate (h : ∀ part ∈ parts, IsPart part) :
    pathParts (String.intercalate "/" parts) = parts := by
  by_cases hne : parts = []
  · subst hne
    rfl
  · have hkeep : parts.filter (fun part => part ≠ "" ∧ part ≠ ".") = parts := by
      apply List.filter_eq_self.mpr
      intro part hpart
      obtain ⟨hempty, hdot, -⟩ := h part hpart
      exact decide_eq_true ⟨hempty, hdot⟩
    have hback : (parts.map String.toList).map String.ofList = parts := by
      rw [List.map_map]
      exact List.map_id'' (fun s => String.ofList_toList) parts
    rw [pathParts, splitSlashes_intercalate h hne, hback, hkeep]

theorem pathRoot_eq_empty {s : String} {c : Char} {cs : List Char} (hs : s.toList = c :: cs)
    (hc : c ≠ '/') : pathRoot s = "" := by
  have hnone : s.toList.takeWhile (· == '/') = [] := by
    rw [hs]
    exact List.takeWhile_cons_of_neg (by simpa using hc)
  rw [pathRoot, hnone]
  rfl

theorem pathRoot_intercalate (h : ∀ part ∈ parts, IsPart part) (hne : parts ≠ []) :
    pathRoot (String.intercalate "/" parts) = "" := by
  obtain ⟨part, rest, rfl⟩ := List.exists_cons_of_ne_nil hne
  obtain ⟨hempty, -, hslash⟩ := h part List.mem_cons_self
  have hchars : part.toList ≠ [] := by
    intro hnil
    exact hempty (String.toList_eq_nil_iff.mp hnil)
  obtain ⟨c, cs, hcs⟩ := List.exists_cons_of_ne_nil hchars
  have hc : c ≠ '/' := by
    rintro rfl
    exact hslash (hcs ▸ List.mem_cons_self)
  cases rest with
  | nil =>
    rw [String.intercalate_singleton]
    exact pathRoot_eq_empty hcs hc
  | cons next rest =>
    have hfront : (String.intercalate "/" (part :: next :: rest)).toList =
        c :: (cs ++ ("/" ++ String.intercalate "/" (next :: rest)).toList) := by
      rw [String.intercalate_cons_cons, String.append_assoc, String.toList_append, hcs]
      rfl
    exact pathRoot_eq_empty hfront hc

namespace Path

theorem mem_intercalate {c : Char} (h : c ∈ (String.intercalate "/" parts).toList) :
    c = '/' ∨ ∃ part ∈ parts, c ∈ part.toList := by
  induction parts with
  | nil => cases h
  | cons part parts ih =>
    cases parts with
    | nil =>
      rw [String.intercalate_singleton] at h
      exact .inr ⟨part, List.mem_cons_self, h⟩
    | cons next parts =>
      rw [String.intercalate_cons_cons, String.toList_append, String.toList_append] at h
      rcases List.mem_append.mp h with hfront | hrest
      · rcases List.mem_append.mp hfront with hpart | hslash
        · exact .inr ⟨part, List.mem_cons_self, hpart⟩
        · exact .inl (List.mem_singleton.mp hslash)
      · rcases ih hrest with hslash | ⟨p, hp, hc⟩
        · exact .inl hslash
        · exact .inr ⟨p, List.mem_cons_of_mem part hp, hc⟩

theorem toString_relative (hne : parts ≠ []) :
    Path.toString ⟨"", parts⟩ = String.intercalate "/" parts := by
  have hhere : (⟨"", parts⟩ : Path) ≠ here := by
    intro heq
    cases heq
    exact hne rfl
  rw [Path.toString, if_neg hhere, String.empty_append]

/-- A relative path that has parts reads back as it was. -/
theorem ofString_toString (h : ∀ part ∈ parts, IsPart part) (hne : parts ≠ []) :
    ofString (Path.toString ⟨"", parts⟩) = ⟨"", parts⟩ := by
  rw [toString_relative hne, ofString, pathRoot_intercalate h hne, pathParts_intercalate h]

/-- The length of a text that has a slash behind every part. -/
def slashedSize (parts : List String) : Nat :=
  parts.foldr (fun part size => part.utf8ByteSize + 1 + size) 0

theorem slashedSize_append (front parts : List String) :
    slashedSize (front ++ parts) = slashedSize front + slashedSize parts := by
  induction front with
  | nil => exact (Nat.zero_add _).symm
  | cons part front ih =>
    have hpart : ∀ rest, slashedSize (part :: rest) = part.utf8ByteSize + 1 + slashedSize rest :=
      fun _ => rfl
    rw [List.cons_append, hpart, hpart, ih]
    omega

theorem size_slashed {parts : List String} (h : parts ≠ []) :
    (String.intercalate "/" parts).utf8ByteSize + 1 = slashedSize parts := by
  induction parts with
  | nil => exact absurd rfl h
  | cons part parts ih =>
    cases parts with
    | nil =>
      rw [String.intercalate_singleton]
      rfl
    | cons next parts =>
      have hslash : "/".utf8ByteSize = 1 := by decide
      have hrest := ih (List.cons_ne_nil next parts)
      have hpart : slashedSize (part :: next :: parts) =
          part.utf8ByteSize + 1 + slashedSize (next :: parts) := rfl
      rw [hpart, ← hrest, String.intercalate_cons_cons, String.utf8ByteSize_append,
        String.utf8ByteSize_append, hslash]
      omega

/-- A relative path is as long as its parts and the slashes between them. -/
theorem size_toString (hne : parts ≠ []) :
    (Path.toString ⟨"", parts⟩).utf8ByteSize + 1 = slashedSize parts := by
  rw [toString_relative hne]
  exact size_slashed hne

/-- The last suffix is no part of the stem, unless nothing stands in front of it. -/
theorem stemOf_suffix {base suffix : List Char} (hne : suffix ≠ []) (hdot : '.' ∉ suffix) :
    stemOf (base ++ '.' :: suffix) = if base = [] then '.' :: suffix else base := by
  have hreverse : (base ++ '.' :: suffix).reverse = suffix.reverse ++ '.' :: base.reverse := by
    simp
  have hall : ∀ c ∈ suffix.reverse, (c != '.') = true := by
    intro c hc
    exact bne_iff_ne.mpr fun h => hdot (h ▸ List.mem_reverse.mp hc)
  have htake : (base ++ '.' :: suffix).reverse.takeWhile (· != '.') = suffix.reverse := by
    rw [hreverse, List.takeWhile_append_of_pos hall]
    simp
  have hdrop : (base ++ '.' :: suffix).reverse.dropWhile (· != '.') = '.' :: base.reverse := by
    rw [hreverse, List.dropWhile_append_of_pos hall]
    simp
  rw [stemOf, htake, hdrop]
  by_cases hbase : base = []
  · simp [hbase]
  · simp [hbase, hne]

end Path

end LayoutQuery

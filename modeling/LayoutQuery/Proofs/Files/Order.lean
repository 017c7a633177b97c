import LayoutQuery.Files.Glob
import LayoutQuery.Proofs.Except
import Mathlib.Data.String.Basic
import Mathlib.Data.List.Lex

/-! # The order of listed paths
What a glob selects has the root of the directory that it was followed from. Paths of one root are
told apart by their parts, so their list ascends strictly: no path stands in it twice. In a single
directory they ascend as their names do. -/
namespace LayoutQuery

namespace Path

/-- All parts are compared one by one, the root as the first. -/
def Before (p q : Path) : Prop := p.key < q.key

def Ascending (paths : List Path) : Prop := paths.Pairwise Before

theorem Before.trans {p q r : Path} (h : p.Before q) (h' : q.Before r) : p.Before r :=
  lt_trans (show p.key < q.key from h) h'

theorem Before.ne {p q : Path} (h : p.Before q) : p ≠ q := by
  rintro rfl
  exact lt_irrefl p.key h

theorem Ascending.nodup {paths : List Path} (h : Ascending paths) : paths.Nodup :=
  h.imp Before.ne

theorem eq_of_key {p q : Path} (hroot : p.root = q.root) (hkey : p.key = q.key) : p = q := by
  obtain ⟨root, parts⟩ := p
  obtain ⟨root', parts'⟩ := q
  obtain rfl : root = root' := hroot
  by_cases hempty : root = ""
  · rw [key, key, if_pos hempty, if_pos hempty] at hkey
    rw [show parts = parts' from hkey]
  · rw [key, key, if_neg hempty, if_neg hempty] at hkey
    rw [show parts = parts' from (List.cons.inj hkey).2]

theorem before_or {p q : Path} (hroot : p.root = q.root) : p.Before q ∨ p = q ∨ q.Before p := by
  rcases lt_trichotomy p.key q.key with hlt | heq | hgt
  · exact .inl hlt
  · exact .inr (.inl (eq_of_key hroot heq))
  · exact .inr (.inr hgt)

variable {p q : Path} {paths : List Path} {root : String}

theorem mem_insert_iff : q ∈ insert p paths ↔ q = p ∨ q ∈ paths := by
  induction paths with
  | nil => simp [insert]
  | cons head rest ih =>
    rw [insert]
    split_ifs with hlt heq
    · exact List.mem_cons
    · subst heq
      simp
    · rw [List.mem_cons, ih, List.mem_cons, or_left_comm]

theorem mem_sorted_iff : q ∈ sorted paths ↔ q ∈ paths := by
  induction paths with
  | nil => exact Iff.rfl
  | cons head rest ih =>
    have hinsert : q ∈ insert head (sorted rest) ↔ q = head ∨ q ∈ sorted rest := mem_insert_iff
    rw [List.mem_cons, ← ih]
    exact hinsert

theorem Ascending.insert (h : Ascending paths) (hroot : ∀ q ∈ paths, p.root = q.root) :
    Ascending (Path.insert p paths) := by
  induction paths with
  | nil => exact List.pairwise_singleton _ p
  | cons head rest ih =>
    obtain ⟨hhead, hrest⟩ := List.pairwise_cons.mp h
    rw [Path.insert]
    split_ifs with hlt heq
    · apply List.pairwise_cons.mpr
      refine ⟨?_, h⟩
      intro q hq
      rcases List.mem_cons.mp hq with rfl | hq
      · exact hlt
      · exact Before.trans hlt (hhead q hq)
    · exact h
    · have hbehind : head.Before p := by
        rcases before_or (hroot head List.mem_cons_self) with hbefore | hsame | hafter
        · exact absurd hbefore hlt
        · exact absurd hsame heq
        · exact hafter
      apply List.pairwise_cons.mpr
      refine ⟨?_, ih hrest fun q hq => hroot q (List.mem_cons_of_mem head hq)⟩
      intro q hq
      rcases mem_insert_iff.mp hq with rfl | hq
      · exact hbehind
      · exact hhead q hq

/-- Sorting paths of one root leaves no two that are the same. -/
theorem ascending_sorted (hroot : ∀ q ∈ paths, q.root = root) : Ascending (sorted paths) := by
  induction paths with
  | nil => exact List.Pairwise.nil
  | cons head rest ih =>
    have hrest : ∀ q ∈ rest, q.root = root := fun q hq => hroot q (List.mem_cons_of_mem head hq)
    have hsorted := ih hrest
    apply hsorted.insert
    intro q hq
    rw [hroot head List.mem_cons_self, hrest q (mem_sorted_iff.mp hq)]

/-! ## Up to one of the paths -/

instance (p q : Path) : Decidable (p.Before q) := inferInstanceAs (Decidable (p.key < q.key))

theorem not_before_self (p : Path) : ¬ p.Before p := fun h => h.ne rfl

/-- In an ascending list the paths before one of them are those in front of it. -/
theorem Ascending.filter_before {front rest : List Path} (h : Ascending (front ++ p :: rest)) :
    (front ++ p :: rest).filter (·.Before p) = front := by
  obtain ⟨-, hbehind, hfront⟩ := List.pairwise_append.mp h
  have hall : front.filter (·.Before p) = front := by
    apply List.filter_eq_self.mpr
    intro q hq
    exact decide_eq_true (hfront q hq p List.mem_cons_self)
  have hnone : (p :: rest).filter (·.Before p) = [] := by
    apply List.filter_eq_nil_iff.mpr
    intro q hq hbefore
    have hqp : q.Before p := of_decide_eq_true hbefore
    rcases List.mem_cons.mp hq with rfl | hq
    · exact not_before_self q hqp
    · exact not_before_self p (((List.pairwise_cons.mp hbehind).1 q hq).trans hqp)
  rw [List.filter_append, hall, hnone, List.append_nil]

/-! ## Paths in one directory -/

@[simp] theorem name_child (p : Path) (name : String) : (p.child name).name = name := by
  simp [Path.name, child]

theorem child_before (p : Path) {a b : String} (h : a < b) : (p.child a).Before (p.child b) := by
  have hparts : p.parts ++ [a] < p.parts ++ [b] := List.append_left_lt (List.Lex.rel h)
  have hkey : ∀ name, (p.child name).key =
      if p.root = "" then p.parts ++ [name] else p.root :: (p.parts ++ [name]) := fun _ => rfl
  rw [Before, hkey, hkey]
  split_ifs
  · exact hparts
  · exact List.cons_lt_cons_self.mpr hparts

/-- Paths in one directory are in the order of their names. -/
theorem child_before_iff {a b : String} : (p.child a).Before (p.child b) ↔ a < b := by
  constructor
  · intro h
    rcases lt_trichotomy a b with hlt | rfl | hgt
    · exact hlt
    · exact absurd h (not_before_self _)
    · exact absurd (h.trans (p.child_before hgt)) (not_before_self _)
  · exact p.child_before

end Path

variable {t : Tree} {p q : Path} {paths : List Path}

/-- What is listed in a directory stands directly in it. -/
theorem Tree.exists_child_of_children {keep : Entry → Bool} (h : t.children p keep = .ok paths)
    (hq : q ∈ paths) : ∃ name, q = p.child name := by
  rw [Tree.children] at h
  split at h
  next names _ =>
    cases h
    obtain ⟨⟨key, entry⟩, -, hchild⟩ := List.mem_filterMap.mp (Path.mem_sorted_iff.mp hq)
    dsimp only at hchild
    split at hchild
    next =>
      obtain ⟨name, -, rfl⟩ := Option.map_eq_some_iff.mp hchild
      exact ⟨name, rfl⟩
    next => cases hchild
  next => cases h

theorem Tree.root_of_children {keep : Entry → Bool} (h : t.children p keep = .ok paths)
    (hq : q ∈ paths) : q.root = p.root := by
  obtain ⟨name, rfl⟩ := Tree.exists_child_of_children h hq
  rfl

theorem Tree.root_of_directoriesUnder (hq : q ∈ t.directoriesUnder p) : q.root = p.root := by
  rw [Tree.directoriesUnder] at hq
  split at hq
  next names _ =>
    rcases List.mem_cons.mp (Path.mem_sorted_iff.mp hq) with rfl | hq
    · rfl
    · obtain ⟨key, -, hbelow⟩ := List.mem_filterMap.mp hq
      split at hbelow
      next =>
        cases hbelow
        rfl
      next => cases hbelow
  next => rw [List.mem_singleton.mp hq]

namespace Glob

/-- Every step of a glob keeps the root. -/
theorem root_of_follow {steps : List GlobStep} (h : follow t steps p = .ok paths) (hq : q ∈ paths) :
    q.root = p.root := by
  induction steps generalizing p q paths with
  | nil =>
    cases h
    rw [List.mem_singleton.mp hq]
  | cons step rest ih =>
    cases step with
    | here =>
      cases h
      rw [List.mem_singleton.mp hq]
    | name name =>
      obtain ⟨found, -, hfound⟩ := bind_eq_ok_iff.mp h
      cases found with
      | none =>
        cases hfound
        cases hq
      | some entry =>
        dsimp only at hfound
        split at hfound
        next =>
          have hchild : (p.child name).root = p.root := rfl
          rw [← hchild]
          exact ih hfound hq
        next =>
          cases hfound
          cases hq
    | wild pattern =>
      obtain ⟨listed, hlisted, hfound⟩ := bind_eq_ok_iff.mp h
      obtain ⟨found, hmap, hflat⟩ := bind_eq_ok_iff.mp hfound
      cases hflat
      obtain ⟨qs, hqs, hq⟩ := List.mem_flatten.mp hq
      obtain ⟨start, hstart, hfollow⟩ := exists_of_mem_mapM hmap hqs
      rw [ih hfollow hq, Tree.root_of_children hlisted (List.mem_filter.mp hstart).1]
    | descend =>
      obtain ⟨found, hmap, hflat⟩ := bind_eq_ok_iff.mp h
      cases hflat
      obtain ⟨qs, hqs, hq⟩ := List.mem_flatten.mp hq
      obtain ⟨start, hstart, hbelow⟩ := exists_of_mem_mapM hmap hqs
      obtain ⟨selected, hfollow, hlook⟩ := bind_eq_ok_iff.mp hbelow
      obtain ⟨looked, -, hsame⟩ := bind_eq_ok_iff.mp hlook
      cases hsame
      rw [ih hfollow hq, Tree.root_of_directoriesUnder hstart]

theorem ascending_select {g : Glob} (h : g.select t p = .ok paths) : Path.Ascending paths := by
  obtain ⟨found, -, hfound⟩ := bind_eq_ok_iff.mp h
  split at hfound
  next =>
    obtain ⟨followed, hfollow, hsorted⟩ := bind_eq_ok_iff.mp hfound
    cases hsorted
    exact Path.ascending_sorted fun q hq => root_of_follow hfollow hq
  next =>
    cases hfound
    exact List.Pairwise.nil

end Glob

end LayoutQuery

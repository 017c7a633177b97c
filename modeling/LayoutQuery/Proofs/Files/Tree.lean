import LayoutQuery.Files.Glob
import LayoutQuery.Proofs.Except
import LayoutQuery.Proofs.Files.Path
import LayoutQuery.Proofs.Files.Wildcard
import Mathlib.Tactic.SplitIfs

/-! # Looking at paths
What the files tell of a path: that no file is there, the content of the file, or that the path is
too long to be followed. -/
namespace LayoutQuery

variable {t : Tree} {p : Path}

namespace Tree

/-- The file system tells that no file is there. -/
def NoFile (t : Tree) (p : Path) : Prop :=
  t.look p = .ok none ∨ t.look p = .ok (some .directory)

theorem walk_fault {names parts : List String} {fault : FileFault}
    (h : t.walk names parts = .error fault) : fault.isAbsence = true ∨ fault = .nameTooLong := by
  induction parts generalizing names with
  | nil => cases h
  | cons part parts ih =>
    rw [Tree.walk] at h
    split at h
    next =>
      cases h
      exact .inl rfl
    next =>
      cases h
      exact .inl rfl
    next =>
      split at h
      next =>
        cases h
        exact .inr rfl
      next => exact ih h

theorem find_fault {fault : FileFault} (h : t.find p = .error fault) :
    fault.isAbsence = true ∨ fault = .nameTooLong := by
  rw [Tree.find] at h
  rcases bind_eq_error_iff.mp h with hlocate | ⟨names, -, hentry⟩
  · rw [Tree.locate] at hlocate
    split_ifs at hlocate
    · cases hlocate
      exact .inl rfl
    · cases hlocate
      exact .inr rfl
    · exact walk_fault hlocate
  · split at hentry
    next => cases hentry
    next =>
      cases hentry
      exact .inl rfl

/-- A path fails to be looked at only for its length. -/
theorem look_fault {fault : PathFault} (h : t.look p = .error fault) : fault = ⟨p, .nameTooLong⟩ := by
  rw [Tree.look] at h
  split at h
  next => cases h
  next reason hfind =>
    split at h
    next => cases h
    next hpresent =>
      cases h
      rcases find_fault hfind with habsent | rfl
      · exact absurd habsent hpresent
      · rfl

theorem find_of_look {entry : Entry} (h : t.look p = .ok (some entry)) : t.find p = .ok entry := by
  rw [Tree.look] at h
  cases hfind : t.find p with
  | error fault =>
    rw [hfind] at h
    dsimp only at h
    split at h <;> cases h
  | ok found =>
    rw [hfind] at h
    cases h
    rfl

theorem read_of_look {bytes : List UInt8} (h : t.look p = .ok (some (.file bytes))) :
    t.read p = .ok bytes := by
  rw [Tree.read, find_of_look h]
  rfl

/-- What is found at a path is the entry of a place. -/
theorem exists_place_of_look {entry : Entry} (h : t.look p = .ok (some entry)) :
    ∃ place, t.locate p = .ok place ∧ t.entryAt place = some entry := by
  obtain ⟨place, hplace, hfound⟩ := bind_eq_ok_iff.mp (find_of_look h)
  refine ⟨place, hplace, ?_⟩
  split at hfound
  next found hentry =>
    cases hfound
    exact hentry
  next => cases hfound

end Tree

/-! ## Patterns of one part -/

theorem Glob.ofString_star : Glob.ofString "*" = .ok ⟨[.wild [.anyRun]]⟩ := by
  have hwild : Wild.ofChars ['*'] = [.anyRun] := by
    simp [Wild.ofChars]
  rw [← hwild]
  rfl

theorem Wild.matchesAll_anyRun (cs : List Char) : matchesAll [.anyRun] cs = true :=
  matchesAll_iff.mpr ⟨[], List.nil_suffix, rfl⟩

/-- A pattern of one part selects from what is directly in the directory, files and directories. -/
theorem Glob.select_wild {pattern : List Wild} {paths : List Path}
    (hlook : t.look p = .ok (some .directory))
    (hlisted : t.children p (fun _ => true) = .ok paths) :
    (Glob.mk [.wild pattern]).select t p =
      .ok (Path.sorted (paths.filter fun q => Wild.matchesAll pattern q.name.toList)) := by
  have hnothing : ∀ qs : List Path, qs.mapM (Glob.follow t []) = .ok (qs.map fun q => [q]) :=
    fun qs => List.mapM_pure
  have hfollow : Glob.follow t [.wild pattern] p =
      .ok (paths.filter fun q => Wild.matchesAll pattern q.name.toList) := by
    rw [Glob.follow]
    simp [hlisted, hnothing, ← List.flatMap_def]
  rw [Glob.select, hlook]
  simp only [hfollow]
  rfl

theorem Glob.select_anyRun {paths : List Path} (hlook : t.look p = .ok (some .directory))
    (hlisted : t.children p (fun _ => true) = .ok paths) :
    (Glob.mk [.wild [.anyRun]]).select t p = .ok (Path.sorted paths) := by
  have hall : paths.filter (fun q => Wild.matchesAll [.anyRun] q.name.toList) = paths :=
    List.filter_eq_self.mpr fun q _ => Wild.matchesAll_anyRun q.name.toList
  rw [Glob.select_wild hlook hlisted, hall]

namespace Tree

/-! ## At the greatest length -/

/-- A directory within another. -/
def nested : Tree := ⟨[], [(["d"], .directory), (["d", "abcd"], .directory)]⟩

/-- A path that goes into the outer directory and out again, and then down. -/
def detour (count : Nat) (parts : List String) : Path :=
  ⟨"", (List.replicate count ["d", ".."]).flatten ++ parts⟩

theorem child_detour (count : Nat) (parts : List String) (name : String) :
    (detour count parts).child name = detour count (parts ++ [name]) := by
  simp [Path.child, detour]

theorem size_detour (count : Nat) {parts : List String} (h : parts ≠ []) :
    (detour count parts).toString.utf8ByteSize + 1 = 5 * count + Path.slashedSize parts := by
  have hne : (List.replicate count ["d", ".."]).flatten ++ parts ≠ [] := by simp [h]
  rw [detour, Path.size_toString hne, Path.slashedSize_append]
  congr 1
  induction count with
  | zero => rfl
  | succ count ih =>
    have hturn : Path.slashedSize ["d", ".."] = 5 := by decide
    rw [List.replicate_succ, List.flatten_cons, Path.slashedSize_append, ih (by simp [h]), hturn]
    omega

section Detour

variable (hhome : t.home = []) (hdirectory : t.entryAt ["d"] = some .directory) (count : Nat)
  {parts : List String}

include hdirectory in
/-- The way into the directory and out again leads nowhere, in any tree that has the directory. -/
theorem walk_of_detour (parts : List String) :
    t.walk [] (detour count parts).parts = t.walk [] parts := by
  induction count with
  | zero => rfl
  | succ count ih =>
    have hturn : t.walk [] ("d" :: ".." :: (detour count parts).parts) =
        t.walk [] (detour count parts).parts := by
      have hroot : t.entryAt [] = some .directory := rfl
      have hthere : t.entryAt (stepTo [] "d") = some .directory := hdirectory
      rw [walk, hroot]
      dsimp only
      rw [if_neg (by decide), walk, hthere]
      dsimp only
      rw [if_neg (by decide)]
      rfl
    exact hturn.trans ih

include hhome hdirectory

theorem locate_of_detour (h : parts ≠ [])
    (hnull : parts.any (·.toList.contains '\x00') = false) :
    t.locate (detour count parts) =
      if pathLimit < 5 * count + Path.slashedSize parts then .error .nameTooLong
      else t.walk [] parts := by
  have hsize := size_detour count h
  have hall : (detour count parts).parts.any (·.toList.contains '\x00') = false := by
    have hturn : ["d", ".."].any (·.toList.contains '\x00') = false := by decide
    rw [detour, List.any_append, hnull, Bool.or_false, List.any_flatten, List.any_replicate, hturn]
    simp
  have hstart : t.start (detour count parts) = [] := hhome
  rw [locate, hall, if_neg Bool.false_ne_true, hstart]
  split_ifs with hlong hsum hsum
  · rfl
  · omega
  · omega
  · exact walk_of_detour hdirectory count parts

theorem locate_of_detour_short (h : parts ≠ [])
    (hnull : parts.any (·.toList.contains '\x00') = false)
    (hshort : 5 * count + Path.slashedSize parts ≤ pathLimit) :
    t.locate (detour count parts) = t.walk [] parts := by
  rw [locate_of_detour hhome hdirectory count h hnull, if_neg (Nat.not_lt.mpr hshort)]

theorem look_of_detour_overlong (h : parts ≠ [])
    (hnull : parts.any (·.toList.contains '\x00') = false)
    (hlong : pathLimit < 5 * count + Path.slashedSize parts) :
    t.look (detour count parts) = .error ⟨detour count parts, .nameTooLong⟩ := by
  rw [look, find, locate_of_detour hhome hdirectory count h hnull, if_pos hlong]
  rfl

end Detour

theorem walk_detour (count : Nat) (parts : List String) :
    nested.walk [] (detour count parts).parts = nested.walk [] parts :=
  walk_of_detour rfl count parts

theorem locate_detour {count : Nat} (h : 5 * count + 2 ≤ pathLimit) :
    nested.locate (detour count ["d"]) = .ok ["d"] :=
  locate_of_detour_short rfl rfl count (List.cons_ne_nil _ _) (by decide) h

theorem look_detour {count : Nat} (h : 5 * count + 2 ≤ pathLimit) :
    nested.look (detour count ["d"]) = .ok (some .directory) := by
  rw [look, find, locate_detour h]
  rfl

theorem look_detour_overlong {count : Nat} (h : pathLimit < 5 * count + 7) :
    nested.look (detour count ["d", "abcd"]) =
      .error ⟨detour count ["d", "abcd"], .nameTooLong⟩ :=
  look_of_detour_overlong rfl rfl count (List.cons_ne_nil _ _) (by decide) h

theorem select_detour {count : Nat} (h : 5 * count + 2 ≤ pathLimit) :
    (Glob.mk [.wild [.anyRun]]).select nested (detour count ["d"]) =
      .ok [detour count ["d", "abcd"]] := by
  have hchild : (detour count ["d"]).child "abcd" = detour count ["d", "abcd"] :=
    child_detour count ["d"] "abcd"
  have hchildren : nested.children (detour count ["d"]) (fun _ => true) =
      .ok [detour count ["d", "abcd"]] := by
    rw [children, locate_detour h, ← hchild]
    rfl
  exact Glob.select_anyRun (look_detour h) hchildren

end Tree

end LayoutQuery

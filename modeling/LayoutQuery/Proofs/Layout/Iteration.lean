import LayoutQuery.Proofs.Files.Creation
import LayoutQuery.Proofs.Layout.Feed
import LayoutQuery.Proofs.Layout.Session

/-! # Iteration to the end
While the files stay as they are, a stream that is asked until its end reads the listed files one by
one, up to the first path that fails. Which ones these are depends on the files only, and not on the
order in which they came to be. -/
namespace LayoutQuery

def Tree.isFile (t : Tree) (p : Path) : Bool :=
  match t.look p with
  | .ok (some (.file _)) => true
  | _ => false

theorem Tree.isFile_iff {t : Tree} {p : Path} :
    t.isFile p = true ↔ ∃ bytes, t.look p = .ok (some (.file bytes)) := by
  rw [isFile]
  constructor
  · intro h
    split at h
    next bytes hlook => exact ⟨bytes, hlook⟩
    next => cases h
  · rintro ⟨bytes, hlook⟩
    rw [hlook]

namespace LayoutStream

/-- The paths whose turn comes until the end, or until one fails. -/
def turns (t : Tree) : List Path → List Path
  | [] => []
  | p :: rest =>
    match deliver t p with
    | .error _ => [p]
    | .ok _ => p :: turns t rest

/-- The paths that are read when a stream is pulled to its end, once for each layout and once more:
of those that are reached, the ones at which a file is found. -/
def reads (t : Tree) (s : LayoutStream) : List Path :=
  ((pulls t ((s.feed t).layouts.length + 1) s).flatMap Pull.reached).filter t.isFile

variable {t t' : Tree} {s : LayoutStream} {p : Path} {paths rest read : List Path}
  {f : Feed StreamFault}

/-- What becomes of listed paths: all files are read and their layouts delivered, or those before the
first path that fails. -/
inductive Iteration (t : Tree) (paths : List Path) : List Path → Feed StreamFault → Prop where
  | whole : (∀ p ∈ paths, t.Serves p) →
      Iteration t paths (paths.filter t.isFile) (Feed.ofList ((t.layouts paths).map Prod.snd))
  | stopped {front rest : List Path} {p : Path} {fault : StreamFault} :
      paths = front ++ p :: rest → (∀ q ∈ front, t.Serves q) → Turn t p (.error fault) →
      Iteration t paths ((front ++ [p]).filter t.isFile)
        ⟨(t.layouts front).map Prod.snd, some fault⟩

/-! ## The paths that are reached -/

theorem pulls_succ (hpaths : s.paths t = .ok paths) (count : Nat) :
    pulls t (count + 1) s = pullOf t paths :: pulls t count (.listed (pull t paths).2) := by
  rw [pulls, pullOn, behindPull, next, hpaths]

theorem reached_pullOf (t : Tree) (p : Path) (rest : List Path) :
    (pullOf t (p :: rest)).reached =
      if skips t p then p :: (pullOf t rest).reached else [p] := by
  cases hskips : skips t p <;> simp [pullOf, Pull.reached, hskips]

/-- Pulling to the end gives each path its turn, up to the first that fails. -/
theorem reached_to_end (hpaths : s.paths t = .ok paths) :
    (pulls t ((s.feed t).layouts.length + 1) s).flatMap Pull.reached = turns t paths := by
  rw [feed_of_ok t hpaths]
  induction paths generalizing s with
  | nil =>
    rw [pulls_succ hpaths]
    rfl
  | cons p rest ih =>
    rw [pulls_succ hpaths, List.flatMap_cons, reached_pullOf, skips, turns, feedOf, pull]
    have hrest := ih (s := .listed rest) rfl
    cases hdeliver : deliver t p with
    | error fault => rfl
    | ok found =>
      cases found with
      | some l =>
        dsimp only
        rw [if_neg Bool.false_ne_true, List.length_cons, hrest]
        rfl
      | none =>
        -- the pull that passes over `p` is the one that the rest begins with
        rw [pulls_succ rfl, List.flatMap_cons] at hrest
        dsimp only
        rw [if_pos rfl, List.cons_append, hrest]

theorem reads_of_ok (hpaths : s.paths t = .ok paths) :
    s.reads t = (turns t paths).filter t.isFile := by
  rw [reads, reached_to_end hpaths]

theorem reads_of_error {fault : StreamFault} (hpaths : s.paths t = .error fault) :
    s.reads t = [] := by
  rw [reads, feed_of_error t hpaths]
  simp [pulls, pullOn, hpaths, Pull.reached]

/-! ## One path -/

theorem exists_deliver_of_serves (hp : t.Serves p) : ∃ found, deliver t p = .ok found := by
  rcases hp with hno | ⟨bytes, l, hlook, hload⟩
  · exact ⟨none, deliver_of_noFile hno⟩
  · exact ⟨some l, deliver_of_load hlook hload⟩

theorem turn_of_not_serves (hp : ¬ t.Serves p) :
    ∃ fault, deliver t p = .error fault ∧ Turn t p (.error fault) := by
  rcases deliver_cases t p with ⟨hno, -⟩ | ⟨hturn, -⟩
  · exact absurd (.inl hno) hp
  · cases hdeliver : deliver t p with
    | error fault =>
      rw [hdeliver] at hturn
      exact ⟨fault, rfl, hturn⟩
    | ok found =>
      rw [hdeliver] at hturn
      cases hturn with
      | @read bytes l hlook hbytes =>
        exact absurd (.inr ⟨bytes, l, hlook, (load_of_look hlook).trans hbytes⟩) hp

/-! ## All paths -/

/-- A path that serves adds itself and its layout in front, if it is a file. -/
theorem Iteration.cons (hp : t.Serves p) (h : Iteration t rest read f) :
    Iteration t (p :: rest) ([p].filter t.isFile ++ read)
      (f.prepend ((t.layouts [p]).map Prod.snd)) := by
  have hread : ∀ ps : List Path, [p].filter t.isFile ++ ps.filter t.isFile =
      (p :: ps).filter t.isFile := fun ps => (List.filter_append [p] ps).symm
  cases h with
  | whole hserves =>
    rw [hread, Feed.ofList, Feed.prepend, ← t.layouts_cons]
    exact .whole (List.forall_mem_cons.mpr ⟨hp, hserves⟩)
  | @stopped front behind q fault hpaths hserves hturn =>
    subst hpaths
    rw [hread, Feed.prepend, ← t.layouts_cons]
    exact .stopped rfl (List.forall_mem_cons.mpr ⟨hp, hserves⟩) hturn

theorem iteration_listed (t : Tree) (paths : List Path) :
    Iteration t paths ((turns t paths).filter t.isFile) (feedOf t paths) := by
  induction paths with
  | nil => exact .whole nofun
  | cons p rest ih =>
    by_cases hp : t.Serves p
    · obtain ⟨found, hdeliver⟩ := exists_deliver_of_serves hp
      have hturns : turns t (p :: rest) = [p] ++ turns t rest := by
        rw [turns, hdeliver]
        rfl
      rw [hturns, List.filter_append, feedOf_cons hp]
      exact ih.cons hp
    · obtain ⟨fault, hdeliver, hturn⟩ := turn_of_not_serves hp
      rw [turns, feedOf, hdeliver]
      exact @Iteration.stopped t (p :: rest) [] rest p fault rfl nofun hturn

theorem Iteration.sublist (h : Iteration t paths read f) : read.Sublist paths := by
  cases h with
  | whole => exact List.filter_sublist
  | @stopped front behind q fault hpaths =>
    refine List.filter_sublist.trans ?_
    rw [hpaths, List.append_cons front q behind]
    exact List.sublist_append_left (front ++ [q]) behind

theorem Iteration.isFile (h : Iteration t paths read f) (hp : p ∈ read) : t.isFile p = true := by
  cases h with
  | whole => exact (List.mem_filter.mp hp).2
  | stopped => exact (List.mem_filter.mp hp).2

theorem layouts_filter_isFile (t : Tree) (paths : List Path) :
    t.layouts (paths.filter t.isFile) = t.layouts paths := by
  rw [Tree.layouts, Tree.layouts, List.filterMap_filter]
  apply List.filterMap_congr
  intro p _
  split
  next => rfl
  next hfile =>
    cases hat : t.layoutAt p with
    | none => rfl
    | some f =>
      obtain ⟨-, hlook, -⟩ := Tree.layoutAt_eq_some_iff.mp hat
      exact absurd (Tree.isFile_iff.mpr hlook) hfile

/-- The layouts that are delivered are those of the files that are read, but for one that fails. -/
theorem Iteration.layouts (h : Iteration t paths read f) :
    f.layouts = (t.layouts read).map Prod.snd := by
  cases h with
  | whole =>
    rw [layouts_filter_isFile]
    rfl
  | @stopped front rest p fault hpaths hserves hturn =>
    have hlast : t.layoutAt p = none := by
      cases hat : t.layoutAt p with
      | none => rfl
      | some f =>
        obtain ⟨-, ⟨bytes, hlook⟩, hload⟩ := Tree.layoutAt_eq_some_iff.mp hat
        cases hturn with
        | malformed hlook' hbytes =>
          rw [load_of_look hlook', hbytes] at hload
          cases hload
        | refused hlook' =>
          rw [hlook'] at hlook
          cases hlook
    rw [layouts_filter_isFile, Tree.layouts, Tree.layouts, List.filterMap_append,
      List.filterMap_cons_none hlast, List.filterMap_nil, List.append_nil]

theorem turns_congr (h : t.Agrees t') (paths : List Path) : turns t paths = turns t' paths := by
  induction paths with
  | nil => rfl
  | cons p paths ih => simp only [turns, deliver_congr h, ih]

theorem reads_congr (h : t.Agrees t') (s : LayoutStream) : s.reads t = s.reads t' := by
  cases hpaths : s.paths t with
  | error fault =>
    rw [reads_of_error hpaths, reads_of_error ((paths_congr h s).symm.trans hpaths)]
  | ok paths =>
    have hfile : t.isFile = t'.isFile := by
      funext p
      rw [Tree.isFile, Tree.isFile, h.look]
    rw [reads_of_ok hpaths, reads_of_ok ((paths_congr h s).symm.trans hpaths), turns_congr h, hfile]

end LayoutStream

/-! ## At the greatest length -/

namespace Tree

/-- A directory and a file within a directory. The name of the file is the shorter one. -/
def wideWith (bytes : List UInt8) : Tree :=
  ⟨[], [(["d", "z"], .file bytes), (["d", "abcd"], .directory), (["d"], .directory)]⟩

/-- The file holds an empty object. -/
def wide : Tree :=
  ⟨[], [(["d", "z"], .file [0x7B, 0x7D]), (["d", "abcd"], .directory), (["d"], .directory)]⟩

variable {bytes : List UInt8} {count : Nat}

theorem locate_wide (h : 5 * count + 2 ≤ pathLimit) :
    (wideWith bytes).locate (detour count ["d"]) = .ok ["d"] :=
  locate_of_detour_short rfl rfl count (List.cons_ne_nil _ _) (by decide) h

theorem look_wide (h : 5 * count + 2 ≤ pathLimit) :
    (wideWith bytes).look (detour count ["d"]) = .ok (some .directory) := by
  rw [look, find, locate_wide h]
  rfl

theorem look_wide_file (h : 5 * count + 4 ≤ pathLimit) :
    (wideWith bytes).look (detour count ["d", "z"]) = .ok (some (.file bytes)) := by
  have hlocate : (wideWith bytes).locate (detour count ["d", "z"]) = .ok ["d", "z"] :=
    locate_of_detour_short rfl rfl count (List.cons_ne_nil _ _) (by decide) h
  rw [look, find, hlocate]
  rfl

theorem look_wide_overlong (h : pathLimit < 5 * count + 7) :
    (wideWith bytes).look (detour count ["d", "abcd"]) =
      .error ⟨detour count ["d", "abcd"], .nameTooLong⟩ :=
  look_of_detour_overlong rfl rfl count (List.cons_ne_nil _ _) (by decide) h

theorem ascending_wide (count : Nat) :
    Path.Ascending [detour count ["d", "abcd"], detour count ["d", "z"]] := by
  have hchild : ∀ name, (detour count ["d"]).child name = detour count ["d", name] :=
    child_detour count ["d"]
  rw [← hchild, ← hchild]
  exact List.pairwise_pair.mpr (Path.child_before _ (by decide))

/-- The entries are listed as they came to be, and then sorted. -/
theorem sorted_wide {paths : List Path}
    (h : ∀ q, q ∈ paths ↔ q ∈ [detour count ["d", "abcd"], detour count ["d", "z"]]) :
    Path.sorted paths = [detour count ["d", "abcd"], detour count ["d", "z"]] := by
  have hroot : ∀ q ∈ paths, q.root = "" := by
    intro q hq
    simp only [h, List.mem_cons, List.not_mem_nil, or_false] at hq
    rcases hq with rfl | rfl <;> rfl
  exact Path.sorted_eq hroot (ascending_wide count) h

theorem children_wide (h : 5 * count + 2 ≤ pathLimit) :
    (wideWith bytes).children (detour count ["d"]) (fun _ => true) =
      .ok [detour count ["d", "abcd"], detour count ["d", "z"]] := by
  have hsorted : Path.sorted [(detour count ["d"]).child "z", (detour count ["d"]).child "abcd"] =
      [detour count ["d", "abcd"], detour count ["d", "z"]] := by
    apply sorted_wide
    intro q
    simp [Path.child, detour, or_comm]
  exact (children_eq (locate_wide h) fun _ => true).trans (congrArg Except.ok hsorted)

theorem load_wide (h : 5 * count + 4 ≤ pathLimit) :
    Layout.load wide (detour count ["d", "z"]) = .ok ⟨"z", [], []⟩ := by
  have hname : (detour count ["d", "z"]).name = "z" := by
    simp [Path.name, detour]
  have hstem : (detour count ["d", "z"]).stem = "z" := by
    rw [Path.stem, hname]
    rfl
  have hbytes : ∀ p : Path, Layout.ofBytes p [0x7B, 0x7D] = .ok ⟨p.stem, [], []⟩ := by
    intro p
    rfl
  have hlook : wide.look (detour count ["d", "z"]) = .ok (some (.file [0x7B, 0x7D])) :=
    look_wide_file h
  rw [LayoutStream.load_of_look hlook, hbytes, hstem]

end Tree

namespace LayoutStream

variable {bytes : List UInt8} {count : Nat}

theorem paths_wide (h : 5 * count + 2 ≤ Tree.pathLimit) :
    (LayoutStream.unopened (Tree.detour count ["d"]) "*").paths (Tree.wideWith bytes) =
      .ok [Tree.detour count ["d", "abcd"], Tree.detour count ["d", "z"]] := by
  have hselect := Glob.select_anyRun (@Tree.look_wide bytes count h) (Tree.children_wide h)
  rw [Tree.sorted_wide fun _ => Iff.rfl] at hselect
  rw [paths, Glob.ofString_star]
  simp only [mapError_ok, ok_bind, hselect]

theorem feed_wide (h : 5 * count + 2 ≤ Tree.pathLimit) (hlong : Tree.pathLimit < 5 * count + 7) :
    (LayoutStream.unopened (Tree.detour count ["d"]) "*").feed (Tree.wideWith bytes) =
      ⟨[], some (.look ⟨Tree.detour count ["d", "abcd"], .nameTooLong⟩)⟩ := by
  rw [feed_of_ok _ (paths_wide h)]
  simp only [feedOf, deliver, Tree.look_wide_overlong hlong]
  rfl

end LayoutStream

end LayoutQuery

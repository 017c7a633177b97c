import LayoutQuery.Proofs.Fields
import LayoutQuery.Proofs.Json.Display
import LayoutQuery.Proofs.Layout.Decoding
import LayoutQuery.Proofs.Layout.Iteration

/-! # Files that are found by default
With the pattern that is used where none is given, a stream reads the files directly in its
directory whose names end in `.json`, in the order of their names. -/
namespace LayoutQuery

variable {t : Tree} {d p : Path} {name : String} {names : List String} {paths listed : List Path}

namespace Tree

/-! ## Files in a directory -/

theorem walk_concat (t : Tree) (names parts : List String) (part : String) :
    t.walk names (parts ++ [part]) = t.walk names parts >>= fun place => t.walk place [part] := by
  induction parts generalizing names with
  | nil => rfl
  | cons first parts ih =>
    rw [List.cons_append, walk, walk]
    split
    next => rfl
    next => rfl
    next =>
      split
      next => rfl
      next => exact ih _

/-- A path in a directory leads directly below the place of the directory. -/
theorem locate_child {place : List String} (hd : t.locate d = .ok names) (hname : name ≠ "..")
    (hchild : t.locate (d.child name) = .ok place) : place = names ++ [name] := by
  rw [locate] at hd hchild
  split_ifs at hd hchild with hnull hlong hnull' hlong'
  have hwalk : t.walk (t.start d) (d.parts ++ [name]) = .ok place := hchild
  rw [walk_concat, hd, ok_bind, walk] at hwalk
  split at hwalk
  next => cases hwalk
  next => cases hwalk
  next =>
    split at hwalk
    next => cases hwalk
    next =>
      cases hwalk
      rw [stepTo, if_neg hname]

/-- A directory that is there can be listed, and each file in it that can be looked at is listed. -/
theorem exists_children (hd : t.look d = .ok (some .directory)) :
    ∃ listed, t.children d (fun _ => true) = .ok listed ∧
      ∀ name, name ≠ ".." → t.isFile (d.child name) = true → d.child name ∈ listed := by
  obtain ⟨names, hplace, -⟩ := exists_place_of_look hd
  refine ⟨_, children_eq hplace _, ?_⟩
  intro name hname hfile
  obtain ⟨bytes, hlook⟩ := isFile_iff.mp hfile
  obtain ⟨place, hchild, hentry⟩ := exists_place_of_look hlook
  obtain rfl := locate_child hplace hname hchild
  rw [entryAt, if_neg (by simp)] at hentry
  apply Path.mem_sorted_iff.mpr
  apply List.mem_filterMap.mpr
  exact ⟨_, mem_of_lookup hentry, by simp⟩

end Tree

/-! ## Names that end in `.json` -/

def EndsInJson (name : String) : Prop := ".json".toList <:+ name.toList

/-- A star in front of the ending. -/
def jsonPattern : List Wild := .anyRun :: ".json".toList.map .literal

theorem Glob.ofString_json : Glob.ofString "*.json" = .ok ⟨[.wild jsonPattern]⟩ := by
  have hwild : Wild.ofChars "*.json".toList = jsonPattern := by
    simp [Wild.ofChars, jsonPattern]
  rw [← hwild]
  rfl

theorem matchesAll_jsonPattern :
    Wild.matchesAll jsonPattern (d.child name).name.toList = true ↔ EndsInJson name := by
  rw [Path.name_child, Wild.matchesAll_iff, jsonPattern, Wild.matches_ending_iff, EndsInJson]

theorem EndsInJson.ne_parent (h : EndsInJson name) : name ≠ ".." := by
  rintro rfl
  exact absurd (List.IsSuffix.length_le h) (by decide)

/-- The stem is what stands in front of the ending, or all of the name. -/
theorem EndsInJson.stem_ne_empty (h : EndsInJson name) (d : Path) : (d.child name).stem ≠ "" := by
  obtain ⟨base, hbase⟩ := h
  have hstem : Path.stemOf name.toList = if base = [] then ".json".toList else base := by
    rw [← hbase]
    exact Path.stemOf_suffix (by decide) (by decide)
  rw [Path.stem, Path.name_child, hstem, Ne, String.ofList_eq_empty_iff]
  by_cases hempty : base = []
  · rw [if_pos hempty]
    decide
  · rw [if_neg hempty]
    exact hempty

namespace LayoutStream

/-- `names` are those of the files directly in the directory that end in `.json`, in ascending
order. -/
structure JsonFiles (t : Tree) (d : Path) (names : List String) : Prop where
  ascending : names.Pairwise (· < ·)
  exact : ∀ name, name ∈ names ↔ EndsInJson name ∧ t.isFile (d.child name) = true

/-- How far the files are read, and the failure that ends that: to the end, up to a file that is not
loaded, or up to an entry whose path is too long to be looked at. -/
inductive ReadUpTo (t : Tree) (d : Path) (names : List String) :
    List Path → Option StreamFault → Prop where
  | all : ReadUpTo t d names (names.map d.child) none
  | unloaded {name : String} {fault : LoadFault} : name ∈ names →
      Layout.load t (d.child name) = .error fault →
      ReadUpTo t d names ((names.filter (· < name) ++ [name]).map d.child) (some (.load fault))
  | overlong {name : String} : EndsInJson name →
      t.look (d.child name) = .error ⟨d.child name, .nameTooLong⟩ →
      ReadUpTo t d names ((names.filter (· < name)).map d.child)
        (some (.look ⟨d.child name, .nameTooLong⟩))

/-- What the stream lists stands directly in the directory and ends in `.json`, and each file that
does so is listed. -/
theorem exists_paths_json (hd : t.look d = .ok (some .directory)) :
    ∃ paths, (LayoutStream.unopened d "*.json").paths t = .ok paths ∧
      (∀ q ∈ paths, ∃ name, EndsInJson name ∧ q = d.child name) ∧
      ∀ name, EndsInJson name → t.isFile (d.child name) = true → d.child name ∈ paths := by
  obtain ⟨listed, hlisted, hfiles⟩ := Tree.exists_children hd
  have hpaths : (LayoutStream.unopened d "*.json").paths t = .ok (Path.sorted
      (listed.filter fun q => Wild.matchesAll jsonPattern q.name.toList)) := by
    rw [paths, Glob.ofString_json]
    simp only [mapError_ok, ok_bind, Glob.select_wild hd hlisted]
  refine ⟨_, hpaths, ?_, ?_⟩
  · intro q hq
    obtain ⟨hq, hmatch⟩ := List.mem_filter.mp (Path.mem_sorted_iff.mp hq)
    obtain ⟨name, rfl⟩ := Tree.exists_child_of_children hlisted hq
    exact ⟨name, matchesAll_jsonPattern.mp hmatch, rfl⟩
  · intro name hname hfile
    apply Path.mem_sorted_iff.mpr
    exact List.mem_filter.mpr ⟨hfiles name hname.ne_parent hfile, matchesAll_jsonPattern.mpr hname⟩

section Listed

variable (hlisted : ∀ q ∈ paths, ∃ name, EndsInJson name ∧ q = d.child name)

include hlisted

theorem map_child_names :
    ((paths.filter t.isFile).map Path.name).map d.child = paths.filter t.isFile := by
  rw [List.map_map]
  refine (List.map_congr_left ?_).trans (List.map_id _)
  intro q hq
  obtain ⟨name, -, rfl⟩ := hlisted q (List.mem_filter.mp hq).1
  rw [Function.comp_apply, Path.name_child, id]

theorem jsonFiles_of_paths (hascending : Path.Ascending paths)
    (hfiles : ∀ name, EndsInJson name → t.isFile (d.child name) = true → d.child name ∈ paths) :
    JsonFiles t d ((paths.filter t.isFile).map Path.name) where
  ascending := by
    have hfiltered : Path.Ascending (paths.filter t.isFile) :=
      hascending.sublist List.filter_sublist
    rw [← map_child_names hlisted, Path.Ascending, List.pairwise_map] at hfiltered
    exact hfiltered.imp Path.child_before_iff.mp
  exact := by
    intro name
    constructor
    · intro hname
      obtain ⟨q, hq, rfl⟩ := List.mem_map.mp hname
      obtain ⟨hq, hfile⟩ := List.mem_filter.mp hq
      obtain ⟨name, hends, rfl⟩ := hlisted q hq
      rw [Path.name_child]
      exact ⟨hends, hfile⟩
    · rintro ⟨hends, hfile⟩
      have hmem := List.mem_filter.mpr ⟨hfiles name hends hfile, hfile⟩
      exact List.mem_map.mpr ⟨d.child name, hmem, Path.name_child d name⟩

/-- The names in front of one of them, as paths. -/
theorem map_child_before {front rest : List Path} (hpaths : paths = front ++ d.child name :: rest)
    (hascending : Path.Ascending paths) :
    (((paths.filter t.isFile).map Path.name).filter (· < name)).map d.child =
      front.filter t.isFile := by
  have hbefore : (fun other => decide (other < name)) =
      (fun q : Path => decide (q.Before (d.child name))) ∘ d.child := by
    funext other
    exact decide_eq_decide.mpr Path.child_before_iff.symm
  rw [hbefore, ← List.filter_map, map_child_names hlisted, List.filter_comm]
  subst hpaths
  rw [hascending.filter_before]

theorem readUpTo_of_paths (hascending : Path.Ascending paths) :
    ReadUpTo t d ((paths.filter t.isFile).map Path.name) ((turns t paths).filter t.isFile)
      (feedOf t paths).failure := by
  have hiter := iteration_listed t paths
  generalize (turns t paths).filter t.isFile = read at hiter ⊢
  generalize feedOf t paths = f at hiter ⊢
  cases hiter with
  | whole =>
    have hall : ReadUpTo t d ((paths.filter t.isFile).map Path.name)
        (((paths.filter t.isFile).map Path.name).map d.child) none := .all
    rw [map_child_names hlisted] at hall
    exact hall
  | @stopped front rest p fault hpaths hserves hturn =>
    -- the path that fails has a name in the directory, and the paths in front of it smaller ones
    have hp : p ∈ paths := hpaths ▸ List.mem_append_right front List.mem_cons_self
    obtain ⟨name, hends, rfl⟩ := hlisted p hp
    have hfront := map_child_before (t := t) hlisted hpaths hascending
    rw [List.filter_append, ← hfront]
    cases hturn with
    | @malformed bytes fault hlook hbytes =>
      have hfile : t.isFile (d.child name) = true := Tree.isFile_iff.mpr ⟨bytes, hlook⟩
      have hname : name ∈ (paths.filter t.isFile).map Path.name :=
        List.mem_map.mpr ⟨_, List.mem_filter.mpr ⟨hp, hfile⟩, Path.name_child d name⟩
      have hread := ReadUpTo.unloaded hname ((load_of_look hlook).trans hbytes)
      rw [List.map_append] at hread
      rw [List.filter_singleton, hfile]
      exact hread
    | refused hlook =>
      have hnone : t.isFile (d.child name) = false := by
        rw [Tree.isFile, hlook]
      rw [List.filter_singleton, hnone]
      simpa using ReadUpTo.overlong hends hlook

end Listed

end LayoutStream

/-! ## What the layouts are called -/

/-- The file holds a value. -/
def Tree.Holds (t : Tree) (p : Path) (v : Json) : Prop :=
  ∃ bytes text, t.look p = .ok (some (.file bytes)) ∧ Text.decode bytes = .ok text ∧
    Json.parse (Text.unifyNewlines text) = .ok v

namespace Layout

variable {l : Layout} {v : Json} {defaultName : String}

theorem exists_decoded_of_load {bytes : List UInt8} (hlook : t.look p = .ok (some (.file bytes)))
    (hload : load t p = .ok l) : ∃ v, t.Holds p v ∧ Decoded p.stem v l := by
  rw [LayoutStream.load_of_look hlook] at hload
  obtain ⟨text, htext, hvalue⟩ := bind_eq_ok_iff.mp hload
  obtain ⟨v, hv, hdecoded⟩ := bind_eq_ok_iff.mp hvalue
  refine ⟨v, ⟨bytes, text, hlook, mapError_eq_ok_iff.mp htext, mapError_eq_ok_iff.mp hv⟩, ?_⟩
  exact ofJson_eq_ok_iff.mp (mapError_eq_ok_iff.mp hdecoded)

/-- A name that counts is no empty text, and neither is a default that is not. -/
theorem Decoded.name_ne_empty (h : Decoded defaultName v l) (hdefault : defaultName ≠ "") :
    l.name ≠ "" := by
  by_cases hvoid : ∀ name, v.get? "name" = some name → name.Void
  · rw [h.nameless hvoid]
    exact hdefault
  · obtain ⟨name, hname⟩ := not_forall.mp hvoid
    obtain ⟨hget, hcounts⟩ := Classical.not_imp.mp hname
    rw [h.name name hget hcounts]
    intro hempty
    rw [Json.display_eq_empty_iff.mp hempty] at hcounts
    exact hcounts .noText

end Layout

namespace LayoutStream

/-! ## Iterating over a directory -/

theorem paths_json_of_overlong {fault : PathFault} (hd : t.look d = .error fault) :
    (LayoutStream.unopened d "*.json").paths t = .error (.look ⟨d, .nameTooLong⟩) := by
  obtain rfl := Tree.look_fault hd
  rw [paths, Glob.ofString_json]
  simp only [mapError_ok, ok_bind, Glob.select, hd]
  rfl

theorem paths_json_of_no_directory {found : Option Entry} (hd : t.look d = .ok found)
    (hfound : found ≠ some .directory) : (LayoutStream.unopened d "*.json").paths t = .ok [] := by
  rw [paths, Glob.ofString_json]
  rcases found with _ | bytes | _
  · simp only [mapError_ok, ok_bind, Glob.select, hd]
  · simp only [mapError_ok, ok_bind, Glob.select, hd]
  · exact absurd rfl hfound

/-- In a directory the files are read whose names end in `.json`, in the order of their names, up to
the first that is not loaded; nothing else ends the iteration but an entry with such a name whose
path is too long. A directory that is not there has no files. Each layout that is delivered has a
name, and if its file gives none it is the file's stem. -/
theorem json_files_iteration (t : Tree) (d : Path) :
    let s : LayoutStream := .unopened d "*.json"
    (∀ fault, t.look d = .error fault →
      s.feed t = ⟨[], some (.look ⟨d, .nameTooLong⟩)⟩ ∧ s.reads t = []) ∧
    (∀ found, t.look d = .ok found → found ≠ some .directory →
      s.feed t = ⟨[], none⟩ ∧ s.reads t = []) ∧
    (t.look d = .ok (some .directory) →
      ∃ names, JsonFiles t d names ∧ ReadUpTo t d names (s.reads t) (s.feed t).failure ∧
        (s.feed t).layouts = (t.layouts (s.reads t)).map Prod.snd ∧
        ∀ p l, (p, l) ∈ t.layouts (s.reads t) → l.name ≠ "" ∧ ∃ v, t.Holds p v ∧
          ((∀ name, v.get? "name" = some name → name.Void) → l.name = p.stem)) := by
  intro s
  refine ⟨?_, ?_, ?_⟩
  · intro fault hd
    have hpaths := paths_json_of_overlong hd
    exact ⟨feed_of_error t hpaths, reads_of_error hpaths⟩
  · intro found hd hfound
    have hpaths := paths_json_of_no_directory hd hfound
    exact ⟨feed_of_ok t hpaths, reads_of_ok hpaths⟩
  · intro hd
    obtain ⟨paths, hpaths, hlisted, hfiles⟩ := exists_paths_json hd
    have hascending : Path.Ascending paths := ascending_paths hpaths
    have hiter := iteration_listed t paths
    rw [feed_of_ok t hpaths, reads_of_ok hpaths]
    refine ⟨_, jsonFiles_of_paths hlisted hascending hfiles, readUpTo_of_paths hlisted hascending,
      hiter.layouts, ?_⟩
    intro p l hl
    obtain ⟨hp, ⟨bytes, hlook⟩, hload⟩ := Tree.mem_layouts_iff.mp hl
    obtain ⟨name, hends, rfl⟩ := hlisted p (hiter.sublist.subset hp)
    obtain ⟨v, hv, hdecoded⟩ := Layout.exists_decoded_of_load hlook hload
    exact ⟨hdecoded.name_ne_empty (hends.stem_ne_empty d), v, hv, hdecoded.nameless⟩

/-- Directories and names that end otherwise are passed over. The file that gives no name and has
nothing in front of the ending is called after all of its own. -/
example :
    let t : Tree := ⟨[], [(["d"], .directory), (["d", ".json"], .file [0x7B, 0x7D]),
      (["d", "c.json"], .directory), (["d", "c.json", "d.json"], .file [0x7B, 0x7D]),
      (["d", "b.JSON"], .file [0x7B, 0x7D]), (["d", "a.b.json"], .file [0x7B, 0x7D])]⟩
    let s : LayoutStream := .unopened (.ofString "d") "*.json"
    (s.reads t).map Path.name = [".json", "a.b.json"] ∧
      (s.feed t).layouts.map Layout.name = [".json", "a.b"] := by
  with_unfolding_all exact ⟨rfl, rfl⟩

end LayoutStream

/-! ## Directories that fail -/

namespace Tree

/-- A name that is too long is no name of anything, and looking at it fails. -/
theorem length_le_utf8Len (cs : List Char) : cs.length ≤ String.utf8Len cs := by
  induction cs with
  | nil => exact Nat.le_refl 0
  | cons c cs ih =>
    have hsize := Char.utf8Size_pos c
    rw [List.length_cons, String.utf8Len_cons]
    omega

theorem look_long_name (hhome : t.entryAt t.home = some .directory) (hnull : '\x00' ∉ name.toList)
    (hlong : nameLimit < name.utf8ByteSize) :
    t.look ⟨"", [name]⟩ = .error ⟨⟨"", [name]⟩, .nameTooLong⟩ := by
  have hall : [name].any (·.toList.contains '\x00') = false := by
    simpa using hnull
  have hlocate : t.locate ⟨"", [name]⟩ = .error .nameTooLong := by
    rw [locate, hall, if_neg Bool.false_ne_true]
    by_cases hpath : pathLimit ≤ (Path.toString ⟨"", [name]⟩).utf8ByteSize
    · rw [if_pos hpath]
    · rw [if_neg hpath, start, if_pos rfl, walk, hhome]
      exact if_pos hlong
  rw [look, find, hlocate]
  rfl

/-- A directory that is called like a file. -/
def posing : Tree := ⟨[], [(["d", "x.json"], .directory), (["d"], .directory)]⟩

variable {count : Nat}

theorem locate_posing (h : 5 * count + 2 ≤ pathLimit) :
    posing.locate (detour count ["d"]) = .ok ["d"] :=
  locate_of_detour_short rfl rfl count (List.cons_ne_nil _ _) (by decide) h

theorem look_posing (h : 5 * count + 2 ≤ pathLimit) :
    posing.look (detour count ["d"]) = .ok (some .directory) := by
  rw [look, find, locate_posing h]
  rfl

theorem children_posing (h : 5 * count + 2 ≤ pathLimit) :
    posing.children (detour count ["d"]) (fun _ => true) =
      .ok [(detour count ["d"]).child "x.json"] := by
  rw [children, locate_posing h]
  rfl

theorem look_posing_overlong (h : pathLimit < 5 * count + 9) :
    posing.look ((detour count ["d"]).child "x.json") =
      .error ⟨(detour count ["d"]).child "x.json", .nameTooLong⟩ := by
  rw [child_detour]
  exact look_of_detour_overlong rfl rfl count (List.cons_ne_nil _ _) (by decide) h

end Tree

namespace LayoutStream

/-- Where nothing else is listed, a path that is too long ends the iteration at once. -/
theorem feed_of_overlong_child (hd : t.look d = .ok (some .directory))
    (hlisted : t.children d (fun _ => true) = .ok [d.child name]) (hends : EndsInJson name)
    (hoverlong : t.look (d.child name) = .error ⟨d.child name, .nameTooLong⟩) :
    (LayoutStream.unopened d "*.json").feed t =
      ⟨[], some (.look ⟨d.child name, .nameTooLong⟩)⟩ := by
  have hpaths : (LayoutStream.unopened d "*.json").paths t = .ok [d.child name] := by
    rw [paths, Glob.ofString_json]
    simp only [mapError_ok, ok_bind, Glob.select_wild hd hlisted]
    rw [List.filter_singleton, matchesAll_jsonPattern.mpr hends]
    rfl
  rw [feed_of_ok _ hpaths]
  simp only [feedOf, deliver, hoverlong]
  rfl

theorem feed_posing {count : Nat} (h : 5 * count + 2 ≤ Tree.pathLimit)
    (hlong : Tree.pathLimit < 5 * count + 9) :
    (LayoutStream.unopened (Tree.detour count ["d"]) "*.json").feed Tree.posing =
      ⟨[], some (.look ⟨(Tree.detour count ["d"]).child "x.json", .nameTooLong⟩)⟩ := by
  have hends : EndsInJson "x.json" := by
    rw [EndsInJson]
    decide
  exact feed_of_overlong_child (Tree.look_posing h) (Tree.children_posing h) hends
    (Tree.look_posing_overlong hlong)

/-- A directory whose name is too long for any directory is not there, and yet the iteration fails.
It fails as well in a directory with no file, where the path of the directory within it is too long
to be looked at. And where the first of two files is not loaded, the other is not read. -/
theorem json_files_fail :
    let s (d : Path) : LayoutStream := .unopened d "*.json"
    let long : Path := ⟨"", [String.ofList (List.replicate 256 'd')]⟩
    let d := Tree.detour 818 ["d"]
    let blocked : Tree := ⟨[], [(["d"], .directory), (["d", "b.json"], .file [0x7B, 0x7D]),
      (["d", "a.json"], .file [0x5B])]⟩
    ((Tree.bare []).entries = [] ∧
      (s long).feed (Tree.bare []) = ⟨[], some (.look ⟨long, .nameTooLong⟩)⟩) ∧
    (Tree.posing.look d = .ok (some .directory) ∧
      (∀ entry ∈ Tree.posing.entries, entry.2 = .directory) ∧
      (s d).feed Tree.posing = ⟨[], some (.look ⟨d.child "x.json", .nameTooLong⟩)⟩) ∧
    blocked.isFile (.ofString "d/b.json") = true ∧
      (s (.ofString "d")).reads blocked = [.ofString "d/a.json"] := by
  intro s long d blocked
  have hnull : '\x00' ∉ (String.ofList (List.replicate 256 'd')).toList := by
    rw [String.toList_ofList, List.mem_replicate]
    decide
  have hsize : Tree.nameLimit < (String.ofList (List.replicate 256 'd')).utf8ByteSize := by
    have hlength := Tree.length_le_utf8Len (List.replicate 256 'd')
    rw [List.length_replicate] at hlength
    rwa [String.utf8ByteSize_ofList]
  have hlong : (Tree.bare []).look long = .error ⟨long, .nameTooLong⟩ :=
    Tree.look_long_name rfl hnull hsize
  refine ⟨⟨rfl, feed_of_error _ (paths_json_of_overlong hlong)⟩,
    ⟨Tree.look_posing (by decide), ?_, feed_posing (by decide) (by decide)⟩, ?_, ?_⟩
  · decide
  · with_unfolding_all rfl
  · with_unfolding_all rfl

end LayoutStream

end LayoutQuery

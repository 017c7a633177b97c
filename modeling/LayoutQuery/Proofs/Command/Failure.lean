import LayoutQuery.Proofs.Command.Agreement
import LayoutQuery.Proofs.Layout.Iteration
import LayoutQuery.Proofs.Search.Failure

/-! # Searches that a file breaks
A search that comes to a file that is no layout prints the error of that file and nothing else. What
was found before is lost, and what comes behind is not looked at. -/
namespace LayoutQuery

variable {t : Tree} {p q : Path} {front rest paths : List Path} {fault : LoadFault}

/-! ## Up to the first bad file -/

namespace LayoutStream

theorem deliver_of_fault {bytes : List UInt8} (hlook : t.look p = .ok (some (.file bytes)))
    (hload : Layout.load t p = .error fault) : deliver t p = .error (.load fault) := by
  rw [deliver, hlook, hload]
  rfl

/-- Paths that serve put their layouts in front of what comes behind. -/
theorem feedOf_append (h : ∀ q ∈ front, t.Serves q) (rest : List Path) :
    feedOf t (front ++ rest) = (feedOf t rest).prepend ((t.layouts front).map Prod.snd) := by
  induction front with
  | nil => rfl
  | cons q front ih =>
    obtain ⟨hq, hfront⟩ := List.forall_mem_cons.mp h
    rw [List.cons_append, feedOf_cons hq, ih hfront, t.layouts_cons q front]
    simp [Feed.prepend]

theorem look_of_mem_paths {directory : Path} {pattern : String}
    (h : (LayoutStream.unopened directory pattern).paths t = .ok paths) (hp : p ∈ paths) :
    t.look directory = .ok (some .directory) := by
  obtain ⟨glob, -, hselect⟩ := bind_eq_ok_iff.mp h
  obtain ⟨found, hlook, hfound⟩ := bind_eq_ok_iff.mp (mapError_eq_ok_iff.mp hselect)
  split at hfound
  next => exact hlook
  next =>
    cases hfound
    cases hp

/-- Among the listed paths, `p` leads to a file that is no layout, and each one before it to no file
or to one that can be loaded. -/
structure FirstBad (t : Tree) (paths : List Path) (p : Path) (fault : LoadFault) : Prop where
  listed : p ∈ paths
  isFile : ∃ bytes, t.look p = .ok (some (.file bytes))
  fails : Layout.load t p = .error fault
  isFormat : fault.isFormat = true
  before : ∀ q ∈ paths, q.Before p → t.Serves q

/-- The feed ends with the error of the first bad file, behind the layouts of the files before it. -/
theorem FirstBad.feedOf (h : FirstBad t paths p fault) (hascending : Path.Ascending paths) :
    feedOf t paths =
      ⟨(t.layouts (paths.filter (·.Before p))).map Prod.snd, some (.load fault)⟩ := by
  obtain ⟨front, rest, rfl⟩ := List.append_of_mem h.listed
  rw [hascending.filter_before]
  obtain ⟨bytes, hlook⟩ := h.isFile
  have hserves : ∀ q ∈ front, t.Serves q := by
    intro q hq
    have hbefore := (List.pairwise_append.mp hascending).2.2 q hq p List.mem_cons_self
    exact h.before q (List.mem_append_left _ hq) hbefore
  rw [feedOf_append hserves, LayoutStream.feedOf, deliver_of_fault hlook h.fails]
  simp [Feed.prepend]

end LayoutStream

theorem LoadFault.isForeseen_of_isFormat (h : fault.isFormat = true) : fault.isForeseen = true := by
  cases fault with
  | tooManyDigits => cases h
  | file => cases h
  | _ => rfl

namespace Command

open LayoutStream (FirstBad)

variable {s : Settings} {words texts : List String} {cs : List Condition} {directory : Path}
  {pattern : String} {limit : Option Nat}

/-! ## The command -/

theorem search_of_bad {ls : List Layout} (hdirectory : t.look directory = .ok (some .directory))
    (hfeed : (LayoutStream.unopened directory pattern).feed t = ⟨ls, some (.load fault)⟩)
    (hforeseen : fault.isForeseen = true) {search : Search}
    (hs : search.criteria = cs.map .condition) (hlimit : ∀ n ∈ limit, (matching cs ls).length < n) :
    (searchLayouts t directory pattern limit search).printed = [.failed fault.message] ∧
      (searchLayouts t directory pattern limit search).result = .exit 2 := by
  have hunreached : ∀ n ∈ limit.map Int.ofNat, ((matching cs ls).length : Int) < n := by
    intro n hn
    obtain ⟨m, hm, rfl⟩ := Option.map_eq_some_iff.mp hn
    exact Int.ofNat_lt.mpr (hlimit m hm)
  have hrun := Search.run_to_failure hs (Search.open_of_unreached hunreached)
    (StreamFault.load fault)
  rw [searchLayouts, hdirectory]
  simp only [hfeed, hrun, endSearch, if_pos hforeseen]
  exact ⟨trivial, trivial⟩

/-- The first selected file that is no layout ends a search, if the limit is not reached before it.
Its error is all that is printed, however many files matched and whatever else is selected. -/
theorem search_fails_at_first_bad_file (s : Settings) (texts : List String) (cs : List Condition)
    (hne : cs ≠ []) (hread : texts.map Condition.parse = cs.map .ok) (words : List String)
    (directory pattern : Option String) (limit : Option Nat)
    (hwords : Asks s words (.search texts directory pattern limit)) (t : Tree) (paths : List Path)
    (hlisted : (LayoutStream.unopened (Path.ofString (directory.getD s.layoutsDir))
      ((given pattern).getD s.layoutGlob)).paths t = .ok paths)
    (p : Path) (fault : LoadFault) (hbad : FirstBad t paths p fault)
    (hlimit : ∀ n ∈ limit <|> s.searchLimit,
      ((t.layouts (paths.filter (·.Before p))).filter fun f => AllHold cs f.2).length < n) :
    (run t s words).printed.map Printed.toJson = [.object [("error", .string fault.message)]] ∧
      (run t s words).result = .exit 2 := by
  obtain ⟨search, log, hcriteria, hwork⟩ := withConditions_of_parses hne hread
    (searchLayouts t (Path.ofString (directory.getD s.layoutsDir))
      ((given pattern).getD s.layoutGlob) (limit <|> s.searchLimit))
  have hfeed := LayoutStream.feed_of_ok t hlisted
  rw [hbad.feedOf (LayoutStream.ascending_paths hlisted)] at hfeed
  have hfewer : ∀ n ∈ limit <|> s.searchLimit,
      (matching cs ((t.layouts (paths.filter (·.Before p))).map Prod.snd)).length < n := by
    intro n hn
    rw [matching, List.filter_map, List.length_map]
    exact hlimit n hn
  obtain ⟨hprinted, hresult⟩ := search_of_bad
    (LayoutStream.look_of_mem_paths hlisted hbad.listed) hfeed
    (LoadFault.isForeseen_of_isFormat hbad.isFormat) hcriteria hfewer
  rw [(run_of_asks hwords t).1, (run_of_asks hwords t).2, perform, runSearch, hwork, Work.after,
    hprinted, hresult]
  exact ⟨rfl, rfl⟩

/-- An empty object, an empty array, and a byte that is no text. -/
def quay : Tree := ⟨[], [(["layouts"], .directory), (["layouts", "c.json"], .file [0xFF]),
  (["layouts", "b.json"], .file [0x5B, 0x5D]), (["layouts", "a.json"], .file [0x7B, 0x7D])]⟩

def quayPaths : List Path :=
  [harbourPath "a.json", harbourPath "b.json", harbourPath "c.json"]

theorem load_quay : Layout.load quay (harbourPath "a.json") = .ok ⟨"a", [], []⟩ := by
  rfl

theorem firstBad_quay :
    FirstBad quay quayPaths (harbourPath "b.json") (.payload (.notObject "list")) where
  listed := by decide
  isFile := ⟨_, rfl⟩
  fails := by rfl
  isFormat := rfl
  before q hq hbefore := by
    simp only [quayPaths, List.mem_cons, List.not_mem_nil, or_false] at hq
    rcases hq with rfl | rfl | rfl
    · exact .inr ⟨_, _, rfl, load_quay⟩
    · exact absurd hbefore (by decide)
    · exact absurd hbefore (by decide)

theorem layouts_quay :
    quay.layouts (quayPaths.filter (·.Before (harbourPath "b.json"))) =
      [(harbourPath "a.json", ⟨"a", [], []⟩)] := by
  have hfront : quayPaths.filter (·.Before (harbourPath "b.json")) = [harbourPath "a.json"] := by
    decide
  have ha : quay.layoutAt (harbourPath "a.json") = some (harbourPath "a.json", ⟨"a", [], []⟩) :=
    Tree.layoutAt_eq_some_iff.mpr ⟨rfl, ⟨_, rfl⟩, load_quay⟩
  rw [hfront, Tree.layouts, List.filterMap_cons_some ha, List.filterMap_nil]

/-- The file in front matches, and the one behind cannot be decoded. -/
theorem search_fails_at_first_bad_file_second :
    let words := ["search", "count ship = 0", "--limit", "2"]
    (run quay {} words).printed.map Printed.toJson =
        [.object [("error", .string "Layout payload must be a JSON object, got list")]] ∧
      (run quay {} words).result = .exit 2 := by
  intro words
  have hasks : Asks {} words (.search ["count ship = 0"] none none (some 2)) :=
    ⟨none, .search, _, .warning, rfl, rfl, rfl⟩
  have hlisted : (LayoutStream.unopened (Path.ofString "layouts") "*.json").paths quay =
      .ok quayPaths := by
    with_unfolding_all rfl
  have hread : ["count ship = 0"].map Condition.parse = [⟨.entity "ship", .equal, 0⟩].map .ok := by
    rfl
  refine search_fails_at_first_bad_file {} _ _ (by decide) hread words none none (some 2) hasks quay
    quayPaths hlisted _ _ firstBad_quay ?_
  intro n hn
  cases hn
  rw [layouts_quay]
  decide

theorem nameTooLong_message_ne (p : Path) (kind : String) :
    FileFault.nameTooLong.message p ≠ LoadFault.message (.payload (.notObject kind)) := by
  intro h
  have hchars : "[Errno 36] File name too long: ".toList ++ (Text.quoted p.toString).toList =
      "Layout payload must be a JSON object, got ".toList ++ kind.toList := by
    rw [← String.toList_append, ← String.toList_append]
    exact congrArg String.toList h
  have hfirst := congrArg List.head? hchars
  rw [List.head?_append_of_ne_nil _ (by decide), List.head?_append_of_ne_nil _ (by decide)] at hfirst
  exact absurd hfirst (by decide)

/-- The only file is an array and not an object, and no file is selected that comes before it. But
the path of a directory does, is too long to be looked at, and is what the error is about. -/
theorem search_fails_before_first_bad_file :
    let words := ["search", "count a > 0", "--layouts-dir", (Tree.detour 818 ["d"]).toString,
      "--pattern", "*"]
    let t := Tree.wideWith [0x5B, 0x5D]
    let directory := Tree.detour 818 ["d", "abcd"]
    let p := Tree.detour 818 ["d", "z"]
    let fault : LoadFault := .payload (.notObject "list")
    (LayoutStream.unopened (Tree.detour 818 ["d"]) "*").paths t = .ok [directory, p] ∧
      t.walk [] directory.parts = .ok ["d", "abcd"] ∧ t.entryAt ["d", "abcd"] = some .directory ∧
      t.look p = .ok (some (.file [0x5B, 0x5D])) ∧ Layout.load t p = .error fault ∧
      fault.isFormat = true ∧ ({} : Settings).searchLimit = none ∧
      (run t {} words).printed = [.failed (FileFault.nameTooLong.message directory)] ∧
      FileFault.nameTooLong.message directory ≠ fault.message := by
  intro words t directory p fault
  have hlook : t.look p = .ok (some (.file [0x5B, 0x5D])) := Tree.look_wide_file (by decide)
  have hload : Layout.load t p = .error fault := by
    rw [LayoutStream.load_of_look hlook]
    rfl
  have hfeed : (LayoutStream.unopened (Tree.detour 818 ["d"]) "*").feed t =
      ⟨[], some (.look ⟨directory, .nameTooLong⟩)⟩ :=
    LayoutStream.feed_wide (by decide) (by decide)
  have hrun := run_of_unlooked (Tree.look_wide (by decide)) (by decide) hfeed
  exact ⟨LayoutStream.paths_wide (by decide), Tree.walk_of_detour rfl 818 ["d", "abcd"], rfl, hlook,
    hload, rfl, rfl, hrun.1, nameTooLong_message_ne directory "list"⟩

end Command

end LayoutQuery

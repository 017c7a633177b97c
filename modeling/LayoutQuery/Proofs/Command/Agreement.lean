import LayoutQuery.Command.Run
import LayoutQuery.Proofs.Layout.Feed
import LayoutQuery.Proofs.Layout.Session
import LayoutQuery.Proofs.Search.Hits
import LayoutQuery.Proofs.Settings.Limit

/-! # Searching and checking
A search prints the names of the layouts of which a check of the same conditions succeeds, in the
order of their paths and as many as the limit lets through. How it ends does not depend on the
limit. -/
namespace LayoutQuery.Command

variable {s : Settings} {words texts : List String} {request : Request} {cs : List Condition}
  {t : Tree}

/-! ## What words ask for -/

/-- The words ask for something, and their log level is known. -/
def Asks (s : Settings) (words : List String) (request : Request) : Prop :=
  ∃ asked name rest level, Invocation.ofWords words = .ok (.command asked name rest) ∧
    chooseLevel s asked = .ok level ∧ CommandName.readWords name rest = .ok request

theorem run_of_asks (h : Asks s words request) (t : Tree) :
    (run t s words).printed = (perform t s request).printed ∧
      (run t s words).result = (perform t s request).result := by
  obtain ⟨asked, name, rest, level, hwords, hlevel, hrequest⟩ := h
  simp only [run, hwords, hlevel, hrequest]
  exact ⟨trivial, trivial⟩

theorem request_search {c : CommandName} {w : Words} {directory pattern : Option String}
    {limit : Option Nat} (h : c.request w = .ok (.search texts directory pattern limit)) :
    limit = CommandName.limit? w := by
  unfold CommandName.request at h
  split at h
  next => cases h
  next =>
    split at h
    next => cases h
    next =>
      -- one case for each command and number of arguments; the last two are a check and a search
      split at h
      next => cases h
      next => cases h
      next => cases h
      next => cases h
      next => cases h
      next => cases h
      next =>
        split at h
        next => cases h
        next => cases h
      next =>
        cases h
        rfl

/-- A limit that is asked for is positive. -/
theorem Asks.one_le {directory pattern : Option String} {n : Nat}
    (h : Asks s words (.search texts directory pattern (some n))) : 1 ≤ n := by
  obtain ⟨asked, name, rest, level, -, -, hrequest⟩ := h
  obtain ⟨w, -, hw⟩ := bind_eq_ok_iff.mp hrequest
  have hlimit := request_search hw
  rw [CommandName.limit?] at hlimit
  obtain ⟨value, -, hvalue⟩ := Option.bind_eq_some_iff.mp hlimit.symm
  cases hread : Limit.ofString value with
  | error fault =>
    rw [hread] at hvalue
    cases hvalue
  | ok m =>
    rw [hread] at hvalue
    cases hvalue
    exact Limit.one_le_of_ofString hread

theorem objection_path {value : String} (h : '\x00' ∉ value.toList) :
    OptionKind.path.objection? value = none := by
  have hcontains : value.toList.contains '\x00' = false := by
    simpa using h
  rw [OptionKind.objection?, hcontains]
  rfl

/-- Two hyphens keep the conditions apart from the options. -/
theorem asks_check {level : LogLevel} (hlevel : chooseLevel s none = .ok level) (hne : texts ≠ [])
    {layout : String} (hlayout : '\x00' ∉ layout.toList) :
    Asks s (["check", "--layout", layout, "--"] ++ texts) (.check texts layout) := by
  refine ⟨none, .check, ["--layout", layout, "--"] ++ texts, level, ?_, hlevel, ?_⟩
  · rfl
  · have hwords : sortWords CommandName.check.options true (["--layout", layout, "--"] ++ texts) =
        .ok ⟨[("--layout", layout)], texts⟩ := by
      rfl
    have hform : CommandName.check.options.find? (·.name == "--layout") =
        some ⟨"--layout", .path⟩ := by
      rfl
    have hgood :
        Words.badValue? CommandName.check.options ⟨[("--layout", layout)], texts⟩ = none := by
      rw [Words.badValue?]
      apply List.findSome?_eq_none_iff.mpr
      intro o ho
      rw [List.mem_singleton.mp ho, hform]
      simp only [Option.bind_eq_bind, Option.bind_some, objection_path hlayout, Option.bind_none]
    obtain ⟨text, rest, rfl⟩ := List.exists_cons_of_ne_nil hne
    rw [CommandName.readWords, hwords]
    simp only [mapError_ok, ok_bind, CommandName.request, hgood]
    rfl

/-! ## Conditions that can be read -/

theorem parseAll_of_parses (h : texts.map Condition.parse = cs.map .ok) :
    ∃ log, parseAll texts = (log, .ok cs) := by
  induction texts generalizing cs with
  | nil =>
    rw [List.map_nil, eq_comm, List.map_eq_nil_iff] at h
    rw [h]
    exact ⟨[], rfl⟩
  | cons text texts ih =>
    cases cs with
    | nil => cases h
    | cons c cs =>
      rw [List.map_cons, List.map_cons, List.cons.injEq] at h
      obtain ⟨log, hrest⟩ := ih h.2
      refine ⟨.conditionParsed :: log, ?_⟩
      rw [parseAll, h.1, hrest]
      rfl

theorem withConditions_of_parses (hne : cs ≠ []) (h : texts.map Condition.parse = cs.map .ok)
    (go : Search → Work) : ∃ search log, search.criteria = cs.map .condition ∧
      withConditions texts go = (go search).after log := by
  obtain ⟨log, hlog⟩ := parseAll_of_parses h
  obtain ⟨search, hsearch, hcriteria⟩ := ofList?_conditions hne
  refine ⟨search, log, hcriteria, ?_⟩
  rw [withConditions, hlog]
  simp only [hsearch]

/-! ## Checks and searches -/

theorem check_of_load {path : Path} {l : Layout} (hload : Layout.load t path = .ok l)
    {search : Search} (hs : search.criteria = cs.map .condition) :
    (checkLayout t path search).result = .exit (if AllHold cs l then 0 else 1) := by
  rw [checkLayout, hload]
  simp only [evaluate_conditions hs, matched_verdict_iff]

/-- The directory can be searched: the pattern selects `paths`, and each of them leads to no file or
to one that can be loaded. -/
structure Searchable (t : Tree) (directory : Path) (pattern : String) (paths : List Path) :
    Prop where
  isDirectory : t.look directory = .ok (some .directory)
  listed : (LayoutStream.unopened directory pattern).paths t = .ok paths
  served : ∀ p ∈ paths, t.Serves p

theorem search_of_searchable {directory : Path} {pattern : String} {paths : List Path}
    (h : Searchable t directory pattern paths) {search : Search}
    (hs : search.criteria = cs.map .condition) (limit : Option Nat)
    (hlimit : ∀ n ∈ limit, 1 ≤ n) :
    let found := (t.layouts paths).filter fun f => AllHold cs f.2
    (searchLayouts t directory pattern limit search).printed =
        [.found ((Search.capped (limit.map Int.ofNat) found).map fun f => f.2.name)] ∧
      (searchLayouts t directory pattern limit search).result =
        .exit (if found.isEmpty then 1 else 0) := by
  intro found
  have hfeed : (LayoutStream.unopened directory pattern).feed t =
      Feed.ofList ((t.layouts paths).map Prod.snd) := by
    rw [LayoutStream.feed_of_ok t h.listed, LayoutStream.feedOf_layouts h.served]
  have hmatching : matching cs ((t.layouts paths).map Prod.snd) = found.map Prod.snd := by
    rw [matching, List.filter_map]
    rfl
  have hending := Search.ending_ofList (ε := StreamFault) hs (limit.map Int.ofNat)
    ((t.layouts paths).map Prod.snd)
  rw [← hfeed, hmatching, Search.capped_map, List.map_map] at hending
  have hpositive : ∀ n ∈ limit.map Int.ofNat, 1 ≤ n := by
    intro n hn
    obtain ⟨m, hm, rfl⟩ := Option.map_eq_some_iff.mp hn
    exact Int.ofNat_le.mpr (hlimit m hm)
  have hempty : ((Search.capped (limit.map Int.ofNat) found).map (verdict cs ∘ Prod.snd)).isEmpty =
      found.isEmpty := by
    rw [Bool.eq_iff_iff, List.isEmpty_iff, List.isEmpty_iff, List.map_eq_nil_iff]
    exact Search.capped_eq_nil_iff hpositive
  rw [searchLayouts, h.isDirectory]
  simp only [hending, endSearch, hempty, List.map_map]
  exact ⟨rfl, trivial⟩

/-- A search and the checks of its files agree, whatever the limit is. -/
theorem search_agrees_with_check (environment : Fields String) (file : Option (List UInt8))
    (s : Settings) (hs : Settings.load environment file = .ok s) (texts : List String)
    (cs : List Condition) (hne : cs ≠ []) (hread : texts.map Condition.parse = cs.map .ok)
    (words : List String) (directory pattern : Option String) (limit : Option Nat)
    (hwords : Asks s words (.search texts directory pattern limit)) (t : Tree) (paths : List Path)
    (hsearch : Searchable t (Path.ofString (directory.getD s.layoutsDir))
      ((given pattern).getD s.layoutGlob) paths) :
    let files := t.layouts paths
    let found := files.filter fun f => AllHold cs f.2
    let most := (limit <|> s.searchLimit).map Int.ofNat
    let names := (Search.capped most found).map fun f => f.2.name
    Path.Ascending (files.map Prod.fst) ∧
      (∀ p l, (p, l) ∈ files ↔
        p ∈ paths ∧ (∃ bytes, t.look p = .ok (some (.file bytes))) ∧ Layout.load t p = .ok l) ∧
      (run t s words).printed.map Printed.toJson = [.object
        [("matches", .array (names.map .string)), ("count", .integer names.length)]] ∧
      (run t s words).result = .exit (if found.isEmpty then 1 else 0) ∧
      ∀ f ∈ files, ∀ words layout, Asks s words (.check texts layout) → Path.ofString layout = f.1 →
        (run t s words).result = .exit (if AllHold cs f.2 then 0 else 1) := by
  intro files found most names
  have hlimit : ∀ n ∈ limit <|> s.searchLimit, 1 ≤ n := by
    intro n hn
    cases limit with
    | none => exact Settings.one_le_of_load hs hn
    | some m =>
      cases hn
      exact hwords.one_le
  have hascending : Path.Ascending paths := LayoutStream.ascending_paths hsearch.listed
  refine ⟨?_, fun p l => Tree.mem_layouts_iff, ?_, ?_, ?_⟩
  · exact List.Pairwise.sublist (t.layouts_sublist paths) hascending
  · obtain ⟨search, log, hcriteria, hwork⟩ := withConditions_of_parses hne hread
      (searchLayouts t (Path.ofString (directory.getD s.layoutsDir))
        ((given pattern).getD s.layoutGlob) (limit <|> s.searchLimit))
    rw [(run_of_asks hwords t).1, perform, runSearch, hwork, Work.after]
    rw [(search_of_searchable hsearch hcriteria _ hlimit).1]
    rfl
  · obtain ⟨search, log, hcriteria, hwork⟩ := withConditions_of_parses hne hread
      (searchLayouts t (Path.ofString (directory.getD s.layoutsDir))
        ((given pattern).getD s.layoutGlob) (limit <|> s.searchLimit))
    rw [(run_of_asks hwords t).2, perform, runSearch, hwork, Work.after]
    exact (search_of_searchable hsearch hcriteria _ hlimit).2
  · rintro ⟨p, l⟩ hf words' layout hcheck rfl
    obtain ⟨-, -, hload⟩ := Tree.mem_layouts_iff.mp hf
    obtain ⟨search, log, hcriteria, hwork⟩ := withConditions_of_parses hne hread
      (checkLayout t (Path.ofString layout))
    rw [(run_of_asks hcheck t).2, perform, runCheck, hwork, Work.after]
    exact check_of_load hload hcriteria

/-- Two files and a directory with names that the usual pattern selects. -/
def harbour : Tree := ⟨[], [(["layouts"], .directory), (["layouts", "c.json"], .directory),
  (["layouts", "b.json"], .file "\x7b\x7d".toUTF8.data.toList),
  (["layouts", "a.json"],
    .file "\x7b\"spawn_objects\":[\x7b\"name\":\"Ship\"\x7d]\x7d".toUTF8.data.toList)]⟩

def harbourPath (name : String) : Path := ⟨"", ["layouts", name]⟩

theorem load_harbour_ship :
    Layout.load harbour (harbourPath "a.json") = .ok ⟨"a", [⟨"Ship", .null⟩], []⟩ := by
  with_unfolding_all rfl

theorem load_harbour_empty :
    Layout.load harbour (harbourPath "b.json") = .ok ⟨"b", [], []⟩ := by
  rfl

theorem searchable_harbour : Searchable harbour (Path.ofString "layouts") "*.json"
    [harbourPath "a.json", harbourPath "b.json", harbourPath "c.json"] where
  isDirectory := rfl
  listed := by
    with_unfolding_all rfl
  served p hp := by
    simp only [List.mem_cons, List.not_mem_nil, or_false] at hp
    rcases hp with rfl | rfl | rfl
    · exact .inr ⟨_, _, rfl, load_harbour_ship⟩
    · exact .inr ⟨_, _, rfl, load_harbour_empty⟩
    · exact .inl (.inr rfl)

theorem layouts_harbour :
    harbour.layouts [harbourPath "a.json", harbourPath "b.json", harbourPath "c.json"] =
      [(harbourPath "a.json", ⟨"a", [⟨"Ship", .null⟩], []⟩),
        (harbourPath "b.json", ⟨"b", [], []⟩)] := by
  have ha : harbour.layoutAt (harbourPath "a.json") =
      some (harbourPath "a.json", ⟨"a", [⟨"Ship", .null⟩], []⟩) :=
    Tree.layoutAt_eq_some_iff.mpr ⟨rfl, ⟨_, rfl⟩, load_harbour_ship⟩
  have hb : harbour.layoutAt (harbourPath "b.json") =
      some (harbourPath "b.json", ⟨"b", [], []⟩) :=
    Tree.layoutAt_eq_some_iff.mpr ⟨rfl, ⟨_, rfl⟩, load_harbour_empty⟩
  have hc : harbour.layoutAt (harbourPath "c.json") = none :=
    Tree.layoutAt_of_noFile (.inr rfl)
  simp only [Tree.layouts, List.filterMap_cons, ha, hb, hc, List.filterMap_nil]

/-- The first file does not match, and the limit lets one through. -/
theorem search_agrees_with_check_limited :
    (run harbour {} ["search", "count ship = 0", "--limit", "1"]).printed.map Printed.toJson =
        [.object [("matches", .array [.string "b"]), ("count", .integer 1)]] ∧
      (run harbour {} ["search", "count ship = 0", "--limit", "1"]).result = .exit 0 ∧
      (run harbour {} ["check", "--layout", "layouts/a.json", "--", "count ship = 0"]).result =
        .exit 1 := by
  obtain ⟨-, -, hprinted, hresult, hcheck⟩ :=
    search_agrees_with_check [] none {} rfl ["count ship = 0"] [⟨.entity "ship", .equal, 0⟩]
      (by decide) rfl ["search", "count ship = 0", "--limit", "1"] none none (some 1)
      ⟨none, .search, _, .warning, rfl, rfl, rfl⟩ harbour _ searchable_harbour
  rw [layouts_harbour] at hprinted hresult hcheck
  have hlevel : chooseLevel {} none = .ok .warning := by rfl
  have hasked := asks_check hlevel (List.cons_ne_nil "count ship = 0" [])
    (by decide : '\x00' ∉ "layouts/a.json".toList)
  exact ⟨hprinted, hresult, hcheck _ List.mem_cons_self _ _ hasked rfl⟩

/-! ## Paths that cannot be looked at -/

theorem asks_search {level : LogLevel} (hlevel : chooseLevel s none = .ok level)
    {directory : String} (hdirectory : '\x00' ∉ directory.toList) (pattern : String) :
    Asks s ["search", "count a > 0", "--layouts-dir", directory, "--pattern", pattern]
      (.search ["count a > 0"] (some directory) (some pattern) none) := by
  have hwords : sortWords CommandName.search.options true
      ["count a > 0", "--layouts-dir", directory, "--pattern", pattern] =
        .ok ⟨[("--layouts-dir", directory), ("--pattern", pattern)], ["count a > 0"]⟩ := by
    rfl
  have hdir : CommandName.search.options.find? (·.name == "--layouts-dir") =
      some ⟨"--layouts-dir", .path⟩ := by
    rfl
  have hglob : CommandName.search.options.find? (·.name == "--pattern") =
      some ⟨"--pattern", .text⟩ := by
    rfl
  have hgood : Words.badValue? CommandName.search.options
      ⟨[("--layouts-dir", directory), ("--pattern", pattern)], ["count a > 0"]⟩ = none := by
    rw [Words.badValue?]
    apply List.findSome?_eq_none_iff.mpr
    intro o ho
    rcases List.mem_pair.mp ho with rfl | rfl
    · rw [hdir]
      simp only [Option.bind_eq_bind, Option.bind_some, objection_path hdirectory, Option.bind_none]
    · rw [hglob]
      rfl
  refine ⟨none, .search, _, level, rfl, hlevel, ?_⟩
  rw [CommandName.readWords, hwords]
  simp only [mapError_ok, ok_bind, CommandName.request, hgood]
  rfl

/-- A search that meets such a path prints what is wrong with it. -/
theorem search_of_unlooked {directory p : Path} {pattern : String}
    (hdirectory : t.look directory = .ok (some .directory))
    (hfeed : (LayoutStream.unopened directory pattern).feed t = ⟨[], some (.look ⟨p, .nameTooLong⟩)⟩)
    (limit : Option Nat) (search : Search) :
    (searchLayouts t directory pattern limit search).printed =
        [.failed (FileFault.nameTooLong.message p)] ∧
      (searchLayouts t directory pattern limit search).result = .exit 2 := by
  rw [searchLayouts, hdirectory]
  simp only [hfeed]
  exact ⟨rfl, rfl⟩

theorem parts_detour {count : Nat} {parts : List String} {part : String}
    (h : part ∈ (Tree.detour count parts).parts) : part = "d" ∨ part = ".." ∨ part ∈ parts := by
  rcases List.mem_append.mp h with hturn | hpart
  · obtain ⟨turn, hturn, hpart⟩ := List.mem_flatten.mp hturn
    rw [List.eq_of_mem_replicate hturn] at hpart
    rcases List.mem_pair.mp hpart with rfl | rfl
    · exact .inl rfl
    · exact .inr (.inl rfl)
  · exact .inr (.inr hpart)

theorem ofString_detour (count : Nat) :
    Path.ofString (Tree.detour count ["d"]).toString = Tree.detour count ["d"] := by
  apply Path.ofString_toString
  · intro part hpart
    rcases parts_detour hpart with rfl | rfl | hpart
    · decide
    · decide
    · rw [List.mem_singleton.mp hpart]
      decide
  · simp

theorem no_null_detour (count : Nat) : '\x00' ∉ (Tree.detour count ["d"]).toString.toList := by
  intro hnull
  rw [Tree.detour, Path.toString_relative (by simp)] at hnull
  rcases Path.mem_intercalate hnull with hslash | ⟨part, hpart, hnull⟩
  · exact absurd hslash (by decide)
  · rcases parts_detour hpart with rfl | rfl | hpart
    · exact absurd hnull (by decide)
    · exact absurd hnull (by decide)
    · rw [List.mem_singleton.mp hpart] at hnull
      exact absurd hnull (by decide)

/-- The directory is written as a detour, in any tree that has it. -/
theorem run_of_unlooked {count : Nat}
    (hdirectory : t.look (Tree.detour count ["d"]) = .ok (some .directory)) {pattern : String}
    (hpattern : pattern ≠ "") {p : Path}
    (hfeed : (LayoutStream.unopened (Tree.detour count ["d"]) pattern).feed t =
      ⟨[], some (.look ⟨p, .nameTooLong⟩)⟩) :
    let words := ["search", "count a > 0", "--layouts-dir", (Tree.detour count ["d"]).toString,
      "--pattern", pattern]
    (run t {} words).printed = [.failed (FileFault.nameTooLong.message p)] ∧
      (run t {} words).result = .exit 2 := by
  intro words
  have hwords : Asks {} words _ := asks_search rfl (no_null_detour count) pattern
  have hread : ["count a > 0"].map Condition.parse = [⟨.entity "a", .greater, 0⟩].map .ok := by
    rfl
  obtain ⟨search, log, -, hwork⟩ := withConditions_of_parses (List.cons_ne_nil _ _) hread
    (searchLayouts t (Tree.detour count ["d"]) pattern (none <|> ({} : Settings).searchLimit))
  have hgiven : given (some pattern) = some pattern := by
    simp [given, hpattern]
  rw [(run_of_asks hwords _).1, (run_of_asks hwords _).2, perform, runSearch, hgiven]
  simp only [Option.getD_some, ofString_detour, hwork]
  exact search_of_unlooked hdirectory hfeed _ search

theorem run_at_detour {count : Nat} (h : 5 * count + 2 ≤ Tree.pathLimit) {pattern : String}
    (hpattern : pattern ≠ "") {p : Path}
    (hfeed : (LayoutStream.unopened (Tree.detour count ["d"]) pattern).feed Tree.nested =
      ⟨[], some (.look ⟨p, .nameTooLong⟩)⟩) :
    let words := ["search", "count a > 0", "--layouts-dir", (Tree.detour count ["d"]).toString,
      "--pattern", pattern]
    (run Tree.nested {} words).printed = [.failed (FileFault.nameTooLong.message p)] ∧
      (run Tree.nested {} words).result = .exit 2 :=
  run_of_unlooked (Tree.look_detour h) hpattern hfeed

theorem feed_detour {count : Nat} (h : 5 * count + 2 ≤ Tree.pathLimit)
    (hlong : Tree.pathLimit < 5 * count + 7) :
    (LayoutStream.unopened (Tree.detour count ["d"]) "*").feed Tree.nested =
      ⟨[], some (.look ⟨Tree.detour count ["d", "abcd"], .nameTooLong⟩)⟩ := by
  rw [LayoutStream.feed_of_ok _ (Session.paths_detour h)]
  simp only [LayoutStream.feedOf, LayoutStream.deliver, Tree.look_detour_overlong hlong]
  rfl

theorem feed_detour_named {count : Nat} (h : 5 * count + 2 ≤ Tree.pathLimit)
    (hlong : Tree.pathLimit < 5 * count + 7) :
    (LayoutStream.unopened (Tree.detour count ["d"]) "abcd").feed Tree.nested =
      ⟨[], some (.look ⟨Tree.detour count ["d", "abcd"], .nameTooLong⟩)⟩ := by
  apply LayoutStream.feed_of_error
  have hglob : Glob.ofString "abcd" = .ok ⟨[.name "abcd"]⟩ := by rfl
  have hchild : (Tree.detour count ["d"]).child "abcd" = Tree.detour count ["d", "abcd"] :=
    Tree.child_detour count ["d"] "abcd"
  rw [LayoutStream.paths, hglob]
  simp only [mapError_ok, ok_bind, Glob.select, Tree.look_detour h, Glob.follow, hchild,
    Tree.look_detour_overlong hlong]
  rfl

/-- The only path that is selected leads to a directory, but is too long to be looked at. So the
search fails, although no file is selected that cannot be loaded; and it fails as well where the
pattern names that directory, so that listing the paths comes upon it. -/
theorem search_fails_at_overlong_directory :
    let words (pattern : String) := ["search", "count a > 0", "--layouts-dir",
      (Tree.detour 818 ["d"]).toString, "--pattern", pattern]
    let p := Tree.detour 818 ["d", "abcd"]
    Settings.load [] none = .ok {} ∧
      Path.ofString (Tree.detour 818 ["d"]).toString = Tree.detour 818 ["d"] ∧
      (LayoutStream.unopened (Tree.detour 818 ["d"]) "*").paths Tree.nested = .ok [p] ∧
      Tree.nested.walk [] p.parts = .ok ["d", "abcd"] ∧
      Tree.nested.entryAt ["d", "abcd"] = some .directory ∧
      ∀ pattern ∈ ["*", "abcd"],
        (run Tree.nested {} (words pattern)).printed = [.failed (FileFault.nameTooLong.message p)] ∧
        (run Tree.nested {} (words pattern)).result = .exit 2 := by
  refine ⟨rfl, ofString_detour 818, Session.paths_detour (by decide),
    Tree.walk_detour 818 ["d", "abcd"], by decide, ?_⟩
  intro pattern hpattern
  rcases List.mem_pair.mp hpattern with rfl | rfl
  · exact run_at_detour (by decide) (by decide) (feed_detour (by decide) (by decide))
  · exact run_at_detour (by decide) (by decide) (feed_detour_named (by decide) (by decide))

end LayoutQuery.Command

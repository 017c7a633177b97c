import LayoutQuery.Proofs.Command.Failure
import LayoutQuery.Proofs.Files.Patterns

/-! # Searches that answer
A search of a directory answers files that are no layouts and paths that are too long. What it does
not answer is a pattern that is refused: the pattern is read when the first layout is asked for, and
its fault is of another kind than the ones that the search expects there. -/
namespace LayoutQuery

variable {t : Tree} {paths : List Path} {directory : Path} {pattern : String}

/-! ## What can break a search -/

/-- A run of conditions finds something, or fails as its feed does. -/
theorem Search.ending_cases {ε : Type} {s : Search} {cs : List Condition}
    (hs : s.criteria = cs.map .condition) (limit : Option Int) (f : Feed ε) :
    (∃ hits, (s.run limit f).ending = .found hits) ∨
      ∃ e, f.failure = some e ∧ (s.run limit f).ending = .broken e := by
  obtain ⟨layouts, failure⟩ := f
  obtain ⟨front, rest, rfl, hopen, hend⟩ := exists_front cs limit 0 layouts
  cases rest with
  | nil =>
    rw [List.append_nil]
    cases failure with
    | none => exact .inl ⟨_, congrArg Run.ending (run_to_end hs hopen)⟩
    | some e => exact .inr ⟨e, rfl, congrArg Run.ending (run_to_failure hs hopen e)⟩
  | cons l rest =>
    rw [Nat.zero_add] at hend
    have hreached := hend.resolve_left (List.cons_ne_nil l rest)
    exact .inl ⟨_, congrArg Run.ending (run_to_limit failure hs hopen hreached l rest)⟩

namespace LayoutStream

theorem exists_turn_of_failure {fault : StreamFault} (h : (feedOf t paths).failure = some fault) :
    ∃ p ∈ paths, Turn t p (.error fault) := by
  have hiter := iteration_listed t paths
  generalize (turns t paths).filter t.isFile = read at hiter
  generalize feedOf t paths = f at h hiter
  cases hiter with
  | whole => cases h
  | @stopped front rest p fault' hpaths hserves hturn =>
    cases h
    refine ⟨p, ?_, hturn⟩
    rw [hpaths]
    exact List.mem_append_right front List.mem_cons_self

/-- The directory is there, and each file that is selected in it is a layout, or known to be none. -/
structure Scannable (t : Tree) (directory : Path) (pattern : String) : Prop where
  isDirectory : t.look directory = .ok (some .directory)
  decided : ∀ paths, (LayoutStream.unopened directory pattern).paths t = .ok paths →
    ∀ p ∈ paths, t.isFile p = true → (∃ l, Layout.load t p = .ok l) ∨
      ∃ fault, Layout.load t p = .error fault ∧ fault.isFormat = true

/-- What can end the layouts of a directory: its pattern, a path that is too long, or a file that is
no layout. -/
inductive Scannable.Fault (pattern : String) : StreamFault → Prop where
  | glob {fault : GlobFault} : Glob.Refused pattern fault → Fault pattern (.glob fault)
  | look (fault : PathFault) : Fault pattern (.look fault)
  | format {fault : LoadFault} : fault.isFormat = true → Fault pattern (.load fault)

theorem Scannable.fault (h : Scannable t directory pattern) {fault : StreamFault}
    (hfailure : ((LayoutStream.unopened directory pattern).feed t).failure = some fault) :
    Fault pattern fault := by
  cases hpaths : (LayoutStream.unopened directory pattern).paths t with
  | error listing =>
    rw [feed_of_error t hpaths] at hfailure
    cases hfailure
    rcases bind_eq_error_iff.mp hpaths with hglob | ⟨glob, -, hselect⟩
    · obtain ⟨refused, hrefused, rfl⟩ := mapError_eq_error_iff.mp hglob
      exact .glob (Glob.ofString_eq_error_iff.mp hrefused)
    · obtain ⟨overlong, -, rfl⟩ := mapError_eq_error_iff.mp hselect
      exact .look overlong
  | ok paths =>
    rw [feed_of_ok t hpaths] at hfailure
    obtain ⟨p, hp, hturn⟩ := exists_turn_of_failure hfailure
    cases hturn with
    | refused => exact .look _
    | @malformed bytes fault hlook hbytes =>
      have hload := (load_of_look hlook).trans hbytes
      rcases h.decided paths hpaths p hp (Tree.isFile_iff.mpr ⟨bytes, hlook⟩) with
        ⟨l, hl⟩ | ⟨fault', hfault', hformat⟩
      · rw [hload] at hl
        cases hl
      · rw [hload] at hfault'
        cases hfault'
        exact .format hformat

/-- Where a pattern is refused no file is selected. -/
theorem Scannable.of_refused (hdirectory : t.look directory = .ok (some .directory))
    {fault : GlobFault} (hrefused : Glob.Refused pattern fault) :
    Scannable t directory pattern where
  isDirectory := hdirectory
  decided listed hlisted := by
    rw [paths, Glob.ofString_eq_error_iff.mpr hrefused] at hlisted
    cases hlisted

end LayoutStream

namespace Command

open LayoutStream (Scannable)

variable {s : Settings} {words texts : List String} {cs : List Condition} {search : Search}

/-! ## The command -/

theorem searchLayouts_of_refused (hdirectory : t.look directory = .ok (some .directory))
    {fault : GlobFault} (hrefused : Glob.Refused pattern fault)
    (hs : search.criteria = cs.map .condition) (limit : Option Nat) :
    (searchLayouts t directory pattern limit search).result = .escaped (.stream (.glob fault)) := by
  have hpaths : (LayoutStream.unopened directory pattern).paths t = .error (.glob fault) := by
    rw [LayoutStream.paths, Glob.ofString_eq_error_iff.mpr hrefused]
    rfl
  have hrun := Search.run_to_failure hs (Search.open_nil cs (limit.map Int.ofNat) 0)
    (StreamFault.glob fault)
  rw [searchLayouts, hdirectory]
  simp only [LayoutStream.feed_of_error t hpaths, hrun, endSearch]

theorem searchLayouts_answers (h : Scannable t directory pattern)
    (haccepted : ∀ fault, ¬ Glob.Refused pattern fault)
    (hs : search.criteria = cs.map .condition) (limit : Option Nat) :
    ∃ code ≤ 2, (searchLayouts t directory pattern limit search).result = .exit code := by
  rw [searchLayouts, h.isDirectory]
  dsimp only
  rcases Search.ending_cases hs (limit.map Int.ofNat)
    ((LayoutStream.unopened directory pattern).feed t) with ⟨hits, hending⟩ | ⟨e, hfailure, hending⟩
  · rw [hending]
    refine ⟨if hits.isEmpty then 1 else 0, ?_, rfl⟩
    split <;> decide
  · rw [hending]
    cases h.fault hfailure with
    | glob hrefused => exact absurd hrefused (haccepted _)
    | look fault => exact ⟨2, le_rfl, rfl⟩
    | format hformat =>
      rw [endSearch, if_pos (LoadFault.isForeseen_of_isFormat hformat)]
      exact ⟨2, le_rfl, rfl⟩

/-- A search ends with an exit code if and only if its pattern is not refused. The fault of a pattern
that is refused is left to escape, whatever the files are. -/
theorem search_answers_iff (s : Settings) (texts : List String) (cs : List Condition) (hne : cs ≠ [])
    (hread : texts.map Condition.parse = cs.map .ok) (words : List String)
    (directory pattern : Option String) (limit : Option Nat)
    (hwords : Asks s words (.search texts directory pattern limit)) (t : Tree)
    (hscan : Scannable t (Path.ofString (directory.getD s.layoutsDir))
      ((given pattern).getD s.layoutGlob)) :
    let glob := (given pattern).getD s.layoutGlob
    let result := (run t s words).result
    ((∃ code ≤ 2, result.exitCode? = some code) ↔ ∀ fault, ¬ Glob.Refused glob fault) ∧
      ∀ fault, Glob.Refused glob fault ↔ result = .escaped (.stream (.glob fault)) := by
  intro glob result
  obtain ⟨search, log, hcriteria, hwork⟩ := withConditions_of_parses hne hread
    (searchLayouts t (Path.ofString (directory.getD s.layoutsDir)) glob (limit <|> s.searchLimit))
  have hresult : (run t s words).result = (searchLayouts t
      (Path.ofString (directory.getD s.layoutsDir)) glob (limit <|> s.searchLimit) search).result := by
    rw [(run_of_asks hwords t).2, perform, runSearch, hwork]
    rfl
  cases hglob : Glob.ofString glob with
  | error refused =>
    have hrefused : ∀ fault, Glob.Refused glob fault ↔ refused = fault := by
      intro fault
      rw [← Glob.ofString_eq_error_iff, hglob, Except.error.injEq]
    have hescaped : result = .escaped (.stream (.glob refused)) :=
      hresult.trans (searchLayouts_of_refused hscan.isDirectory ((hrefused refused).mpr rfl)
        hcriteria _)
    rw [hescaped]
    simp [hrefused, Result.exitCode?]
  | ok steps =>
    have haccepted : ∀ fault, ¬ Glob.Refused glob fault := by
      intro fault hrefused
      rw [← Glob.ofString_eq_error_iff, hglob] at hrefused
      cases hrefused
    obtain ⟨code, hle, hexit⟩ := searchLayouts_answers hscan haccepted hcriteria
      (limit <|> s.searchLimit)
    have hended : result = .exit code := hresult.trans hexit
    rw [hended]
    refine ⟨iff_of_true ⟨code, hle, rfl⟩ haccepted, ?_⟩
    intro fault
    apply iff_of_false (haccepted fault)
    intro hescaped
    cases hescaped

/-! ## A search of three files -/

theorem load_quay_undecodable : ∃ fault, Layout.load quay (harbourPath "c.json") = .error fault ∧
    fault.isFormat = true :=
  ⟨_, rfl, rfl⟩

theorem paths_quay :
    (LayoutStream.unopened (Path.ofString "layouts") "*.json").paths quay = .ok quayPaths := by
  with_unfolding_all rfl

theorem scannable_quay : Scannable quay (Path.ofString "layouts") "*.json" where
  isDirectory := rfl
  decided paths hpaths p hp _ := by
    rw [paths_quay] at hpaths
    cases hpaths
    simp only [quayPaths, List.mem_cons, List.not_mem_nil, or_false] at hp
    rcases hp with rfl | rfl | rfl
    · exact .inl ⟨_, load_quay⟩
    · exact .inr ⟨_, firstBad_quay.fails, rfl⟩
    · exact .inr load_quay_undecodable

/-- Two of the files are no layouts, and the search answers that. It does not answer a pattern that
starts at the root. -/
theorem search_answers_iff_quay :
    let words := ["search", "count ship = 0"]
    (∃ code ≤ 2, (run quay {} words).result.exitCode? = some code) ∧
      (run quay {} (words ++ ["--pattern", "/a"])).result = .escaped (.stream (.glob .absolute)) := by
  intro words
  have hread : ["count ship = 0"].map Condition.parse = [⟨.entity "ship", .equal, 0⟩].map .ok := by
    rfl
  have hplain : Asks {} words (.search ["count ship = 0"] none none none) :=
    ⟨none, .search, _, .warning, rfl, rfl, rfl⟩
  have hrooted : Asks {} (words ++ ["--pattern", "/a"])
      (.search ["count ship = 0"] none (some "/a") none) :=
    ⟨none, .search, _, .warning, rfl, rfl, rfl⟩
  have hrefused : Glob.Refused "/a" .absolute := .absolute rfl
  constructor
  · refine (search_answers_iff {} _ _ (by decide) hread words none none none hplain quay
      scannable_quay).1.mpr ?_
    intro fault hfault
    have hglob : Glob.ofString "*.json" = .error fault := Glob.ofString_eq_error_iff.mpr hfault
    have hlisted := paths_quay
    rw [LayoutStream.paths, hglob] at hlisted
    cases hlisted
  · exact ((search_answers_iff {} _ _ (by decide) hread _ none (some "/a") none hrooted quay
      (Scannable.of_refused rfl hrefused)).2 .absolute).mp hrefused

/-- The directory is there and the condition can be read. But one pattern holds two stars that are not
a part of their own, and the other, which is set for all searches, is empty: both searches end with
no exit code. -/
theorem search_escapes_at_refused_pattern :
    let starred := ["search", "count ship = 0", "--pattern", "a**"]
    let emptied : Settings := { layoutGlob := "" }
    Asks {} starred (.search ["count ship = 0"] none (some "a**") none) ∧
      Settings.load [("SUBLEVEL_QUERY_LAYOUT_GLOB", "")] none = .ok emptied ∧
      (∃ c, Condition.parse "count ship = 0" = .ok c) ∧
      Scannable harbour (Path.ofString "layouts") "a**" ∧
      Scannable harbour (Path.ofString "layouts") "" ∧
      (run harbour {} starred).result = .escaped (.stream (.glob .doubleStar)) ∧
      (run harbour emptied ["search", "count ship = 0"]).result = .escaped (.stream (.glob .empty)) ∧
      ∀ fault, (Result.escaped (.stream (.glob fault))).exitCode? = none := by
  intro starred emptied
  have hstarred : Glob.Refused "a**" .doubleStar :=
    Glob.ofString_eq_error_iff.mp rfl
  have hempty : (run harbour { layoutGlob := "" } ["search", "count ship = 0"]).result =
      .escaped (.stream (.glob .empty)) := by
    rfl
  exact ⟨⟨none, .search, _, .warning, rfl, rfl, rfl⟩, rfl, ⟨⟨.entity "ship", .equal, 0⟩, rfl⟩,
    Scannable.of_refused rfl hstarred, Scannable.of_refused rfl (.empty rfl), rfl, hempty, fun _ => rfl⟩

end Command

end LayoutQuery

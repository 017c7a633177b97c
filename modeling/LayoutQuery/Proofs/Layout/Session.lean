import LayoutQuery.Proofs.Files.Order
import LayoutQuery.Proofs.Layout.Pulls

/-! # Streams while files change
A stream is asked now and then, by itself or by runs, and between the pulls files come and go. Its
paths are those that the first pull lists. Each gets its turn once and in order, as long as every
pull delivers a layout; behind one that does not, nothing is reached any more. -/
namespace LayoutQuery

open LayoutStream

/-- The files, and a stream over them. -/
structure Session where
  tree : Tree
  stream : LayoutStream

namespace Session

/-- What can happen next. A write or a removal that fails changes nothing, and files may change in
any other way. -/
inductive Step where
  | next
  | run (s : Search) (limit : Option Int)
  | write (p : Path) (bytes : List UInt8)
  | remove (p : Path)
  | change (t : Tree)

def step (x : Session) : Step → Session
  | .next => { x with stream := (x.stream.next x.tree).2 }
  | .run s limit => { x with stream := (s.runStream limit x.tree x.stream).2 }
  | .write p bytes => { x with tree := (x.tree.write p bytes).toOption.getD x.tree }
  | .remove p => { x with tree := (x.tree.remove p).toOption.getD x.tree }
  | .change t => { x with tree := t }

/-- The pulls that a step makes. -/
def pulls (x : Session) : Step → List Pull
  | .next => LayoutStream.pulls x.tree 1 x.stream
  | .run s limit => LayoutStream.pulls x.tree (s.runStream limit x.tree x.stream).1.requests x.stream
  | .write _ _ | .remove _ | .change _ => []

def after (x : Session) (steps : List Step) : Session := steps.foldl step x

/-- All pulls in order. -/
def history : Session → List Step → List Pull
  | _, [] => []
  | x, a :: rest => x.pulls a ++ history (x.step a) rest

end Session

/-- Paths are passed over that are no files at that moment; the path taken may be one, and is read as
it is then. -/
structure Pull.Fair (p : Pull) : Prop where
  skipped : ∀ q ∈ p.skipped, p.tree.NoFile q
  taken : ∀ q ∈ p.taken, Turn p.tree q p.answer
  nothing : p.taken = none → ¬ p.Delivers

theorem Pull.Idle.not_delivers {p : Pull} (h : p.Idle) : ¬ p.Delivers := by
  rintro ⟨l, hl⟩
  rw [h.2] at hl
  cases hl

theorem Pull.fair_of_reached_nil {p : Pull} (h : p.reached = []) (hno : ¬ p.Delivers) : p.Fair := by
  obtain ⟨hskipped, htaken⟩ := List.append_eq_nil_iff.mp h
  refine ⟨?_, ?_, fun _ => hno⟩
  · intro q hq
    rw [hskipped] at hq
    cases hq
  · intro q hq
    rw [Option.toList_eq_nil_iff.mp htaken] at hq
    cases hq

theorem Pull.Idle.fair {p : Pull} (h : p.Idle) : p.Fair := fair_of_reached_nil h.1 h.not_delivers

namespace LayoutStream

variable {directory : Path} {pattern : String} {h later : List Pull} {first last p : Pull}
  {paths rest left : List Path} {t : Tree} {s : LayoutStream}

theorem Pulls.fair (hp : Pulls t paths p rest) : p.Fair := by
  cases hp with
  | exhausts hskipped => exact ⟨hskipped, nofun, fun _ => nofun⟩
  | delivers hskipped hturn =>
    refine ⟨hskipped, ?_, nofun⟩
    rintro q ⟨⟩
    exact hturn
  | fails hskipped hturn =>
    refine ⟨hskipped, ?_, nofun⟩
    rintro q ⟨⟩
    exact hturn

theorem idle_pullOn_done (t : Tree) : (done.pullOn t).Idle := ⟨rfl, rfl⟩

/-- What a stream has done so far, and what it has become. -/
inductive Phase (directory : Path) (pattern : String) : List Pull → LayoutStream → Prop where
  | unopened : Phase directory pattern [] (.unopened directory pattern)
  /-- The first pull could not list the paths. -/
  | unlisted {first : Pull} {later : List Pull} {fault : StreamFault} :
      (LayoutStream.unopened directory pattern).paths first.tree = .error fault →
      first.reached = [] → first.answer = .error fault → (∀ p ∈ later, p.Idle) →
      Phase directory pattern (first :: later) done
  /-- Every pull has delivered a layout. -/
  | going {h : List Pull} {first : Pull} {paths rest : List Path} : h.head? = some first →
      (LayoutStream.unopened directory pattern).paths first.tree = .ok paths →
      (∀ p ∈ h, p.Fair ∧ p.Delivers) → h.flatMap Pull.reached ++ rest = paths →
      Phase directory pattern h (.listed rest)
  /-- One has not, and the paths left by it are lost. -/
  | ended {h later : List Pull} {first last : Pull} {paths lost : List Path} :
      (h ++ [last]).head? = some first →
      (LayoutStream.unopened directory pattern).paths first.tree = .ok paths →
      (∀ p ∈ h, p.Fair ∧ p.Delivers) → last.Fair → ¬ last.Delivers →
      (h ++ [last]).flatMap Pull.reached ++ lost = paths →
      (last.answer = .ok none → lost = []) → (∀ p ∈ later, p.Idle) →
      Phase directory pattern (h ++ last :: later) done

theorem Phase.pulled (hfirst : (h ++ [p]).head? = some first)
    (hpaths : (LayoutStream.unopened directory pattern).paths first.tree = .ok paths)
    (hall : ∀ q ∈ h, q.Fair ∧ q.Delivers) (hreached : h.flatMap Pull.reached ++ left = paths)
    (hp : Pulls t left p rest) : Phase directory pattern (h ++ [p]) (.listed rest) := by
  have hfair := hp.fair
  have happend : (h ++ [p]).flatMap Pull.reached = h.flatMap Pull.reached ++ p.reached := by
    simp
  cases hp with
  | exhausts hskipped =>
    have hlost : (h ++ [Pull.mk t left none (.ok none)]).flatMap Pull.reached ++ [] = paths := by
      rw [happend, ← hreached]
      simp [Pull.reached]
    exact .ended hfirst hpaths hall hfair nofun hlost (fun _ => rfl) nofun
  | delivers hskipped hturn =>
    refine .going hfirst hpaths ?_ ?_
    · intro q hq
      rcases List.mem_append.mp hq with hq | hq
      · exact hall q hq
      · rw [List.mem_singleton.mp hq]
        exact ⟨hfair, _, rfl⟩
    · rw [happend, ← hreached]
      simp [Pull.reached]
  | @fails skipped lost q fault hskipped hturn =>
    have hlost : (h ++ [Pull.mk t skipped (some q) (.error fault)]).flatMap Pull.reached ++ lost =
        paths := by
      rw [happend, ← hreached]
      simp [Pull.reached]
    exact .ended hfirst hpaths hall hfair nofun hlost nofun nofun

/-- What one pull does to a stream, whatever the files are now. -/
theorem Phase.pull (hphase : Phase directory pattern h s) (t : Tree) :
    Phase directory pattern (h ++ [s.pullOn t]) (s.behindPull t) := by
  have hidle : ∀ {later : List Pull}, (∀ p ∈ later, p.Idle) →
      ∀ p ∈ later ++ [done.pullOn t], p.Idle := by
    intro later hlater p hp
    rcases List.mem_append.mp hp with hp | hp
    · exact hlater p hp
    · rw [List.mem_singleton.mp hp]
      exact idle_pullOn_done t
  cases hphase with
  | unopened =>
    cases hpaths : (LayoutStream.unopened directory pattern).paths t with
    | error fault =>
      have hpull : (LayoutStream.unopened directory pattern).pullOn t =
          ⟨t, [], none, .error fault⟩ := by
        rw [pullOn, hpaths]
      have hbehind : (LayoutStream.unopened directory pattern).behindPull t = done := by
        rw [behindPull, next, hpaths]
      rw [hpull, hbehind]
      exact .unlisted hpaths rfl rfl (List.forall_mem_nil _)
    | ok paths =>
      have hpull : (LayoutStream.unopened directory pattern).pullOn t = pullOf t paths := by
        rw [pullOn, hpaths]
      have hbehind : (LayoutStream.unopened directory pattern).behindPull t =
          .listed (LayoutStream.pull t paths).2 := by
        rw [behindPull, next, hpaths]
      rw [hpull, hbehind]
      exact .pulled rfl hpaths (List.forall_mem_nil _) rfl (pulls_pullOf t paths)
  | unlisted hpaths hreached hanswer hlater =>
    exact .unlisted hpaths hreached hanswer (hidle hlater)
  | @going _ first paths rest hfirst hpaths hall hreached =>
    refine .pulled ?_ hpaths hall hreached (pulls_pullOf t rest)
    rw [List.head?_append, hfirst]
    rfl
  | ended hfirst hpaths hall hfair hlast hreached hlost hlater =>
    rw [List.append_assoc, List.cons_append]
    exact .ended hfirst hpaths hall hfair hlast hreached hlost (hidle hlater)

theorem Phase.pulls (hphase : Phase directory pattern h s) (t : Tree) (count : Nat) :
    Phase directory pattern (h ++ LayoutStream.pulls t count s) ((behindPull t)^[count] s) := by
  induction count generalizing h s with
  | zero => simpa [LayoutStream.pulls] using hphase
  | succ count ih =>
    have hnext := ih (hphase.pull t)
    rw [List.append_assoc] at hnext
    exact hnext

/-- The paths are listed by the first pull and have their turns in that order, each at most once. A
pull that delivers no layout is the last that reaches any. -/
structure Orderly (directory : Path) (pattern : String) (h : List Pull) : Prop where
  fair : ∀ p ∈ h, p.Fair
  unlisted : ∀ first ∈ h.head?, ∀ fault,
    (LayoutStream.unopened directory pattern).paths first.tree = .error fault →
      first.answer = .error fault ∧ h.flatMap Pull.reached = []
  listed : ∀ first ∈ h.head?, ∀ paths,
    (LayoutStream.unopened directory pattern).paths first.tree = .ok paths →
      Path.Ascending paths ∧ h.flatMap Pull.reached <+: paths ∧ (h.filterMap Pull.taken).Sublist paths
  exhausted : ∀ first ∈ h.head?, ∀ paths,
    (LayoutStream.unopened directory pattern).paths first.tree = .ok paths →
      (∀ p ∈ h, ∀ fault, p.answer ≠ .error fault) → (∃ p ∈ h, p.answer = .ok none) →
        h.flatMap Pull.reached = paths
  ended : h.Pairwise fun p q => ¬ p.Delivers → q.Idle

theorem taken_sublist_reached (h : List Pull) :
    (h.filterMap Pull.taken).Sublist (h.flatMap Pull.reached) := by
  induction h with
  | nil => exact .slnil
  | cons p h ih =>
    have hp : (p.taken.toList ++ h.filterMap Pull.taken).Sublist
        (p.reached ++ h.flatMap Pull.reached) :=
      (List.sublist_append_right p.skipped p.taken.toList).append ih
    rw [List.flatMap_cons]
    cases htaken : p.taken with
    | none =>
      rw [htaken] at hp
      rw [List.filterMap_cons_none htaken]
      exact hp
    | some q =>
      rw [htaken] at hp
      rw [List.filterMap_cons_some htaken]
      exact hp

theorem flatMap_reached_idle {later : List Pull} (h : ∀ p ∈ later, p.Idle) :
    later.flatMap Pull.reached = [] :=
  List.flatMap_eq_nil_iff.mpr fun p hp => (h p hp).1

theorem pairwise_idle {later : List Pull} (h : ∀ p ∈ later, p.Idle) :
    later.Pairwise fun p q => ¬ p.Delivers → q.Idle :=
  List.pairwise_of_forall_mem_list fun _ _ q hq _ => h q hq

theorem ascending_paths {t : Tree} {paths : List Path}
    (h : (LayoutStream.unopened directory pattern).paths t = .ok paths) : Path.Ascending paths := by
  obtain ⟨glob, -, hselect⟩ := bind_eq_ok_iff.mp h
  exact Glob.ascending_select (mapError_eq_ok_iff.mp hselect)

theorem Phase.orderly {s : LayoutStream} (hphase : Phase directory pattern h s) :
    Orderly directory pattern h := by
  cases hphase with
  | unopened => exact ⟨nofun, nofun, nofun, nofun, .nil⟩
  | @unlisted first later fault hpaths hreached hanswer hlater =>
    have hnone : (first :: later).flatMap Pull.reached = [] := by
      rw [List.flatMap_cons, hreached, flatMap_reached_idle hlater]
      rfl
    constructor
    case fair =>
      intro p hp
      rcases List.mem_cons.mp hp with rfl | hp
      · apply Pull.fair_of_reached_nil hreached
        rintro ⟨l, hl⟩
        cases hl.symm.trans hanswer
      · exact (hlater p hp).fair
    case unlisted =>
      rintro _ ⟨⟩ fault' hfault
      cases hpaths.symm.trans hfault
      exact ⟨hanswer, hnone⟩
    case listed =>
      rintro _ ⟨⟩ paths hlisted
      cases hpaths.symm.trans hlisted
    case exhausted =>
      rintro _ ⟨⟩ paths hlisted
      cases hpaths.symm.trans hlisted
    case ended => exact List.pairwise_cons.mpr ⟨fun q hq _ => hlater q hq, pairwise_idle hlater⟩
  | @going _ first paths rest hfirst hpaths hall hreached =>
    constructor
    case fair => exact fun p hp => (hall p hp).1
    case unlisted =>
      intro first' hfirst' fault hfault
      cases hfirst.symm.trans hfirst'
      cases hpaths.symm.trans hfault
    case listed =>
      intro first' hfirst' paths' hlisted
      cases hfirst.symm.trans hfirst'
      cases hpaths.symm.trans hlisted
      have hprefix : h.flatMap Pull.reached <+: paths := ⟨rest, hreached⟩
      exact ⟨ascending_paths hpaths, hprefix, (taken_sublist_reached h).trans hprefix.sublist⟩
    case exhausted =>
      rintro first' - paths' - - ⟨p, hp, hnone⟩
      obtain ⟨l, hl⟩ := (hall p hp).2
      cases hl.symm.trans hnone
    case ended =>
      exact List.pairwise_of_forall_mem_list fun p hp _ _ hno => absurd (hall p hp).2 hno
  | @ended delivered later first last paths lost hfirst hpaths hall hfair hlast hreached hlost
      hlater =>
    have hhead : (delivered ++ last :: later).head? = some first := by
      cases delivered <;> exact hfirst
    have hflat : (delivered ++ last :: later).flatMap Pull.reached =
        (delivered ++ [last]).flatMap Pull.reached := by
      simp [flatMap_reached_idle hlater]
    constructor
    case fair =>
      intro p hp
      rcases List.mem_append.mp hp with hp | hp
      · exact (hall p hp).1
      · rcases List.mem_cons.mp hp with rfl | hp
        · exact hfair
        · exact (hlater p hp).fair
    case unlisted =>
      intro first' hfirst' fault hfault
      cases hhead.symm.trans hfirst'
      cases hpaths.symm.trans hfault
    case listed =>
      intro first' hfirst' paths' hlisted
      cases hhead.symm.trans hfirst'
      cases hpaths.symm.trans hlisted
      have hprefix : (delivered ++ last :: later).flatMap Pull.reached <+: paths := by
        rw [hflat]
        exact ⟨lost, hreached⟩
      exact ⟨ascending_paths hpaths, hprefix, (taken_sublist_reached _).trans hprefix.sublist⟩
    case exhausted =>
      rintro first' hfirst' paths' hlisted hok -
      cases hhead.symm.trans hfirst'
      cases hpaths.symm.trans hlisted
      have hnone : last.answer = .ok none := by
        cases hanswer : last.answer with
        | error fault => exact absurd hanswer (hok last (by simp) fault)
        | ok found =>
          cases found with
          | none => rfl
          | some l => exact absurd ⟨l, hanswer⟩ hlast
      rw [hflat, ← hreached, hlost hnone, List.append_nil]
    case ended =>
      apply List.pairwise_append.mpr
      refine ⟨?_, ?_, ?_⟩
      · exact List.pairwise_of_forall_mem_list fun p hp _ _ hno => absurd (hall p hp).2 hno
      · exact List.pairwise_cons.mpr ⟨fun q hq _ => hlater q hq, pairwise_idle hlater⟩
      · exact fun p hp _ _ hno => absurd (hall p hp).2 hno

theorem Phase.eq_done {s : LayoutStream} (hphase : Phase directory pattern h s)
    (hends : ∃ p ∈ h, ¬ p.Delivers) : s = done := by
  obtain ⟨p, hp, hno⟩ := hends
  cases hphase with
  | unopened => cases hp
  | unlisted => rfl
  | going _ _ hall => exact absurd (hall p hp).2 hno
  | ended => rfl

end LayoutStream

namespace Session

variable {directory : Path} {pattern : String} {h : List Pull} {x : Session}

theorem phase_step (hphase : Phase directory pattern h x.stream) (a : Step) :
    Phase directory pattern (h ++ x.pulls a) (x.step a).stream := by
  cases a with
  | next => exact hphase.pulls x.tree 1
  | run s limit =>
    have hrun := (runStream_eq_pulls s limit x.tree x.stream).2
    rw [pulls, step, hrun]
    exact hphase.pulls x.tree _
  | write p bytes =>
    rw [pulls, List.append_nil]
    exact hphase
  | remove p =>
    rw [pulls, List.append_nil]
    exact hphase
  | change t =>
    rw [pulls, List.append_nil]
    exact hphase

theorem phase_after (hphase : Phase directory pattern h x.stream) (steps : List Step) :
    Phase directory pattern (h ++ x.history steps) (x.after steps).stream := by
  induction steps generalizing h x with
  | nil =>
    rw [history, List.append_nil]
    exact hphase
  | cons a steps ih =>
    have hrest := ih (phase_step hphase a)
    rw [List.append_assoc] at hrest
    exact hrest

/-- A stream that is opened and then asked by whatever steps, while files change. What a run comes to
depends on the answers to its pulls only; once a pull has failed or found nothing, it finds nothing
at all. -/
theorem paths_have_one_turn (directory : Path) (pattern : String) (t : Tree) (steps : List Step) :
    let x : Session := ⟨t, .unopened directory pattern⟩
    let y := x.after steps
    Orderly directory pattern (x.history steps) ∧
      (y.pulls .next).map Pull.answer = [(y.stream.next y.tree).1] ∧
      ∀ (s : Search) (limit : Option Int),
        (s.runStream limit y.tree y.stream).1 =
          s.run limit (Feed.ofAnswers ((y.pulls (.run s limit)).map Pull.answer)) ∧
        ((∃ p ∈ x.history steps, ¬ p.Delivers) →
          (s.runStream limit y.tree y.stream).1 =
            ⟨.found [], [.started (s.criteria.map Criterion.text) limit, .finished 0 0], 0, true⟩) := by
  intro x y
  have hstart : Phase directory pattern [] x.stream := .unopened
  have hphase : Phase directory pattern (x.history steps) y.stream := phase_after hstart steps
  refine ⟨hphase.orderly, ?_, ?_⟩
  · exact congrArg (fun answer => [answer]) (answer_pullOn y.tree y.stream)
  · intro s limit
    refine ⟨(runStream_eq_pulls s limit y.tree y.stream).1, ?_⟩
    intro hends
    rw [hphase.eq_done hends]
    rfl

theorem paths_detour {count : Nat} (h : 5 * count + 2 ≤ Tree.pathLimit) :
    (LayoutStream.unopened (Tree.detour count ["d"]) "*").paths Tree.nested =
      .ok [Tree.detour count ["d", "abcd"]] := by
  rw [paths, Glob.ofString_star]
  simp only [mapError_ok, ok_bind, Tree.select_detour h]

theorem next_detour {count : Nat} (h : 5 * count + 2 ≤ Tree.pathLimit)
    (hlong : Tree.pathLimit < 5 * count + 7) :
    ((LayoutStream.unopened (Tree.detour count ["d"]) "*").next Tree.nested).1 =
      .error (.look ⟨Tree.detour count ["d", "abcd"], .nameTooLong⟩) := by
  rw [next, paths_detour h]
  simp only [pull, deliver, Tree.look_detour_overlong hlong]
  rfl

/-- The path of a directory is listed, but too long to be looked at, so it is not passed over. -/
theorem next_fails_at_overlong_directory :
    (LayoutStream.unopened (Tree.detour 818 ["d"]) "*").paths Tree.nested =
        .ok [Tree.detour 818 ["d", "abcd"]] ∧
      Tree.nested.walk [] (Tree.detour 818 ["d", "abcd"]).parts = .ok ["d", "abcd"] ∧
      Tree.nested.entryAt ["d", "abcd"] = some .directory ∧
      ((LayoutStream.unopened (Tree.detour 818 ["d"]) "*").next Tree.nested).1 =
        .error (.look ⟨Tree.detour 818 ["d", "abcd"], .nameTooLong⟩) :=
  ⟨paths_detour (by decide), Tree.walk_detour 818 ["d", "abcd"], by decide,
    next_detour (by decide) (by decide)⟩

end Session

end LayoutQuery

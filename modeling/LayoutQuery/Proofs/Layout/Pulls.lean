import LayoutQuery.Proofs.Files.Tree
import LayoutQuery.Proofs.Layout.Stream
import LayoutQuery.Proofs.Search.Taken

/-! # Pulls
One pull on a list of paths passes over those that are no files and takes the first other one, which
is read as it is at that moment. A run is a series of pulls, and what it reports depends on their
answers only. -/
namespace LayoutQuery

/-- What a feed would have been that answered so far as the answers tell. -/
def Feed.ofAnswers {ε : Type} : List (Except ε (Option Layout)) → Feed ε
  | [] => ⟨[], none⟩
  | .ok (some l) :: rest => (ofAnswers rest).prepend [l]
  | .ok none :: _ => ⟨[], none⟩
  | .error e :: _ => ⟨[], some e⟩

theorem Feed.layouts_iterate_tail {ε : Type} (f : Feed ε) :
    (tail^[f.layouts.length] f).layouts = [] := by
  have hend := iterate_tail_prepend f.layouts (⟨[], f.failure⟩ : Feed ε)
  rw [prepend, List.append_nil] at hend
  rw [hend]

/-- One pull: the files at that moment, the paths passed over, the path taken, and the answer. -/
structure Pull where
  tree : Tree
  skipped : List Path
  taken : Option Path
  answer : Except StreamFault (Option Layout)

namespace Pull

/-- The paths whose turn came. -/
def reached (p : Pull) : List Path := p.skipped ++ p.taken.toList

def Delivers (p : Pull) : Prop := ∃ l, p.answer = .ok (some l)

def Idle (p : Pull) : Prop := p.reached = [] ∧ p.answer = .ok none

end Pull

namespace LayoutStream

/-- What comes of a path that may be a file. One that is too long to be looked at is a fault. -/
inductive Turn (t : Tree) (p : Path) : Except StreamFault (Option Layout) → Prop where
  | read {bytes : List UInt8} {l : Layout} : t.look p = .ok (some (.file bytes)) →
      Layout.ofBytes p bytes = .ok l → Turn t p (.ok (some l))
  | malformed {bytes : List UInt8} {fault : LoadFault} : t.look p = .ok (some (.file bytes)) →
      Layout.ofBytes p bytes = .error fault → Turn t p (.error (.load fault))
  | refused : t.look p = .error ⟨p, .nameTooLong⟩ → Turn t p (.error (.look ⟨p, .nameTooLong⟩))

variable {t : Tree} {p : Path} {paths : List Path}

theorem Turn.not_noFile {answer : Except StreamFault (Option Layout)} (h : Turn t p answer) :
    ¬ t.NoFile p := by
  have hlook : t.look p ≠ .ok none ∧ t.look p ≠ .ok (some .directory) := by
    cases h with
    | read hlook => simp [hlook]
    | malformed hlook => simp [hlook]
    | refused hlook => simp [hlook]
  rintro (hnone | hdirectory)
  · exact hlook.1 hnone
  · exact hlook.2 hdirectory

theorem load_of_look {bytes : List UInt8} (h : t.look p = .ok (some (.file bytes))) :
    Layout.load t p = Layout.ofBytes p bytes := by
  rw [Layout.load, Tree.read_of_look h]
  rfl

theorem deliver_cases (t : Tree) (p : Path) :
    t.NoFile p ∧ deliver t p = .ok none ∨
      Turn t p (deliver t p) ∧ deliver t p ≠ .ok none := by
  cases hlook : t.look p with
  | error fault =>
    obtain rfl := Tree.look_fault hlook
    have hdeliver : deliver t p = .error (.look ⟨p, .nameTooLong⟩) := by
      rw [deliver, hlook]
      rfl
    rw [hdeliver]
    exact .inr ⟨.refused hlook, nofun⟩
  | ok found =>
    rcases found with _ | bytes | _
    · refine .inl ⟨.inl hlook, ?_⟩
      rw [deliver, hlook]
      rfl
    · have hdeliver : deliver t p = some <$> (Layout.ofBytes p bytes).mapError .load := by
        rw [deliver, hlook, ← load_of_look hlook]
        rfl
      rw [hdeliver]
      cases hbytes : Layout.ofBytes p bytes with
      | error fault => exact .inr ⟨.malformed hlook hbytes, nofun⟩
      | ok l => exact .inr ⟨.read hlook hbytes, nofun⟩
    · refine .inl ⟨.inr hlook, ?_⟩
      rw [deliver, hlook]
      rfl

def skips (t : Tree) (p : Path) : Bool :=
  match deliver t p with
  | .ok none => true
  | _ => false

/-- The pull on the paths that are still to come. -/
def pullOf (t : Tree) (paths : List Path) : Pull where
  tree := t
  skipped := paths.takeWhile (skips t)
  taken := (paths.dropWhile (skips t)).head?
  answer := (pull t paths).1

/-- Everything that a pull can do to the paths that are still to come. -/
inductive Pulls (t : Tree) : List Path → Pull → List Path → Prop where
  | exhausts {paths : List Path} : (∀ q ∈ paths, t.NoFile q) →
      Pulls t paths ⟨t, paths, none, .ok none⟩ []
  | delivers {skipped rest : List Path} {p : Path} {l : Layout} : (∀ q ∈ skipped, t.NoFile q) →
      Turn t p (.ok (some l)) →
      Pulls t (skipped ++ p :: rest) ⟨t, skipped, some p, .ok (some l)⟩ rest
  | fails {skipped rest : List Path} {p : Path} {fault : StreamFault} :
      (∀ q ∈ skipped, t.NoFile q) → Turn t p (.error fault) →
      Pulls t (skipped ++ p :: rest) ⟨t, skipped, some p, .error fault⟩ []

theorem pulls_pullOf (t : Tree) (paths : List Path) :
    Pulls t paths (pullOf t paths) (pull t paths).2 := by
  induction paths with
  | nil => exact .exhausts fun q hq => absurd hq List.not_mem_nil
  | cons p rest ih =>
    rcases deliver_cases t p with ⟨hno, hp⟩ | ⟨hturn, hp⟩
    · have hskips : skips t p = true := by rw [skips, hp]
      have hpull : pullOf t (p :: rest) =
          { pullOf t rest with skipped := p :: (pullOf t rest).skipped } := by
        simp [pullOf, pull, hskips, hp]
      have hrest : (pull t (p :: rest)).2 = (pull t rest).2 := by rw [pull, hp]
      rw [hpull, hrest]
      have hall : ∀ {skipped : List Path}, (∀ q ∈ skipped, t.NoFile q) →
          ∀ q ∈ p :: skipped, t.NoFile q := by
        intro skipped h q hq
        rcases List.mem_cons.mp hq with rfl | hq
        · exact hno
        · exact h q hq
      generalize pullOf t rest = found at ih ⊢
      generalize (pull t rest).2 = left at ih ⊢
      cases ih with
      | exhausts h => exact .exhausts (hall h)
      | delivers h hturn => exact .delivers (hall h) hturn
      | fails h hturn => exact .fails (hall h) hturn
    · have hskips : skips t p = false := by
        rw [skips]
        split
        next h => exact absurd h hp
        next => rfl
      have hnil : ∀ q ∈ ([] : List Path), t.NoFile q := fun q hq => absurd hq List.not_mem_nil
      cases hdeliver : deliver t p with
      | error fault =>
        rw [hdeliver] at hturn
        have h : Pulls t ([] ++ p :: rest) ⟨t, [], some p, .error fault⟩ [] := .fails hnil hturn
        simpa [pullOf, pull, hskips, hdeliver] using h
      | ok found =>
        cases found with
        | none => exact absurd hdeliver hp
        | some l =>
          rw [hdeliver] at hturn
          have h : Pulls t ([] ++ p :: rest) ⟨t, [], some p, .ok (some l)⟩ rest :=
            .delivers hnil hturn
          simpa [pullOf, pull, hskips, hdeliver] using h

/-! ## Series of pulls -/

/-- The pull that `next` makes. One that cannot list the paths reaches none. -/
def pullOn (t : Tree) (s : LayoutStream) : Pull :=
  match s.paths t with
  | .error fault => ⟨t, [], none, .error fault⟩
  | .ok paths => pullOf t paths

/-- The stream behind one pull. -/
def behindPull (t : Tree) (s : LayoutStream) : LayoutStream := (s.next t).2

/-- So many pulls while the files stay as they are. -/
def pulls (t : Tree) : Nat → LayoutStream → List Pull
  | 0, _ => []
  | count + 1, s => s.pullOn t :: pulls t count (s.behindPull t)

theorem answer_pullOn (t : Tree) (s : LayoutStream) : (s.pullOn t).answer = (s.next t).1 := by
  rw [pullOn, next]
  cases s.paths t with
  | error fault => rfl
  | ok paths => rfl

/-- The answers of a series are what the stream's feed begins with. -/
theorem ofAnswers_pulls (t : Tree) (count : Nat) (s : LayoutStream) :
    Feed.ofAnswers ((pulls t count s).map Pull.answer) = (s.feed t).front count := by
  induction count generalizing s with
  | zero =>
    rw [Feed.front, if_pos (Nat.zero_le _), List.take_zero]
    rfl
  | succ count ih =>
    obtain ⟨hhead, htail⟩ := next_eq t s
    rw [pulls, List.map_cons, answer_pullOn, hhead]
    have hrest := ih (s.behindPull t)
    rw [behindPull, htail] at hrest
    generalize s.feed t = f at hrest ⊢
    obtain ⟨layouts, failure⟩ := f
    cases layouts with
    | nil =>
      have hmore : ¬ count + 1 ≤ ([] : List Layout).length := Nat.not_succ_le_zero count
      rw [Feed.front, if_neg hmore, List.take_nil]
      cases failure with
      | none => rfl
      | some e => rfl
    | cons l layouts =>
      rw [Feed.head, Feed.ofAnswers, behindPull, hrest, Feed.front, Feed.front, Feed.tail,
        List.take_succ_cons, List.length_cons]
      simp only [Feed.prepend, Nat.add_le_add_iff_right, List.singleton_append]

theorem behind_succ (t : Tree) (count : Nat) (paths : List Path) :
    behind t (count + 1) paths = (pull t (behind t count paths)).2 := by
  induction count generalizing paths with
  | zero => rfl
  | succ count ih => exact ih (pull t paths).2

theorem iterate_behindPull_listed (t : Tree) (count : Nat) (paths : List Path) :
    (behindPull t)^[count] (.listed paths) = .listed (behind t count paths) := by
  induction count generalizing paths with
  | zero => rfl
  | succ count ih => exact ih (pull t paths).2

theorem iterate_behindPull (t : Tree) {s : LayoutStream} (hpaths : s.paths t = .ok paths)
    (count : Nat) : (behindPull t)^[count + 1] s = .listed (behind t (count + 1) paths) := by
  have hfirst : s.behindPull t = .listed (pull t paths).2 := by
    rw [behindPull, next, hpaths]
  rw [Function.iterate_succ_apply, hfirst]
  exact iterate_behindPull_listed t count (pull t paths).2

theorem Pulls.rest_eq_nil {pull : Pull} {rest : List Path} (h : Pulls t paths pull rest)
    (hno : ¬ pull.Delivers) : rest = [] := by
  cases h with
  | exhausts => rfl
  | delivers => exact absurd ⟨_, rfl⟩ hno
  | fails => rfl

/-- The pull behind the last layout leaves no paths. -/
theorem pull_at_end (hnone : (feedOf t paths).layouts = []) : (pull t paths).2 = [] := by
  apply (pulls_pullOf t paths).rest_eq_nil
  rintro ⟨l, hl⟩
  rw [pullOf, (pull_eq t paths).1, Feed.head, hnone] at hl
  cases hfailure : (feedOf t paths).failure with
  | none =>
    rw [hfailure] at hl
    cases hl
  | some e =>
    rw [hfailure] at hl
    cases hl

/-- A run makes as many pulls as it has requests. What it comes to depends on their answers only, and
it leaves the stream as they leave it. -/
theorem runStream_eq_pulls (s : Search) (limit : Option Int) (t : Tree) (stream : LayoutStream) :
    (s.runStream limit t stream).1 =
        s.run limit (Feed.ofAnswers
          ((pulls t (s.runStream limit t stream).1.requests stream).map Pull.answer)) ∧
      (s.runStream limit t stream).2 =
        (behindPull t)^[(s.runStream limit t stream).1.requests] stream := by
  constructor
  · rw [ofAnswers_pulls]
    exact (Search.run_front s limit (stream.feed t)).symm
  · rw [Search.runStream]
    generalize hrun : s.run limit (stream.feed t) = run
    have hends := Search.run_stops_or_drains s limit (stream.feed t)
    rw [hrun] at hends
    cases hpaths : stream.paths t with
    | error fault =>
      have hbroken : s.run limit (stream.feed t) =
          ⟨.broken fault, [.started (s.criteria.map Criterion.text) limit], 0, true⟩ := by
        rw [feed_of_error t hpaths]
        rfl
      rw [hrun] at hbroken
      subst hbroken
      exact (congrArg Prod.snd (by rw [next, hpaths] : stream.next t = (.error fault, done))).symm
    | ok paths =>
      rw [feed_of_ok t hpaths] at hends
      rcases hends with ⟨hdrained, htaken⟩ | ⟨hdrained, htaken⟩
      · obtain ⟨count, hcount⟩ := Nat.exists_eq_succ_of_ne_zero (Nat.ne_of_gt htaken)
        simp only [afterRun, Run.requests, hdrained, hpaths, hcount, Bool.false_eq_true, if_false]
        exact (iterate_behindPull t hpaths count).symm
      · have hend : behind t (run.taken + 1) paths = [] := by
          rw [behind_succ]
          apply pull_at_end
          rw [feedOf_behind, htaken]
          exact Feed.layouts_iterate_tail (feedOf t paths)
        simp only [afterRun, Run.requests, hdrained, if_true]
        rw [iterate_behindPull t hpaths, hend]
        rfl

end LayoutStream

end LayoutQuery

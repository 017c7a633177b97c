import LayoutQuery.Proofs.Layout.Stream
import LayoutQuery.Proofs.Search.Run

/-! # At the limit
A run looks at its limit only when it has taken one layout more. So it stops behind its last hit only
where the feed ends there: a further layout is taken and lost, a failure makes the run fail. -/
namespace LayoutQuery.Search

variable {s : Search} {cs : List Condition} {n : Nat} {front : List Layout} {last : Layout}
  {rest : Feed StreamFault}

/-- The run on `front` and what follows is the run on `front` alone, takes no more, and leaves what
follows to whoever asks the stream next. -/
structure StopsAfter (s : Search) (n : Nat) (front : List Layout) (rest : Feed StreamFault) :
    Prop where
  ending : (s.run (some n) (rest.prepend front)).ending =
    (s.run (some n) (Feed.ofList front : Feed StreamFault)).ending
  log : (s.run (some n) (rest.prepend front)).log =
    (s.run (some n) (Feed.ofList front : Feed StreamFault)).log
  taken : (s.run (some n) (rest.prepend front)).taken = front.length
  left : ∀ (t : Tree) (stream : LayoutStream), stream.feed t = rest.prepend front →
    (s.runStream (some n) t stream).2.feed t = rest ∧
      ((s.runStream (some n) t stream).2.next t).1 = rest.head

/-- What the run does in place of that. -/
structure Overruns (s : Search) (n : Nat) (front : List Layout) (rest : Feed StreamFault) :
    Prop where
  layout : rest.layouts ≠ [] →
    (s.run (some n) (rest.prepend front)).ending =
      (s.run (some n) (Feed.ofList front : Feed StreamFault)).ending ∧
    (s.run (some n) (rest.prepend front)).log =
      (s.run (some n) (Feed.ofList front : Feed StreamFault)).log ∧
    (s.run (some n) (rest.prepend front)).taken = front.length + 1
  failure : ∀ e, rest = ⟨[], some e⟩ →
    (s.run (some n) (rest.prepend front)).ending = .broken e ∧
    (s.run (some n) (rest.prepend front)).log =
      (s.run (some n) (Feed.ofList front : Feed StreamFault)).log.dropLast
  left : ∀ (t : Tree) (stream : LayoutStream), stream.feed t = rest.prepend front →
    (s.runStream (some n) t stream).2.feed t = rest.tail

theorem matching_last (hlast : AllHold cs last) (front : List Layout) :
    (matching cs (front ++ [last])).length = (matching cs front).length + 1 := by
  simp [matching, hlast]

/-- The limit is open up to the layout that brings the last hit. -/
theorem open_last (hlast : AllHold cs last) (hn : (matching cs (front ++ [last])).length = n) :
    Open cs (some n) 0 (front ++ [last]) := by
  intro k hk
  rw [matching_last hlast] at hn
  have hle : k ≤ front.length := by
    simp only [List.length_append, List.length_singleton] at hk
    omega
  have hfewer := length_matching_take cs front k
  rw [List.take_append_of_le_length hle]
  simp only [reached, Nat.zero_add, decide_eq_false_iff_not]
  omega

theorem reached_last (hn : (matching cs front).length = n) :
    reached (some n) (matching cs front).length = true := by
  simp [reached, hn]

/-- Three ways to go on behind the last hit. -/
theorem run_behind_last (hs : s.criteria = cs.map .condition) (hopen : Open cs (some n) 0 front)
    (hn : (matching cs front).length = n) (rest : Feed StreamFault) :
    s.run (some n) (rest.prepend front) =
      match rest.layouts, rest.failure with
      | [], none => finishedRun cs (some n) front front.length true
      | [], some e => ⟨.broken e, progress cs (some n) front, front.length, true⟩
      | _ :: _, _ => finishedRun cs (some n) front (front.length + 1) false := by
  obtain ⟨layouts, failure⟩ := rest
  cases layouts with
  | nil =>
    rw [Feed.prepend, List.append_nil]
    cases failure with
    | none => exact run_to_end hs hopen
    | some e => exact run_to_failure hs hopen e
  | cons l layouts => exact run_to_limit failure hs hopen (reached_last hn) l layouts

theorem left_behind_last (hs : s.criteria = cs.map .condition) (hopen : Open cs (some n) 0 front)
    (hn : (matching cs front).length = n) {t : Tree} {stream : LayoutStream}
    (hfeed : stream.feed t = rest.prepend front) :
    (s.runStream (some n) t stream).2.feed t = rest.tail := by
  have hrun := run_behind_last hs hopen hn rest
  rw [runStream, hfeed]
  cases hlayouts : rest.layouts with
  | nil =>
    rw [hlayouts] at hrun
    have hdrained : (s.run (some n) (rest.prepend front)).drained = true := by
      rw [hrun]
      cases rest.failure <;> rfl
    rw [LayoutStream.feed_afterRun_drained t stream hdrained, Feed.tail, hlayouts]
  | cons l layouts =>
    rw [hlayouts] at hrun
    rw [hrun, LayoutStream.feed_afterRun t stream rfl (Nat.succ_pos _), hfeed]
    -- one pull more than there are layouts in front
    exact (Function.iterate_succ_apply' Feed.tail front.length _).trans
      (congrArg Feed.tail (Feed.iterate_tail_prepend front rest))

theorem overruns (hs : s.criteria = cs.map .condition) (hopen : Open cs (some n) 0 front)
    (hn : (matching cs front).length = n) : s.Overruns n front rest := by
  have halone := run_to_end (ε := StreamFault) hs hopen
  have hrun := run_behind_last hs hopen hn rest
  refine ⟨?_, ?_, fun t stream => left_behind_last hs hopen hn⟩
  · intro hne
    obtain ⟨l, layouts, hlayouts⟩ := List.exists_cons_of_ne_nil hne
    rw [hlayouts] at hrun
    rw [hrun, halone]
    exact ⟨rfl, rfl, rfl⟩
  · rintro e rfl
    rw [hrun, halone]
    exact ⟨rfl, (List.dropLast_concat).symm⟩

theorem stopsAfter_iff (hs : s.criteria = cs.map .condition) (hopen : Open cs (some n) 0 front)
    (hn : (matching cs front).length = n) : s.StopsAfter n front rest ↔ rest = ⟨[], none⟩ := by
  have hover : s.Overruns n front rest := overruns hs hopen hn
  constructor
  · intro hstops
    obtain ⟨layouts, failure⟩ := rest
    cases layouts with
    | nil =>
      cases failure with
      | none => rfl
      | some e =>
        have hbroken := (hover.failure e rfl).1
        rw [hstops.ending, run_to_end hs hopen] at hbroken
        cases hbroken
    | cons l layouts =>
      have htaken := (hover.layout (List.cons_ne_nil l layouts)).2.2
      rw [hstops.taken] at htaken
      omega
  · rintro rfl
    have hprepend : (⟨[], none⟩ : Feed StreamFault).prepend front = Feed.ofList front := by
      rw [Feed.prepend, List.append_nil]
      rfl
    refine ⟨by rw [hprepend], by rw [hprepend], ?_, ?_⟩
    · rw [hprepend]
      exact congrArg Run.taken (run_to_end hs hopen)
    · intro t stream hfeed
      have hleft := hover.left t stream hfeed
      refine ⟨hleft, ?_⟩
      rw [(LayoutStream.next_eq t _).1, hleft]
      rfl

/-- A run whose limit is reached by the last of the layouts `front` stops there if and only if the
feed ends there. -/
theorem run_stops_iff_feed_ends (cs : List Condition) (hne : cs ≠ []) (front : List Layout)
    (last : Layout) (hlast : ∀ c ∈ cs, c.Holds last) (n : Nat)
    (hn : (matching cs (front ++ [last])).length = n) (rest : Feed StreamFault) :
    ∃ s, ofList? (cs.map .condition) = some s ∧
      (∃ hits, (s.run (some n) (Feed.ofList (front ++ [last]) : Feed StreamFault)).ending =
        .found hits ∧ hits.length = n) ∧
      (s.StopsAfter n (front ++ [last]) rest ↔ rest = ⟨[], none⟩) ∧
      s.Overruns n (front ++ [last]) rest := by
  obtain ⟨s, hs, hcriteria⟩ := ofList?_conditions hne
  have hopen : Open cs (some n) 0 (front ++ [last]) := open_last hlast hn
  refine ⟨s, hs, ⟨(matching cs (front ++ [last])).map (verdict cs), ?_, ?_⟩,
    stopsAfter_iff hcriteria hopen hn, overruns hcriteria hopen hn⟩
  · exact congrArg Run.ending (run_to_end hcriteria hopen)
  · rw [List.length_map, hn]

/-- A file that is no layout stands behind the second hit. -/
theorem run_stops_iff_feed_ends_broken :
    let cs : List Condition := [⟨.entity "ship", .less, 1⟩]
    let front : List Layout := [⟨"a", [], []⟩, ⟨"b", [⟨"Ship", .null⟩], []⟩]
    let last : Layout := ⟨"c", [], []⟩
    let rest : Feed StreamFault := ⟨[], some (.load (.payload (.notObject "list")))⟩
    cs ≠ [] ∧ (∀ c ∈ cs, c.Holds last) ∧ (matching cs (front ++ [last])).length = 2 ∧
      ∃ s, ofList? (cs.map .condition) = some s ∧
        (∃ hits, (s.run (some (2 : Nat)) (Feed.ofList (front ++ [last]) : Feed StreamFault)).ending =
          .found hits ∧ hits.length = 2) ∧
        (s.StopsAfter 2 (front ++ [last]) rest ↔ rest = ⟨[], none⟩) ∧
        s.Overruns 2 (front ++ [last]) rest :=
  ⟨by decide, by decide, by decide,
    run_stops_iff_feed_ends _ (by decide) _ _ (by decide) 2 (by decide) _⟩

/-- Neither a broken file nor a further layout behind the last hit is left alone. -/
theorem run_goes_past_last_hit :
    let c : Condition := ⟨.entity "ship", .equal, 0⟩
    let s : Search := ⟨[.condition c], by simp⟩
    let a : Layout := ⟨"a", [], []⟩
    ofList? [.condition c] = some s ∧ c.Holds a ∧
      ¬ s.StopsAfter 1 [a] ⟨[], some (.load (.payload (.notObject "list")))⟩ ∧
      ¬ s.StopsAfter 1 [a] ⟨[⟨"b", [], []⟩], none⟩ := by
  intro c s a
  have hs : s.criteria = [c].map .condition := rfl
  have hn : (matching [c] ([] ++ [a])).length = 1 := by decide
  have hopen : Open [c] (some (1 : Nat)) 0 ([] ++ [a]) := open_last (by decide) hn
  refine ⟨rfl, by decide, ?_, ?_⟩
  · intro h
    cases (stopsAfter_iff hs hopen hn).mp h
  · intro h
    cases (stopsAfter_iff hs hopen hn).mp h

end LayoutQuery.Search

import LayoutQuery.Proofs.Search.Run
import Mathlib.Order.Bounds.Basic

/-! # Hits
What a search finds on a feed that does not fail: the first matching layouts, as many as the limit
lets through, and a log that tells of them and of the shortest prefix in which they all stand. -/
namespace LayoutQuery.Search

variable {cs : List Condition} {limit : Option Int} {ls front rest : List Layout}

/-- At most as many items as the limit says, none if it is negative, all if there is none. -/
def capped {α : Type} (limit : Option Int) (xs : List α) : List α :=
  match limit with
  | none => xs
  | some n => xs.take n.toNat

/-- The length of the shortest prefix that holds as many matching layouts as the limit says, or of
all layouts if there is no such prefix. -/
def IsScanned (cs : List Condition) (limit : Option Int) (ls : List Layout) (k : Nat) : Prop :=
  match limit with
  | none => k = ls.length
  | some n =>
    if n.toNat ≤ (matching cs ls).length then
      IsLeast {j | n.toNat ≤ (matching cs (ls.take j)).length} k
    else k = ls.length

/-- Every feed has a front at whose end the limit is reached or nothing is left. -/
theorem exists_front (cs : List Condition) (limit : Option Int) (found : Nat) (ls : List Layout) :
    ∃ front rest, ls = front ++ rest ∧ Open cs limit found front ∧
      (rest = [] ∨ reached limit (found + (matching cs front).length) = true) := by
  induction ls generalizing found with
  | nil => exact ⟨[], [], rfl, open_nil _ _ _, .inl rfl⟩
  | cons l ls ih =>
    by_cases hreached : reached limit found = true
    · exact ⟨[], l :: ls, rfl, open_nil _ _ _, .inr hreached⟩
    · obtain ⟨front, rest, hls, hopen, hend⟩ := ih (found + (matching cs [l]).length)
      refine ⟨l :: front, rest, by rw [hls]; rfl, open_cons.mpr ⟨?_, hopen⟩, ?_⟩
      · simpa using hreached
      · rwa [matching_cons, List.length_append, ← Nat.add_assoc]

theorem reached_some_iff {n : Int} {found : Nat} :
    reached (some n) found = true ↔ n.toNat ≤ found := by
  simp [reached]

/-- A front that is open up to its last layout holds no more hits than the limit says. -/
theorem length_matching_le {n : Int} (h : Open cs (some n) 0 front) :
    (matching cs front).length ≤ n.toNat := by
  rcases List.eq_nil_or_concat front with rfl | ⟨q, l, rfl⟩
  · simp
  · have hq := h q.length (by simp)
    have hlast : (matching cs [l]).length ≤ 1 := List.length_filter_le _ [l]
    rw [List.concat_eq_append] at hq ⊢
    rw [List.take_left, Nat.zero_add, ← Bool.not_eq_true, reached_some_iff] at hq
    rw [matching_append, List.length_append]
    omega

theorem matching_front (h : Open cs limit 0 front)
    (hend : rest = [] ∨ reached limit (matching cs front).length = true) :
    matching cs front = capped limit (matching cs (front ++ rest)) := by
  cases limit with
  | none =>
    rcases hend with rfl | hreached
    · rw [List.append_nil]
      rfl
    · simp [reached] at hreached
  | some n =>
    have hle := length_matching_le h
    rcases hend with rfl | hreached
    · rw [List.append_nil, capped, List.take_of_length_le hle]
    · have hge := reached_some_iff.mp hreached
      rw [matching_append, capped, List.take_left' (by omega)]

theorem isScanned_front (h : Open cs limit 0 front)
    (hend : rest = [] ∨ reached limit (matching cs front).length = true) :
    IsScanned cs limit (front ++ rest) front.length := by
  cases limit with
  | none =>
    rcases hend with rfl | hreached
    · simp [IsScanned]
    · simp [reached] at hreached
  | some n =>
    rw [IsScanned]
    split_ifs with henough
    · constructor
      · have hfront := congrArg List.length (matching_front h hend)
        rw [capped, List.length_take, Nat.min_eq_left henough] at hfront
        rw [Set.mem_ofPred_eq, List.take_left, hfront]
      · -- the limit was still open behind every shorter prefix
        intro k hk
        by_contra hlt
        have hopen := h k (by omega)
        rw [Nat.zero_add, ← Bool.not_eq_true, reached_some_iff] at hopen
        rw [Set.mem_ofPred_eq, List.take_append_of_le_length (by omega)] at hk
        exact hopen hk
    · rcases hend with rfl | hreached
      · rw [List.append_nil]
      · have hge := reached_some_iff.mp hreached
        rw [matching_append, List.length_append] at henough
        omega

theorem capped_map {α β : Type} (limit : Option Int) (f : α → β) (xs : List α) :
    capped limit (xs.map f) = (capped limit xs).map f := by
  cases limit with
  | none => rfl
  | some n => exact List.map_take.symm

/-- A positive limit leaves something of what there is. -/
theorem capped_eq_nil_iff {α : Type} (hlimit : ∀ n ∈ limit, 1 ≤ n) {xs : List α} :
    capped limit xs = [] ↔ xs = [] := by
  cases limit with
  | none => rfl
  | some n =>
    have hpos := hlimit n rfl
    rw [capped, List.take_eq_nil_iff]
    constructor
    · intro h
      exact h.resolve_left (by omega)
    · exact .inr

/-- What a run finds on a feed that does not fail. -/
theorem ending_ofList {s : Search} (hs : s.criteria = cs.map .condition) {ε : Type}
    (limit : Option Int) (ls : List Layout) :
    (s.run limit (Feed.ofList ls : Feed ε)).ending =
      .found ((capped limit (matching cs ls)).map (verdict cs)) := by
  obtain ⟨front, rest, rfl, hopen, hend⟩ := exists_front cs limit 0 ls
  rw [Nat.zero_add] at hend
  rw [← matching_front hopen hend]
  cases rest with
  | nil =>
    rw [List.append_nil, run_to_end hs hopen]
    rfl
  | cons l rest =>
    have hreached := hend.resolve_left (List.cons_ne_nil l rest)
    rw [Feed.ofList, run_to_limit none hs hopen hreached]
    rfl

/-- The run `r` on the layouts `ls` ends with the first hits and logs its start, each of them in
order, and its end. -/
structure Reports {ε : Type} (s : Search) (cs : List Condition) (limit : Option Int)
    (ls : List Layout) (r : Run ε) (hits : List Verdict) (scanned : Nat) : Prop where
  ending : r.ending = .found hits
  verdicts : hits.map .ok = (capped limit (matching cs ls)).map s.evaluate
  log : r.log = .started (cs.map Condition.render) limit ::
    (hits.map fun v => .matched v.layout) ++ [.finished scanned hits.length]
  scanned : IsScanned cs limit ls scanned

end LayoutQuery.Search

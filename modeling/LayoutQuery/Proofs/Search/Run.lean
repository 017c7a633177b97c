import LayoutQuery.Proofs.Search.Verdict

/-! # Runs
A run works through a front of its feed as long as its limit is open, and what it found and logged
is then read off that front. How it ends depends on what stands behind the front. -/
namespace LayoutQuery

def matching (cs : List Condition) (ls : List Layout) : List Layout :=
  ls.filter fun l => AllHold cs l

@[simp] theorem matching_nil (cs : List Condition) : matching cs [] = [] := rfl

@[simp] theorem matching_append (cs : List Condition) (ls ms : List Layout) :
    matching cs (ls ++ ms) = matching cs ls ++ matching cs ms := List.filter_append ls ms

theorem matching_cons (cs : List Condition) (l : Layout) (ls : List Layout) :
    matching cs (l :: ls) = matching cs [l] ++ matching cs ls :=
  matching_append cs [l] ls

theorem length_matching_take (cs : List Condition) (ls : List Layout) (k : Nat) :
    (matching cs (ls.take k)).length ≤ (matching cs ls).length :=
  ((List.take_sublist k ls).filter _).length_le

def Run.logged {ε : Type} (events : List Event) (r : Run ε) : Run ε :=
  { r with log := events ++ r.log }

@[simp] theorem Run.logged_nil {ε : Type} (r : Run ε) : r.logged [] = r := rfl

@[simp] theorem Run.logged_logged {ε : Type} (events earlier : List Event) (r : Run ε) :
    (r.logged events).logged earlier = r.logged (earlier ++ events) := by
  simp [Run.logged]

def matchedEvents (ls : List Layout) : List Event := ls.map fun l => .matched l.name

namespace Search

variable {ε : Type} {s : Search} {cs : List Condition} {limit : Option Int}

/-- The limit stays open up to the last of the layouts `front`, when `found` hits were there
before them. -/
def Open (cs : List Condition) (limit : Option Int) (found : Nat) (front : List Layout) : Prop :=
  ∀ k < front.length, reached limit (found + (matching cs (front.take k)).length) = false

theorem open_nil (cs : List Condition) (limit : Option Int) (found : Nat) :
    Open cs limit found [] := by
  intro k hk
  simp at hk

theorem open_cons {found : Nat} {l : Layout} {front : List Layout} :
    Open cs limit found (l :: front) ↔
      reached limit found = false ∧ Open cs limit (found + (matching cs [l]).length) front := by
  constructor
  · intro h
    refine ⟨by simpa using h 0 (by simp), ?_⟩
    intro k hk
    have hnext := h (k + 1) (by simpa using hk)
    rwa [List.take_succ_cons, matching_cons, List.length_append, ← Nat.add_assoc] at hnext
  · rintro ⟨hfirst, hrest⟩ k hk
    cases k with
    | zero => simpa using hfirst
    | succ k =>
      rw [List.take_succ_cons, matching_cons, List.length_append, ← Nat.add_assoc]
      exact hrest k (by simpa using hk)

/-! ## What one step does -/

variable (failure : Option ε)

theorem scan_cons (hs : s.criteria = cs.map .condition) {hits : List Verdict}
    (hopen : reached limit hits.length = false) (l : Layout) (rest : List Layout) (scanned : Nat) :
    s.scan limit failure (l :: rest) scanned hits =
      (s.scan limit failure rest (scanned + 1)
        (((matching cs [l]).map (verdict cs)).reverse ++ hits)).logged
          (matchedEvents (matching cs [l])) := by
  simp only [scan, hopen, evaluate_conditions hs, matched_verdict_iff]
  by_cases hl : AllHold cs l
  · simp [matching, hl, Run.logged, matchedEvents]
  · simp [matching, hl, matchedEvents]

/-- What the loop keeps: the hits and the log are those of the layouts scanned so far. -/
theorem scan_append (hs : s.criteria = cs.map .condition) (front rest : List Layout)
    (scanned : Nat) (hits : List Verdict) (hopen : Open cs limit hits.length front) :
    s.scan limit failure (front ++ rest) scanned hits =
      (s.scan limit failure rest (scanned + front.length)
        (((matching cs front).map (verdict cs)).reverse ++ hits)).logged
          (matchedEvents (matching cs front)) := by
  -- for any hits before, since each matching layout adds to them
  induction front generalizing scanned hits with
  | nil => simp [matchedEvents]
  | cons l front ih =>
    obtain ⟨hfirst, hrest⟩ := open_cons.mp hopen
    rw [List.cons_append, scan_cons failure hs hfirst, ih]
    · rw [matching_cons cs l front]
      simp [matchedEvents, Nat.add_assoc, Nat.add_comm 1]
    · simpa [Nat.add_comm] using hrest

/-! ## How a run ends -/

def progress (cs : List Condition) (limit : Option Int) (front : List Layout) : List Event :=
  .started (cs.map Condition.render) limit :: matchedEvents (matching cs front)

/-- A run that ends well behind `front`. -/
def finishedRun (cs : List Condition) (limit : Option Int) (front : List Layout) (taken : Nat)
    (drained : Bool) : Run ε where
  ending := .found ((matching cs front).map (verdict cs))
  log := progress cs limit front ++ [.finished front.length (matching cs front).length]
  taken := taken
  drained := drained

theorem run_append (hs : s.criteria = cs.map .condition) {front : List Layout}
    (hopen : Open cs limit 0 front) (rest : List Layout) :
    s.run limit ⟨front ++ rest, failure⟩ =
      (s.scan limit failure rest front.length
        ((matching cs front).map (verdict cs)).reverse).logged (progress cs limit front) := by
  have htexts : s.criteria.map Criterion.text = cs.map Condition.render := by
    simp [hs, Criterion.text]
  simp only [run, htexts, scan_append failure hs front rest 0 [] hopen]
  simp [Run.logged, progress]

theorem run_to_end (hs : s.criteria = cs.map .condition) {front : List Layout}
    (hopen : Open cs limit 0 front) :
    s.run limit (Feed.ofList front : Feed ε) = finishedRun cs limit front front.length true := by
  have h := run_append (none : Option ε) hs hopen []
  rw [List.append_nil] at h
  rw [Feed.ofList, h]
  simp [scan, Run.logged, finishedRun]

theorem run_to_failure (hs : s.criteria = cs.map .condition) {front : List Layout}
    (hopen : Open cs limit 0 front) (e : ε) :
    s.run limit ⟨front, some e⟩ = ⟨.broken e, progress cs limit front, front.length, true⟩ := by
  have h := run_append (some e) hs hopen []
  rw [List.append_nil] at h
  rw [h]
  simp [scan, Run.logged]

/-- The layout behind the front is taken before the limit is looked at. -/
theorem run_to_limit (hs : s.criteria = cs.map .condition) {front : List Layout}
    (hopen : Open cs limit 0 front) (hreached : reached limit (matching cs front).length = true)
    (l : Layout) (rest : List Layout) :
    s.run limit ⟨front ++ l :: rest, failure⟩ =
      finishedRun cs limit front (front.length + 1) false := by
  rw [run_append failure hs hopen]
  simp [scan, hreached, Run.logged, finishedRun]

end Search

end LayoutQuery

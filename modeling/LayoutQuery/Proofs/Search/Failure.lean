import LayoutQuery.Layout.Stream
import LayoutQuery.Proofs.Search.Taken

/-! # Failing runs
A run logs its end if and only if it ends with hits. So a run that its feed breaks leaves an
unfinished log, and that log holds each match that was found before. -/
namespace LayoutQuery

def Event.IsFinish : Event → Prop
  | .finished _ _ => True
  | _ => False

instance (e : Event) : Decidable e.IsFinish := by
  cases e <;> unfold Event.IsFinish <;> infer_instance

/-- Only a run with hits logs a finish, and it does so once, when it has nothing more to log. -/
structure Run.Closes {ε : Type} (r : Run ε) : Prop where
  finish_iff : (∃ e ∈ r.log, e.IsFinish) ↔ ∃ hits, r.ending = .found hits
  last : ∀ hits, r.ending = .found hits → ∃ front scanned,
    r.log = front ++ [.finished scanned hits.length] ∧ ∀ e ∈ front, ¬ e.IsFinish

variable {ε : Type} {r : Run ε}

theorem Run.closes_finished {hits : List Verdict} {scanned : Nat}
    (hending : r.ending = .found hits) (hlog : r.log = [.finished scanned hits.length]) :
    r.Closes where
  finish_iff := by
    refine iff_of_true ⟨.finished scanned hits.length, ?_, trivial⟩ ⟨hits, hending⟩
    rw [hlog]
    exact List.mem_singleton_self _
  last := by
    intro hits' h
    rw [hending] at h
    cases h
    exact ⟨[], scanned, hlog, fun e he => absurd he List.not_mem_nil⟩

theorem Run.closes_unfinished (hending : ∀ hits, r.ending ≠ .found hits) (hlog : r.log = []) :
    r.Closes where
  finish_iff := by
    rw [hlog]
    refine iff_of_false ?_ fun ⟨hits, h⟩ => hending hits h
    rintro ⟨e, he, -⟩
    exact List.not_mem_nil he
  last := fun hits h => absurd h (hending hits)

/-- Earlier events that are no finish change nothing of how a log closes. -/
theorem Run.Closes.logged (h : r.Closes) {events : List Event}
    (hevents : ∀ e ∈ events, ¬ e.IsFinish) : (r.logged events).Closes where
  finish_iff := by
    refine Iff.trans ?_ h.finish_iff
    constructor
    · rintro ⟨e, he, hfinish⟩
      rcases List.mem_append.mp he with hearlier | hlater
      · exact absurd hfinish (hevents e hearlier)
      · exact ⟨e, hlater, hfinish⟩
    · rintro ⟨e, he, hfinish⟩
      exact ⟨e, List.mem_append_right events he, hfinish⟩
  last := by
    intro hits hending
    obtain ⟨front, scanned, hlog, hfront⟩ := h.last hits hending
    refine ⟨events ++ front, scanned, ?_, ?_⟩
    · rw [Run.logged, hlog, List.append_assoc]
    · intro e he
      rcases List.mem_append.mp he with hearlier | hlater
      · exact hevents e hearlier
      · exact hfront e hlater

namespace Search

variable (s : Search) (limit : Option Int)

theorem scan_closes (failure : Option ε) (ls : List Layout) (scanned : Nat) (hits : List Verdict) :
    (s.scan limit failure ls scanned hits).Closes := by
  -- for any hits before, which the last event counts with the later ones
  induction ls generalizing scanned hits with
  | nil =>
    cases failure with
    | some e =>
      refine Run.closes_unfinished ?_ rfl
      intro hits' h
      cases h
    | none => exact Run.closes_finished rfl (by rw [List.length_reverse]; rfl)
  | cons l ls ih =>
    cases hreached : reached limit hits.length with
    | true =>
      rw [scan, hreached, if_pos rfl]
      exact Run.closes_finished rfl (by rw [List.length_reverse])
    | false =>
      cases hl : s.evaluate l with
      | error e =>
        simp only [scan, hreached, hl, Bool.false_eq_true, if_false]
        refine Run.closes_unfinished ?_ rfl
        intro hits' h
        cases h
      | ok v =>
        rw [scan_evaluated s limit failure hreached hl]
        refine (ih _ _).logged ?_
        by_cases hmatched : v.matched = true
        · simp [hmatched, Event.IsFinish]
        · simp [hmatched]

theorem run_closes (f : Feed ε) : (s.run limit f).Closes := by
  have hstart : ∀ e ∈ [Event.started (s.criteria.map Criterion.text) limit], ¬ e.IsFinish := by
    simp [Event.IsFinish]
  exact (s.scan_closes limit f.failure f.layouts 0 []).logged hstart

variable {cs : List Condition} {limit : Option Int}

theorem open_of_unreached {ls : List Layout} (h : ∀ n ∈ limit, (matching cs ls).length < n) :
    Open cs limit 0 ls := by
  intro k _
  have hfewer := length_matching_take cs ls k
  cases limit with
  | none => rfl
  | some n =>
    have hn := h n rfl
    simp only [reached, Nat.zero_add, decide_eq_false_iff_not]
    omega

end Search

end LayoutQuery

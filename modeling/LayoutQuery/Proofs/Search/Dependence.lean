import LayoutQuery.Proofs.Matching.Counts
import LayoutQuery.Proofs.Search.Verdict

/-! # What a verdict depends on
A search sees nothing of a layout but how often each folded name and each room type occurs in it. Of
the two, a condition on entities sees the names only, and one on rooms the room types only. -/
namespace LayoutQuery

open Condition (outcome)

variable {cs : List Condition} {l m : Layout}

theorem outcome_congr {c : Condition} (h : l.SameFor m c.subject) : outcome l c = outcome m c := by
  have hholds : c.Holds l ↔ c.Holds m := by
    rw [Condition.holds_iff, Condition.holds_iff, Layout.count_of_sameFor h]
  exact Prod.ext rfl (decide_eq_decide.mpr hholds)

theorem verdict_congr (h : ∀ c ∈ cs, l.SameFor m c.subject) :
    (verdict cs l).outcomes = (verdict cs m).outcomes :=
  List.map_congr_left fun c hc => outcome_congr (h c (List.mem_eraseDups.mp hc))

namespace Search

theorem outcomes_conditions_or_unsupported (ks : List Criterion) :
    (∃ cs : List Condition, ks = cs.map .condition) ∨ ∃ e, ∀ l done, outcomes l ks done = .error e := by
  induction ks with
  | nil => exact .inl ⟨[], rfl⟩
  | cons k ks ih =>
    cases k with
    | foreign v => exact .inr ⟨⟨v.kind⟩, fun l done => rfl⟩
    | condition c =>
      rcases ih with ⟨cs, rfl⟩ | ⟨e, he⟩
      · exact .inl ⟨c :: cs, rfl⟩
      · exact .inr ⟨e, fun l done => he l _⟩

/-- A search of conditions has a verdict on every layout, and any other search fails on all layouts
alike. -/
theorem conditions_or_unsupported (s : Search) :
    (∃ cs : List Condition, s.criteria = cs.map .condition) ∨ ∃ e, ∀ l, s.evaluate l = .error e := by
  rcases outcomes_conditions_or_unsupported s.criteria with hcs | ⟨e, he⟩
  · exact .inl hcs
  · refine .inr ⟨e, ?_⟩
    intro l
    rw [evaluate, he]
    rfl

end Search

end LayoutQuery

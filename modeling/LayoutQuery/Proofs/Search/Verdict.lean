import LayoutQuery.Proofs.Condition.Rendering
import LayoutQuery.Search
import Mathlib.Data.List.Nodup
import Mathlib.Data.List.Induction

/-! # Verdicts
Outcomes are kept under rendered text. No two conditions are rendered alike, so a verdict has one
outcome for each distinct condition, in the order in which the conditions first occur. -/
namespace LayoutQuery

/-! ## First occurrences -/

section FirstOccurrences

variable {α : Type} [DecidableEq α]

theorem eraseDups_concat (xs : List α) (x : α) :
    (xs ++ [x]).eraseDups = if x ∈ xs then xs.eraseDups else xs.eraseDups ++ [x] := by
  rw [List.eraseDups_append]
  split_ifs with h
  · simp [List.removeAll, h]
  · simp [List.removeAll, h, List.eraseDups_cons]

theorem nodup_eraseDups (xs : List α) : xs.eraseDups.Nodup := by
  induction xs using List.reverseRecOn with
  | nil => simp
  | append_singleton xs x ih =>
    rw [eraseDups_concat]
    split_ifs with h
    · exact ih
    · rw [List.nodup_append]
      refine ⟨ih, by simp, ?_⟩
      intro a ha b hb hab
      simp only [List.mem_singleton] at hb
      subst hb hab
      exact h (List.mem_eraseDups.mp ha)

end FirstOccurrences

/-! ## Outcomes -/

def AllHold (cs : List Condition) (l : Layout) : Prop := ∀ c ∈ cs, c.Holds l

instance (cs : List Condition) (l : Layout) : Decidable (AllHold cs l) :=
  List.decidableBAll (fun c : Condition => c.Holds l) cs

namespace Condition

def outcome (l : Layout) (c : Condition) : String × Bool := (c.render, decide (c.Holds l))

theorem render_injective : Function.Injective render := fun _ _ => eq_of_render_eq

end Condition

open Condition (outcome)

variable (cs : List Condition) (l : Layout)

/-- Setting an outcome again sets it to what it was. -/
theorem put_outcome (c : Condition) (seen : List Condition) :
    Fields.put c.render (decide (c.Holds l)) (seen.map (outcome l)) =
      (if c ∈ seen then seen else seen ++ [c]).map (outcome l) := by
  induction seen with
  | nil => rfl
  | cons d seen ih =>
    rw [List.map_cons, outcome, Fields.put]
    by_cases hcd : d = c
    · subst hcd
      simp [outcome]
    · -- another condition has another text, so its outcome stays
      have hrender : d.render ≠ c.render := fun h => hcd (Condition.render_injective h)
      rw [if_neg hrender, ih]
      by_cases hc : c ∈ seen
      · simp [hc, outcome]
      · simp [hc, Ne.symm hcd, outcome]

/-- What the loop keeps: the outcomes are those of the distinct conditions seen so far. -/
theorem outcomes_conditions (seen : List Condition) :
    Search.outcomes l (cs.map .condition) (seen.eraseDups.map (outcome l)) =
      .ok ((seen ++ cs).eraseDups.map (outcome l)) := by
  induction cs generalizing seen with
  | nil => simp [Search.outcomes]
  | cons c cs ih =>
    have hput : Fields.put c.render (decide (c.Holds l)) (seen.eraseDups.map (outcome l)) =
        (seen ++ [c]).eraseDups.map (outcome l) := by
      rw [put_outcome, eraseDups_concat]
      simp only [List.mem_eraseDups]
    have hstep : Search.outcomes l ((c :: cs).map .condition) (seen.eraseDups.map (outcome l)) =
        Search.outcomes l (cs.map .condition) ((seen ++ [c]).eraseDups.map (outcome l)) := by
      rw [← hput]
      rfl
    rw [hstep, ih, List.append_assoc]
    rfl

def verdict : Verdict := ⟨l.name, cs.eraseDups.map (outcome l)⟩

variable {cs l}

theorem evaluate_conditions {s : Search} (hs : s.criteria = cs.map .condition) :
    s.evaluate l = .ok (verdict cs l) := by
  have h := outcomes_conditions cs l []
  simp only [List.eraseDups_nil, List.map_nil, List.nil_append] at h
  rw [Search.evaluate, hs, h]
  rfl

theorem matched_verdict_iff : (verdict cs l).matched = true ↔ AllHold cs l := by
  simp [Verdict.matched, verdict, outcome, AllHold]

theorem lookup_outcome {seen : List Condition} {c : Condition} (h : c ∈ seen) :
    (seen.map (outcome l)).lookup c.render = some (decide (c.Holds l)) := by
  induction seen with
  | nil => simp at h
  | cons d seen ih =>
    by_cases hcd : c = d
    · subst hcd
      simp [outcome]
    · have hrender : (c.render == d.render) = false := by
        simpa using fun h => hcd (Condition.render_injective h)
      have hmem : c ∈ seen := (List.mem_cons.mp h).resolve_left hcd
      rw [List.map_cons, outcome, List.lookup_cons, hrender]
      exact ih hmem

theorem keys_verdict : (verdict cs l).outcomes.map Prod.fst = cs.eraseDups.map Condition.render := by
  simp [verdict, outcome]

theorem ofList?_conditions (hne : cs ≠ []) :
    ∃ s, Search.ofList? (cs.map .condition) = some s ∧ s.criteria = cs.map .condition := by
  obtain ⟨c, rest, rfl⟩ := List.exists_cons_of_ne_nil hne
  exact ⟨_, rfl, rfl⟩

/-- No outcome of the conditions `cs` on a layout is lost: each stands under its text, and there is
one key for each distinct condition, in the order of first occurrence. -/
structure Verdict.Records (v : Verdict) (cs : List Condition) (l : Layout) : Prop where
  layout : v.layout = l.name
  matched : v.matched = true ↔ ∀ c ∈ cs, c.Holds l
  outcome : ∀ c ∈ cs, v.outcomes.get? c.render = some (decide (c.Holds l))
  distinct : (v.outcomes.map Prod.fst).Nodup
  keys : v.outcomes.map Prod.fst = cs.eraseDups.map Condition.render

theorem verdict_records : (verdict cs l).Records cs l where
  layout := rfl
  matched := matched_verdict_iff
  outcome := fun _ hc => lookup_outcome (List.mem_eraseDups.mpr hc)
  distinct := by
    rw [keys_verdict]
    exact (nodup_eraseDups cs).map Condition.render_injective
  keys := keys_verdict

/-- Any conditions make a search, which has a verdict on every layout and loses no outcome. -/
theorem evaluate_keeps_outcomes (cs : List Condition) (hne : cs ≠ []) (l : Layout) :
    ∃ s v, Search.ofList? (cs.map .condition) = some s ∧ s.evaluate l = .ok v ∧
      v.Records cs l := by
  obtain ⟨s, hs, hcriteria⟩ := ofList?_conditions hne
  exact ⟨s, verdict cs l, hs, evaluate_conditions hcriteria, verdict_records⟩

/-- Names that look like the rest of a condition, one condition given twice. -/
theorem evaluate_keeps_outcomes_lookalike :
    let cs : List Condition := [⟨.entity "a = 1", .less, 1⟩, ⟨.entity "a", .equal, 1⟩,
      ⟨.entity "_unit cap", .equal, 0⟩, ⟨.room .deadEnd, .equal, 0⟩, ⟨.entity "a", .equal, 1⟩]
    let l : Layout := ⟨"SCx7", [⟨"A = 1", .null⟩], [⟨"item", .deadEnd⟩]⟩
    cs ≠ [] ∧ ∃ s v, Search.ofList? (cs.map .condition) = some s ∧ s.evaluate l = .ok v ∧
      v.Records cs l :=
  ⟨by decide, evaluate_keeps_outcomes _ (by decide) _⟩

end LayoutQuery

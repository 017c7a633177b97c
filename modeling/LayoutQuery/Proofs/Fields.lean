import LayoutQuery.Fields
import Mathlib.Tactic.SplitIfs

/-! # Fields by name
What a name stands for in fields that were set one after another: its last value. -/
namespace LayoutQuery

theorem mem_of_lookup {α β : Type} [BEq α] [LawfulBEq α] {a : α} {b : β} {pairs : List (α × β)}
    (h : pairs.lookup a = some b) : (a, b) ∈ pairs := by
  obtain ⟨front, rest, rfl, -⟩ := List.lookup_eq_some_iff.mp h
  exact List.mem_append_right front List.mem_cons_self

namespace Fields

variable {α : Type} (name : String)

theorem lookup_cons (first : String × α) (rest : List (String × α)) :
    (first :: rest).lookup name = if first.1 = name then some first.2 else rest.lookup name := by
  by_cases h : first.1 = name
  · rw [List.lookup_cons, beq_iff_eq.mpr h.symm, if_pos h]
  · rw [List.lookup_cons, beq_eq_false_iff_ne.mpr (Ne.symm h), if_neg h]

theorem get?_put (other : String) (value : α) (fields : Fields α) :
    (put other value fields).get? name = if other = name then some value else fields.get? name := by
  simp only [get?]
  induction fields with
  | nil => rw [put, lookup_cons]
  | cons first rest ih =>
    rw [put]
    by_cases hfirst : first.1 = other
    · rw [if_pos hfirst, lookup_cons, lookup_cons, hfirst]
      split_ifs <;> rfl
    · rw [if_neg hfirst, lookup_cons, lookup_cons, ih]
      by_cases h : first.1 = name
      · rw [if_pos h, if_pos h, if_neg fun hother => hfirst (h.trans hother.symm)]
      · rw [if_neg h, if_neg h]

theorem mem_put {name other : String} {value a : α} {fields : Fields α}
    (h : (name, a) ∈ put other value fields) : name = other ∧ a = value ∨ (name, a) ∈ fields := by
  induction fields with
  | nil => simpa [put] using h
  | cons first rest ih =>
    rw [put] at h
    split_ifs at h with hfirst
    · rcases List.mem_cons.mp h with heq | hrest
      · cases heq
        exact .inl ⟨hfirst, rfl⟩
      · exact .inr (List.mem_cons_of_mem first hrest)
    · rcases List.mem_cons.mp h with heq | hrest
      · exact .inr (List.mem_cons.mpr (.inl heq))
      · exact (ih hrest).imp_right (List.mem_cons_of_mem first)

theorem get?_foldl_put (pairs : List (String × α)) (done : Fields α) :
    (pairs.foldl (fun done p => put p.1 p.2 done) done).get? name =
      (pairs.reverse.lookup name).or (done.get? name) := by
  induction pairs generalizing done with
  | nil => rfl
  | cons pair rest ih =>
    rw [List.foldl_cons, ih, get?_put, List.reverse_cons, List.lookup_append, Option.or_assoc,
      lookup_cons]
    split_ifs <;> rfl

theorem get?_ofList (pairs : List (String × α)) :
    (ofList pairs).get? name = pairs.reverse.lookup name := by
  rw [ofList, get?_foldl_put]
  exact Option.or_none

end Fields

end LayoutQuery

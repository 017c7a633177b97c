import LayoutQuery.Matching
import Mathlib.Data.List.Basic

/-! # Counts
What a condition says of a layout is what its relation says of a count. Subjects with one target have
one count in every layout, and any two counts can be had of subjects with different targets. -/
namespace LayoutQuery

namespace Relation

/-- What a relation says of an observed count and an amount. -/
def Relates : Relation → Nat → Nat → Prop
  | .less, observed, amount => observed < amount
  | .equal, observed, amount => observed = amount
  | .greater, observed, amount => amount < observed

instance (r : Relation) (observed amount : Nat) : Decidable (r.Relates observed amount) := by
  cases r <;> unfold Relates <;> infer_instance

theorem compare_eq_iff {r : Relation} {observed amount : Nat} :
    compare observed amount = r ↔ r.Relates observed amount := by
  rcases Nat.lt_trichotomy observed amount with hless | rfl | hgreater
  · have hcompare : compare observed amount = .less := if_pos (Int.ofNat_lt.mpr hless)
    rw [hcompare]
    cases r <;> simp [Relates] <;> omega
  · have hcompare : compare observed observed = .equal := by simp [compare]
    rw [hcompare]
    cases r <;> simp [Relates]
  · have hcompare : compare observed amount = .greater := by
      simp only [compare, Int.ofNat_lt]
      rw [if_neg (by omega), if_pos hgreater]
    rw [hcompare]
    cases r <;> simp [Relates] <;> omega

theorem greater_iff_not_less {observed amount : Nat} :
    greater.Relates observed amount ↔ ¬ less.Relates observed (amount + 1) := by
  simp only [Relates]
  omega

end Relation

theorem Condition.holds_iff {c : Condition} {l : Layout} :
    c.Holds l ↔ c.relation.Relates (l.count c.subject) c.amount :=
  Relation.compare_eq_iff

namespace Subject

/-- Names that are alike, or one room type. -/
inductive SameTarget : Subject → Subject → Prop where
  | entity {name name' : String} : Text.Alike name name' → SameTarget (.entity name) (.entity name')
  | room (type : RoomType) : SameTarget (.room type) (.room type)

theorem SameTarget.refl (s : Subject) : s.SameTarget s := by
  cases s with
  | entity name => exact .entity rfl
  | room type => exact .room type

theorem SameTarget.symm {s s' : Subject} (h : s.SameTarget s') : s'.SameTarget s := by
  cases h with
  | entity halike => exact .entity (Eq.symm halike)
  | room type => exact .room type

end Subject

namespace Layout

variable {s s' : Subject}

/-- One layout with all that is in two. -/
def join (l m : Layout) : Layout := ⟨l.name, l.entities ++ m.entities, l.units ++ m.units⟩

theorem count_join (l m : Layout) (s : Subject) : (l.join m).count s = l.count s + m.count s := by
  cases s with
  | entity name => exact List.countP_append
  | room type => exact List.countP_append

theorem count_congr (h : s.SameTarget s') (l : Layout) : l.count s = l.count s' := by
  cases h with
  | entity halike =>
    apply List.countP_congr
    intro e _
    rw [decide_eq_true_eq, decide_eq_true_eq]
    exact ⟨fun h => Eq.trans h halike, fun h => Eq.trans h (Eq.symm halike)⟩
  | room type => rfl

/-- A layout that holds so many of a subject and nothing else. -/
def repeating (s : Subject) (n : Nat) : Layout :=
  match s with
  | .entity name => ⟨"", List.replicate n ⟨name, .null⟩, []⟩
  | .room type => ⟨"", [], List.replicate n ⟨"", type⟩⟩

theorem count_repeating_same (h : s.SameTarget s') (n : Nat) : (repeating s n).count s' = n := by
  cases h with
  | entity halike => simp [repeating, count, countEntities, List.countP_replicate, halike]
  | room type => simp [repeating, count, countRooms, List.countP_replicate]

theorem count_repeating_other (h : ¬ s.SameTarget s') (n : Nat) : (repeating s n).count s' = 0 := by
  cases s with
  | entity name =>
    cases s' with
    | entity name' =>
      have hother : ¬ Text.Alike name name' := fun halike => h (.entity halike)
      simp [repeating, count, countEntities, List.countP_replicate, hother]
    | room type => rfl
  | room type =>
    cases s' with
    | entity name => rfl
    | room type' =>
      have hother : type ≠ type' := by
        rintro rfl
        exact h (.room type)
      simp [repeating, count, countRooms, List.countP_replicate, hother]

/-- Nothing that is counted of one target bears on what is counted of another. -/
theorem exists_counts (h : ¬ s.SameTarget s') (m n : Nat) :
    ∃ l : Layout, l.count s = m ∧ l.count s' = n := by
  refine ⟨(repeating s m).join (repeating s' n), ?_, ?_⟩
  · have hother : (repeating s' n).count s = 0 := count_repeating_other (fun hback => h hback.symm) n
    rw [count_join, count_repeating_same (.refl s), hother, Nat.add_zero]
  · rw [count_join, count_repeating_other h, count_repeating_same (.refl s'), Nat.zero_add]

/-! ## Counts of multisets -/

variable {l m : Layout}

/-- The same entity names, in whatever order and letter case. -/
def SameNames (l m : Layout) : Prop :=
  (l.entities.map fun e => Text.fold e.name).Perm (m.entities.map fun e => Text.fold e.name)

/-- The same room types, in whatever order. -/
def SameRooms (l m : Layout) : Prop := (l.units.map (·.type)).Perm (m.units.map (·.type))

instance (l m : Layout) : Decidable (l.SameNames m) := inferInstanceAs (Decidable (List.Perm _ _))

instance (l m : Layout) : Decidable (l.SameRooms m) := inferInstanceAs (Decidable (List.Perm _ _))

/-- The two layouts are the same in what bears on a subject. -/
def SameFor (l m : Layout) : Subject → Prop
  | .entity _ => l.SameNames m
  | .room _ => l.SameRooms m

theorem countEntities_eq_count (l : Layout) (name : String) :
    l.countEntities name = (l.entities.map fun e => Text.fold e.name).count (Text.fold name) := by
  rw [List.count, List.countP_map]
  rfl

theorem countRooms_eq_count (l : Layout) (type : RoomType) :
    l.countRooms type = (l.units.map (·.type)).count type := by
  rw [List.count, List.countP_map]
  rfl

theorem count_of_sameFor (h : l.SameFor m s) : l.count s = m.count s := by
  cases s with
  | entity name =>
    have hnames : l.SameNames m := h
    rw [count, count, countEntities_eq_count, countEntities_eq_count]
    exact hnames.count_eq _
  | room type =>
    have hrooms : l.SameRooms m := h
    rw [count, count, countRooms_eq_count, countRooms_eq_count]
    exact hrooms.count_eq _

end Layout

end LayoutQuery

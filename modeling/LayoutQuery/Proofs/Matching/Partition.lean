import LayoutQuery.Proofs.Matching.Counts
import Mathlib.Algebra.BigOperators.Group.Finset.Basic
import Mathlib.Data.Set.Finite.Basic
import Mathlib.Data.Fintype.Defs

/-! # Counts add up
The classes of names that are alike share out the entities of a layout, and the room types its map
units: counts of one member of each class add up to all there is. -/
namespace LayoutQuery

open Text (Alike fold)

instance : Fintype RoomType where
  elems := {.room, .deadEnd, .hallway}
  complete type := by cases type <;> decide

/-- Each item of a list is counted once among distinct values that it is one of. -/
theorem sum_count_eq_length {α : Type} [DecidableEq α] {values : Finset α} {items : List α}
    (h : ∀ x ∈ items, x ∈ values) : ∑ x ∈ values, items.count x = items.length := by
  have hitems : ∀ x ∈ (items : Multiset α), x ∈ values := fun x hx => h x (Multiset.mem_coe.mp hx)
  simpa only [Multiset.coe_count, Multiset.coe_card] using Multiset.sum_count_eq_card hitems

namespace Layout

variable {names : Finset String} {name : String} (l m : Layout)

/-- One name of each class that entity names fall into, be it the name of an entity or not. -/
structure Represents (names : Finset String) : Prop where
  apart : ∀ n ∈ names, ∀ n' ∈ names, Alike n n' → n = n'
  covers : ∀ e ∈ l.entities, ∃ n ∈ names, Alike e.name n
  named : ∀ n ∈ names, ∃ e ∈ l.entities, Alike e.name n

/-- The classes of the entity names, one for each entity. -/
def foldedNames : List String := l.entities.map fun e => fold e.name

theorem mem_foldedNames_iff {s : String} : s ∈ l.foldedNames ↔ ∃ e ∈ l.entities, fold e.name = s :=
  List.mem_map

theorem exists_represents : ∃ names, l.Represents names := by
  have hsurjOn : Set.SurjOn fold {n | ∃ e ∈ l.entities, e.name = n} l.foldedNames.toFinset := by
    intro s hs
    obtain ⟨e, he, hfold⟩ := l.mem_foldedNames_iff.mp (List.mem_toFinset.mp hs)
    exact ⟨e.name, ⟨e, he, rfl⟩, hfold⟩
  obtain ⟨names, hsub, happart, himage⟩ := Finset.exists_subset_injOn_image_eq_of_surjOn _ _ hsurjOn
  refine ⟨names, fun n hn n' hn' halike => happart hn hn' halike, ?_, ?_⟩
  · intro e he
    have hmem : fold e.name ∈ names.image fold := by
      rw [himage, List.mem_toFinset]
      exact l.mem_foldedNames_iff.mpr ⟨e, he, rfl⟩
    obtain ⟨n, hn, hfold⟩ := Finset.mem_image.mp hmem
    exact ⟨n, hn, hfold.symm⟩
  · intro n hn
    obtain ⟨e, he, rfl⟩ := hsub hn
    exact ⟨e, he, rfl⟩

variable {l}

/-- The folded names represent their classes if folding leaves them as they are. -/
theorem represents_foldedNames (h : ∀ s ∈ l.foldedNames, fold s = s) :
    l.Represents l.foldedNames.toFinset where
  apart := by
    intro n hn n' hn' halike
    have hfold : fold n = fold n' := halike
    rwa [h n (List.mem_toFinset.mp hn), h n' (List.mem_toFinset.mp hn')] at hfold
  covers := by
    intro e he
    have hmem : fold e.name ∈ l.foldedNames := l.mem_foldedNames_iff.mpr ⟨e, he, rfl⟩
    exact ⟨fold e.name, List.mem_toFinset.mpr hmem, (h _ hmem).symm⟩
  named := by
    intro n hn
    have hmem : n ∈ l.foldedNames := List.mem_toFinset.mp hn
    obtain ⟨e, he, hfold⟩ := l.mem_foldedNames_iff.mp hmem
    exact ⟨e, he, hfold.trans (h n hmem).symm⟩

theorem countEntities_eq_zero_iff :
    l.countEntities name = 0 ↔ ∀ e ∈ l.entities, ¬ Alike e.name name := by
  simp [countEntities]

/-- A name is counted if and only if it is in the class of one of the representatives. -/
theorem Represents.countEntities_eq_zero_iff (h : l.Represents names) :
    l.countEntities name = 0 ↔ ∀ n ∈ names, ¬ Alike name n := by
  rw [Layout.countEntities_eq_zero_iff]
  constructor
  · intro hnone n hn halike
    obtain ⟨e, he, hname⟩ := h.named n hn
    exact hnone e he (Eq.trans hname (Eq.symm halike))
  · intro hnone e he halike
    obtain ⟨n, hn, hname⟩ := h.covers e he
    exact hnone n hn (Eq.trans (Eq.symm halike) hname)

theorem Represents.sum_countEntities (h : l.Represents names) :
    ∑ n ∈ names, l.countEntities n = l.entities.length := by
  have hinj : Set.InjOn fold names := fun n hn n' hn' hfold => h.apart n hn n' hn' hfold
  have hcovered : ∀ s ∈ l.foldedNames, s ∈ names.image fold := by
    intro s hs
    obtain ⟨e, he, rfl⟩ := l.mem_foldedNames_iff.mp hs
    obtain ⟨n, hn, hname⟩ := h.covers e he
    exact Finset.mem_image.mpr ⟨n, hn, Eq.symm hname⟩
  calc ∑ n ∈ names, l.countEntities n
      = ∑ n ∈ names, l.foldedNames.count (fold n) :=
        Finset.sum_congr rfl fun n _ => l.countEntities_eq_count n
    _ = ∑ s ∈ names.image fold, l.foldedNames.count s := by rw [Finset.sum_image hinj]
    _ = l.foldedNames.length := sum_count_eq_length hcovered
    _ = l.entities.length := List.length_map _

theorem sum_countRooms (l : Layout) : ∑ type, l.countRooms type = l.units.length :=
  calc ∑ type, l.countRooms type
      = ∑ type, (l.units.map (·.type)).count type :=
        Finset.sum_congr rfl fun type _ => l.countRooms_eq_count type
    _ = (l.units.map (·.type)).length :=
        sum_count_eq_length fun type _ => Finset.mem_univ type
    _ = l.units.length := List.length_map _

/-- Every entity is counted under one representative and under no name that is like none of them,
every map unit under one room type, and all that is in either of two layouts in their join. -/
theorem counts_partition (l m : Layout) :
    (∃ names, l.Represents names) ∧
    (∀ names, l.Represents names → ∑ n ∈ names, l.countEntities n = l.entities.length ∧
      ∀ name, l.countEntities name = 0 ↔ ∀ n ∈ names, ¬ Alike name n) ∧
    ∑ type, l.countRooms type = l.units.length ∧
    ∀ s, (l.join m).count s = l.count s + m.count s := by
  refine ⟨l.exists_represents, ?_, sum_countRooms l, count_join l m⟩
  intro names h
  exact ⟨h.sum_countEntities, fun name => h.countEntities_eq_zero_iff⟩

/-- Two classes of names in several spellings, not all of one length; neither representative is
itself the name of an entity. -/
theorem counts_partition_spellings :
    let l : Layout := ⟨"pier", [⟨"Stra\u00DFe", .null⟩, ⟨"\uFB01sh", .null⟩, ⟨"STRASSE", .null⟩,
      ⟨"FISH", .null⟩, ⟨"\uFB01\u017Fh", .null⟩], []⟩
    let names : Finset String := {"strasse", "fish"}
    l.Represents names ∧ ∑ n ∈ names, l.countEntities n = 5 ∧
      l.countEntities "stra\u00DFen" = 0 := by
  intro l names
  have hfolded : l.foldedNames = ["strasse", "fish", "strasse", "fish", "fish"] := by decide
  have hset : l.foldedNames.toFinset = names := by
    rw [hfolded]
    decide
  have hsame : ∀ n ∈ names, fold n = n := by decide
  have hnames : l.Represents names := by
    rw [← hset]
    exact represents_foldedNames fun s hs => hsame s (hset ▸ List.mem_toFinset.mpr hs)
  have hother : ∀ n ∈ names, ¬ Alike "stra\u00DFen" n := by
    intro n hn halike
    have hfold : fold "stra\u00DFen" = fold n := halike
    have hlonger : fold "stra\u00DFen" = "strassen" := by decide
    rw [hlonger, hsame n hn] at hfold
    exact absurd (hfold ▸ hn) (by decide)
  obtain ⟨hsum, hzero⟩ := (counts_partition l l).2.1 names hnames
  exact ⟨hnames, hsum, (hzero _).mpr hother⟩

end Layout

end LayoutQuery

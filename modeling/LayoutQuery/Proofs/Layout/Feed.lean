import LayoutQuery.Proofs.Layout.Pulls

/-! # Feeds without failures
Where every listed path leads to no file, or to one that can be loaded, a stream delivers the layouts
of the files in the order of their paths. -/
namespace LayoutQuery

/-- What a path brings to a list of layouts: itself and its layout, if a file is there. -/
def Tree.layoutAt (t : Tree) (p : Path) : Option (Path × Layout) :=
  match t.look p with
  | .ok (some (.file _)) => (Layout.load t p).toOption.map fun l => (p, l)
  | _ => none

/-- The files among some paths, each with the layout that is loaded from it. -/
def Tree.layouts (t : Tree) (paths : List Path) : List (Path × Layout) :=
  paths.filterMap t.layoutAt

/-- A path leads to no file, or to one that can be loaded. -/
def Tree.Serves (t : Tree) (p : Path) : Prop :=
  t.NoFile p ∨ ∃ bytes l, t.look p = .ok (some (.file bytes)) ∧ Layout.load t p = .ok l

variable {t : Tree} {p q : Path} {paths : List Path} {l : Layout}

theorem Tree.layoutAt_eq_some_iff : t.layoutAt p = some (q, l) ↔
    q = p ∧ (∃ bytes, t.look p = .ok (some (.file bytes))) ∧ Layout.load t p = .ok l := by
  rw [layoutAt]
  constructor
  · intro h
    split at h
    next bytes hlook =>
      cases hload : Layout.load t p with
      | error fault =>
        rw [hload] at h
        cases h
      | ok l' =>
        rw [hload] at h
        cases h
        exact ⟨rfl, ⟨bytes, hlook⟩, rfl⟩
    next => cases h
  · rintro ⟨rfl, ⟨bytes, hlook⟩, hload⟩
    rw [hlook, hload]
    rfl

theorem Tree.layoutAt_of_noFile (h : t.NoFile p) : t.layoutAt p = none := by
  rw [layoutAt]
  rcases h with hnone | hdirectory
  · rw [hnone]
  · rw [hdirectory]

theorem Tree.mem_layouts_iff : (p, l) ∈ t.layouts paths ↔
    p ∈ paths ∧ (∃ bytes, t.look p = .ok (some (.file bytes))) ∧ Layout.load t p = .ok l := by
  rw [layouts, List.mem_filterMap]
  constructor
  · rintro ⟨q, hq, hat⟩
    obtain ⟨rfl, hfile, hload⟩ := layoutAt_eq_some_iff.mp hat
    exact ⟨hq, hfile, hload⟩
  · rintro ⟨hp, hfile, hload⟩
    exact ⟨p, hp, layoutAt_eq_some_iff.mpr ⟨rfl, hfile, hload⟩⟩

theorem Tree.layouts_sublist (t : Tree) (paths : List Path) :
    ((t.layouts paths).map Prod.fst).Sublist paths := by
  induction paths with
  | nil => exact .slnil
  | cons p paths ih =>
    cases hat : t.layoutAt p with
    | none =>
      rw [layouts, List.filterMap_cons_none hat]
      exact ih.cons p
    | some f =>
      obtain ⟨rfl, -, -⟩ := layoutAt_eq_some_iff.mp hat
      rw [layouts, List.filterMap_cons_some hat]
      exact ih.cons_cons _

theorem Tree.layouts_cons (t : Tree) (p : Path) (rest : List Path) :
    (t.layouts (p :: rest)).map Prod.snd =
      (t.layouts [p]).map Prod.snd ++ (t.layouts rest).map Prod.snd := by
  rw [← List.map_append, layouts, layouts, layouts, ← List.filterMap_append]
  rfl

namespace LayoutStream

theorem deliver_of_noFile (h : t.NoFile p) : deliver t p = .ok none := by
  rcases deliver_cases t p with ⟨-, hdeliver⟩ | ⟨hturn, -⟩
  · exact hdeliver
  · exact absurd h hturn.not_noFile

theorem deliver_of_load {bytes : List UInt8} (hlook : t.look p = .ok (some (.file bytes)))
    (hload : Layout.load t p = .ok l) : deliver t p = .ok (some l) := by
  rw [deliver, hlook, hload]
  rfl

/-- A path that serves puts its layout in front of the others, if it is a file. -/
theorem feedOf_cons (h : t.Serves p) (rest : List Path) :
    feedOf t (p :: rest) = (feedOf t rest).prepend ((t.layouts [p]).map Prod.snd) := by
  rcases h with hno | ⟨bytes, l, hlook, hload⟩
  · rw [feedOf, deliver_of_noFile hno, Tree.layouts,
      List.filterMap_cons_none (Tree.layoutAt_of_noFile hno)]
    rfl
  · have hat : t.layoutAt p = some (p, l) :=
      Tree.layoutAt_eq_some_iff.mpr ⟨rfl, ⟨bytes, hlook⟩, hload⟩
    rw [feedOf, deliver_of_load hlook hload, Tree.layouts, List.filterMap_cons_some hat]
    rfl

/-- A stream that meets no failure delivers the layouts of the files. -/
theorem feedOf_layouts (h : ∀ p ∈ paths, t.Serves p) :
    feedOf t paths = Feed.ofList ((t.layouts paths).map Prod.snd) := by
  induction paths with
  | nil => rfl
  | cons p paths ih =>
    obtain ⟨hp, hrest⟩ := List.forall_mem_cons.mp h
    rw [feedOf_cons hp, ih hrest, t.layouts_cons p paths]
    rfl

end LayoutStream

end LayoutQuery

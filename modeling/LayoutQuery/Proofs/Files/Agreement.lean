import LayoutQuery.Layout.Stream
import LayoutQuery.Proofs.Files.Order
import Mathlib.Data.List.Sort

/-! # Trees that agree
A tree keeps its entries in the order in which they came to be. What is read, listed and selected
depends on the entry at each place only, since whatever is listed is sorted. -/
namespace LayoutQuery

namespace Path

variable {root : String} {paths paths' : List Path}

/-- Paths of one root are sorted to the one ascending list that has the same members. -/
theorem sorted_eq (hroot : ∀ q ∈ paths, q.root = root) (hascending : Ascending paths')
    (h : ∀ q, q ∈ paths ↔ q ∈ paths') : sorted paths = paths' := by
  have : Std.Irrefl Before := ⟨fun p hp => hp.ne rfl⟩
  have : Std.Antisymm Before := ⟨fun p q hpq hqp => absurd rfl (hpq.trans hqp).ne⟩
  apply (ascending_sorted hroot).eq_of_mem_iff hascending
  intro q
  rw [mem_sorted_iff, h]

theorem sorted_congr (hroot : ∀ q ∈ paths, q.root = root) (h : ∀ q, q ∈ paths ↔ q ∈ paths') :
    sorted paths = sorted paths' := by
  have hroot' : ∀ q ∈ paths', q.root = root := fun q hq => hroot q ((h q).mpr hq)
  apply sorted_eq hroot (ascending_sorted hroot')
  intro q
  rw [mem_sorted_iff, h]

end Path

namespace Tree

variable {t t' : Tree} {names : List String} {entry : Entry} {p : Path}

/-- No place is listed twice, so the entries listed are those that are found. -/
def Keyed (t : Tree) : Prop := (t.entries.map Prod.fst).Nodup

/-- The same entry at every place. -/
structure Agrees (t t' : Tree) : Prop where
  home : t.home = t'.home
  entryAt : ∀ names, t.entryAt names = t'.entryAt names
  keyed : t.Keyed
  keyed' : t'.Keyed

theorem mem_iff_lookup {entries : List (List String × Entry)} (h : (entries.map Prod.fst).Nodup) :
    (names, entry) ∈ entries ↔ entries.lookup names = some entry := by
  induction entries with
  | nil => simp
  | cons first rest ih =>
    obtain ⟨key, found⟩ := first
    obtain ⟨hkey, hrest⟩ := List.nodup_cons.mp h
    rw [List.lookup_cons]
    by_cases hnames : names = key
    · subst hnames
      have hnot : (names, entry) ∉ rest := fun hmem =>
        hkey (List.mem_map.mpr ⟨(names, entry), hmem, rfl⟩)
      simp [hnot, eq_comm]
    · have hbeq : (names == key) = false := beq_eq_false_iff_ne.mpr hnames
      rw [hbeq, ← ih hrest]
      simp [hnames]

theorem Keyed.mem_iff (h : t.Keyed) (hne : names ≠ []) :
    (names, entry) ∈ t.entries ↔ t.entryAt names = some entry := by
  rw [entryAt, if_neg hne]
  exact mem_iff_lookup h

theorem children_eq (h : t.locate p = .ok names) (keep : Entry → Bool) :
    t.children p keep = .ok (Path.sorted (t.entries.filterMap fun (key, entry) =>
      if key.dropLast = names ∧ keep entry then key.getLast?.map p.child else none)) := by
  rw [children, h]

theorem directoriesUnder_eq (h : t.locate p = .ok names) :
    t.directoriesUnder p = Path.sorted (p :: t.entries.filterMap fun (key, _) =>
      if names.isPrefixOf key ∧ key ≠ names ∧ t.entryAt key = some .directory then
        some { p with parts := p.parts ++ key.drop names.length }
      else none) := by
  rw [directoriesUnder, h]
  dsimp only
  rw [List.filterMap_map]
  rfl

namespace Agrees

theorem symm (h : t.Agrees t') : t'.Agrees t :=
  ⟨h.home.symm, fun names => (h.entryAt names).symm, h.keyed', h.keyed⟩

theorem mem_iff (h : t.Agrees t') (hne : names ≠ []) :
    (names, entry) ∈ t.entries ↔ (names, entry) ∈ t'.entries := by
  rw [h.keyed.mem_iff hne, h.keyed'.mem_iff hne, h.entryAt]

theorem walk (h : t.Agrees t') (names parts : List String) :
    t.walk names parts = t'.walk names parts := by
  induction parts generalizing names with
  | nil => rfl
  | cons part parts ih => simp only [Tree.walk, h.entryAt, ih]

theorem locate (h : t.Agrees t') (p : Path) : t.locate p = t'.locate p := by
  rw [Tree.locate, Tree.locate, start, start, h.home, h.walk]

theorem find (h : t.Agrees t') (p : Path) : t.find p = t'.find p := by
  simp only [Tree.find, h.locate, h.entryAt]

theorem look (h : t.Agrees t') (p : Path) : t.look p = t'.look p := by
  rw [Tree.look, Tree.look, h.find]

theorem read (h : t.Agrees t') (p : Path) : t.read p = t'.read p := by
  rw [Tree.read, Tree.read, h.find]

/-! ## What is listed -/

theorem mem_filterMap_of_mem (h : t.Agrees t') {β : Type} {f : List String × Entry → Option β}
    (hroot : ∀ e, f ([], e) = none) {b : β} (hb : b ∈ t.entries.filterMap f) :
    b ∈ t'.entries.filterMap f := by
  obtain ⟨⟨key, e⟩, hmem, hf⟩ := List.mem_filterMap.mp hb
  have hne : key ≠ [] := by
    rintro rfl
    rw [hroot e] at hf
    cases hf
  exact List.mem_filterMap.mpr ⟨(key, e), (h.mem_iff hne).mp hmem, hf⟩

/-- What is found among the entries below the root does not depend on their order. -/
theorem mem_filterMap (h : t.Agrees t') {β : Type} {f : List String × Entry → Option β}
    (hroot : ∀ e, f ([], e) = none) {b : β} :
    b ∈ t.entries.filterMap f ↔ b ∈ t'.entries.filterMap f :=
  ⟨h.mem_filterMap_of_mem hroot, h.symm.mem_filterMap_of_mem hroot⟩

theorem children (h : t.Agrees t') (p : Path) (keep : Entry → Bool) :
    t.children p keep = t'.children p keep := by
  cases hlocate : t.locate p with
  | error fault => rw [Tree.children, Tree.children, ← h.locate, hlocate]
  | ok names =>
    have hlisted := children_eq hlocate keep
    rw [hlisted, children_eq ((h.locate p).symm.trans hlocate) keep]
    apply congrArg Except.ok
    apply Path.sorted_congr
    · intro q hq
      exact root_of_children hlisted (Path.mem_sorted_iff.mpr hq)
    · intro q
      apply h.mem_filterMap
      intro e
      simp

theorem directoriesUnder (h : t.Agrees t') (p : Path) :
    t.directoriesUnder p = t'.directoriesUnder p := by
  cases hlocate : t.locate p with
  | error fault => rw [Tree.directoriesUnder, Tree.directoriesUnder, ← h.locate, hlocate]
  | ok names =>
    have hlisted := directoriesUnder_eq hlocate
    rw [hlisted, directoriesUnder_eq ((h.locate p).symm.trans hlocate)]
    apply Path.sorted_congr
    · intro q hq
      apply root_of_directoriesUnder (t := t)
      rw [hlisted]
      exact Path.mem_sorted_iff.mpr hq
    · intro q
      simp only [List.mem_cons, h.entryAt]
      apply or_congr Iff.rfl
      apply h.mem_filterMap
      intro e
      -- the root is below no directory
      have hroot : ¬ (names.isPrefixOf [] ∧ [] ≠ names ∧ t'.entryAt [] = some .directory) := by
        rintro ⟨hbelow, hne, -⟩
        cases names with
        | nil => exact hne rfl
        | cons name names => cases hbelow
      exact if_neg hroot

end Agrees

end Tree

variable {t t' : Tree}

namespace Glob

theorem follow_congr (h : t.Agrees t') (steps : List GlobStep) (p : Path) :
    follow t steps p = follow t' steps p := by
  induction steps generalizing p with
  | nil => rfl
  | cons step rest ih =>
    have hrest : follow t rest = follow t' rest := funext ih
    cases step with
    | here => rfl
    | name name => simp only [follow, h.look, hrest]
    | wild pattern => simp only [follow, h.children, hrest]
    | descend => simp only [follow, h.directoriesUnder, h.look, hrest]

theorem select_congr (h : t.Agrees t') (g : Glob) (directory : Path) :
    g.select t directory = g.select t' directory := by
  simp only [select, h.look, follow_congr h]

end Glob

namespace LayoutStream

theorem paths_congr (h : t.Agrees t') (s : LayoutStream) : s.paths t = s.paths t' := by
  cases s with
  | unopened directory pattern => simp only [paths, Glob.select_congr h]
  | listed rest => rfl

theorem deliver_congr (h : t.Agrees t') (p : Path) : deliver t p = deliver t' p := by
  simp only [deliver, Layout.load, h.look, h.read]

theorem feedOf_congr (h : t.Agrees t') (paths : List Path) : feedOf t paths = feedOf t' paths := by
  induction paths with
  | nil => rfl
  | cons p paths ih => simp only [feedOf, deliver_congr h, ih]

/-- A stream delivers the same from trees that agree. -/
theorem feed_congr (h : t.Agrees t') (s : LayoutStream) : s.feed t = s.feed t' := by
  simp only [feed, paths_congr h, feedOf_congr h]

end LayoutStream

end LayoutQuery

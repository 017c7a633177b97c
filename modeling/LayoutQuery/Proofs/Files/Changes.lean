import LayoutQuery.Proofs.Files.Agreement
import Mathlib.Data.List.Infix

/-! # Changes of a tree
What a tree holds behind a change, and what it takes for the change to succeed: a directory is made
where no file is in the way, a file is written where no directory is. -/
namespace LayoutQuery

/-- The places that the parts lead to, one after the other. -/
def trail (names : List String) : List String → List (List String)
  | [] => []
  | part :: rest => stepTo names part :: trail (stepTo names part) rest

/-- A path that a file can have. -/
structure Path.Nameable (p : Path) : Prop where
  null : p.parts.any (·.toList.contains '\x00') = false
  size : p.toString.utf8ByteSize < Tree.pathLimit
  names : ∀ part ∈ p.parts, part.utf8ByteSize ≤ Tree.nameLimit

namespace Tree

variable {t t' : Tree} {names parts k place : List String} {entry e : Entry} {p : Path}

/-! ## Single entries -/

theorem entryAt_root (t : Tree) : t.entryAt [] = some .directory := rfl

theorem ne_nil_of_entryAt (h : t.entryAt k = none) : k ≠ [] := by
  rintro rfl
  cases h

theorem lookup_filter_ne {entries : List (List String × Entry)} (h : k ≠ names) :
    (entries.filter fun e => e.1 ≠ names).lookup k = entries.lookup k := by
  induction entries with
  | nil => rfl
  | cons first rest ih =>
    obtain ⟨key, found⟩ := first
    by_cases hkey : key = names
    · have hbeq : (k == key) = false := beq_eq_false_iff_ne.mpr (by rwa [hkey])
      rw [List.filter_cons_of_neg (by simpa using hkey), ih, List.lookup_cons, hbeq]
    · rw [List.filter_cons_of_pos (by simpa using hkey), List.lookup_cons, List.lookup_cons, ih]

theorem entryAt_put_same (hne : names ≠ []) : (t.put names entry).entryAt names = some entry := by
  rw [entryAt, if_neg hne]
  exact List.lookup_cons_self

theorem entryAt_put_other (h : k ≠ names) : (t.put names entry).entryAt k = t.entryAt k := by
  have hbeq : (k == names) = false := beq_eq_false_iff_ne.mpr h
  have hlookup : (t.put names entry).entries.lookup k = t.entries.lookup k := by
    rw [put, List.lookup_cons, hbeq]
    exact lookup_filter_ne h
  rw [entryAt, entryAt, hlookup]

theorem Keyed.put (h : t.Keyed) (names : List String) (entry : Entry) :
    (t.put names entry).Keyed := by
  apply List.nodup_cons.mpr
  constructor
  · intro hmem
    obtain ⟨e, he, hnames⟩ := List.mem_map.mp hmem
    have hother := (List.mem_filter.mp he).2
    simp [hnames] at hother
  · exact (List.filter_sublist.map _).nodup h

/-! ## The working directory -/

theorem mem_chain : (k, e) ∈ chain names parts ↔
    e = .directory ∧ ∃ q, q ≠ [] ∧ q <+: parts ∧ k = names ++ q := by
  induction parts generalizing names with
  | nil =>
    constructor
    · intro h
      cases h
    · rintro ⟨-, q, hne, hq, -⟩
      exact absurd (List.prefix_nil.mp hq) hne
  | cons part rest ih =>
    rw [chain, List.mem_cons, Prod.mk.injEq, ih]
    constructor
    · rintro (⟨rfl, rfl⟩ | ⟨rfl, q, -, hq, rfl⟩)
      · exact ⟨rfl, [part], List.cons_ne_nil part [], ⟨rest, rfl⟩, rfl⟩
      · refine ⟨rfl, part :: q, List.cons_ne_nil part q, ?_, List.append_assoc names [part] q⟩
        exact List.cons_prefix_cons.mpr ⟨rfl, hq⟩
    · rintro ⟨rfl, q, hne, hq, rfl⟩
      obtain ⟨first, q, rfl⟩ := List.exists_cons_of_ne_nil hne
      obtain ⟨rfl, hrest⟩ := List.cons_prefix_cons.mp hq
      cases q with
      | nil => exact .inl ⟨rfl, rfl⟩
      | cons second q =>
        exact .inr ⟨rfl, second :: q, List.cons_ne_nil second q, hrest,
          (List.append_assoc names [first] (second :: q)).symm⟩

theorem nodup_chain (names parts : List String) : ((chain names parts).map Prod.fst).Nodup := by
  induction parts generalizing names with
  | nil => exact List.nodup_nil
  | cons part rest ih =>
    refine List.nodup_cons.mpr ⟨?_, ih (names ++ [part])⟩
    intro hmem
    obtain ⟨⟨key, e⟩, he, hkey⟩ := List.mem_map.mp hmem
    obtain ⟨-, q, hne, -, hq⟩ := mem_chain.mp he
    exact hne (List.append_right_eq_self.mp (hq.symm.trans hkey))

theorem keyed_bare (home : List String) : (bare home).Keyed := nodup_chain [] home

theorem entryAt_bare {home : List String} :
    (bare home).entryAt k = some e ↔ k <+: home ∧ e = .directory := by
  by_cases hk : k = []
  · subst hk
    simp [entryAt_root, eq_comm]
  · rw [← (keyed_bare home).mem_iff hk, bare, mem_chain]
    constructor
    · rintro ⟨rfl, q, -, hq, rfl⟩
      exact ⟨hq, rfl⟩
    · rintro ⟨hq, rfl⟩
      exact ⟨rfl, k, hk, hq, rfl⟩

/-! ## Making directories and files -/

/-- The later tree holds what the earlier one held, and `made`. -/
structure Gains (t t' : Tree) (made : List String → Entry → Prop) : Prop where
  home : t'.home = t.home
  keyed : t.Keyed → t'.Keyed
  entryAt : ∀ k e, t'.entryAt k = some e ↔ t.entryAt k = some e ∨ made k e

theorem Gains.trans {t₁ : Tree} {made made' : List String → Entry → Prop} (h : t.Gains t₁ made)
    (h' : t₁.Gains t' made') : t.Gains t' (fun k e => made k e ∨ made' k e) where
  home := h'.home.trans h.home
  keyed := fun hkeyed => h'.keyed (h.keyed hkeyed)
  entryAt := fun k e => by rw [h'.entryAt, h.entryAt, or_assoc]

theorem Gains.congr {made made' : List String → Entry → Prop} (h : t.Gains t' made)
    (hmade : ∀ k e, made k e ↔ made' k e) : t.Gains t' made' where
  home := h.home
  keyed := h.keyed
  entryAt := fun k e => by rw [h.entryAt, hmade]

/-- What is put where nothing was, or the same again, leaves all else as it was. -/
theorem put_gains (hne : names ≠ []) (hsame : ∀ e, t.entryAt names = some e → e = entry) :
    t.Gains (t.put names entry) (fun k e => k = names ∧ e = entry) where
  home := rfl
  keyed := fun hkeyed => hkeyed.put names entry
  entryAt := by
    intro k e
    by_cases hk : k = names
    · subst hk
      rw [entryAt_put_same hne, Option.some.injEq]
      constructor
      · intro h
        exact .inr ⟨rfl, h.symm⟩
      · rintro (hold | ⟨-, rfl⟩)
        · exact (hsame e hold).symm
        · rfl
    · rw [entryAt_put_other hk]
      simp [hk]

theorem makeDirectories_gains (h : t.makeDirectories names parts = .ok t') :
    t.Gains t' (fun k e => k ∈ trail names parts ∧ e = .directory) := by
  induction parts generalizing t names with
  | nil =>
    cases h
    exact ⟨rfl, id, by simp [trail]⟩
  | cons part rest ih =>
    rw [makeDirectories] at h
    cases hnext : t.entryAt (stepTo names part) with
    | none =>
      rw [hnext] at h
      have hput : t.Gains (t.put (stepTo names part) .directory) _ :=
        put_gains (ne_nil_of_entryAt hnext) (by simp [hnext])
      refine (hput.trans (ih h)).congr ?_
      intro k e
      rw [trail, List.mem_cons, or_and_right]
    | some found =>
      rw [hnext] at h
      cases found with
      | file bytes => cases h
      | directory =>
        have hrest := ih h
        refine ⟨hrest.home, hrest.keyed, ?_⟩
        intro k e
        rw [hrest.entryAt, trail, List.mem_cons]
        constructor
        · rintro (hold | ⟨hk, rfl⟩)
          · exact .inl hold
          · exact .inr ⟨.inr hk, rfl⟩
        · rintro (hold | ⟨rfl | hk, rfl⟩)
          · exact .inl hold
          · exact .inl hnext
          · exact .inr ⟨hk, rfl⟩

/-- Directories can be made where no file is in the way. -/
theorem exists_makeDirectories
    (h : ∀ k ∈ trail names parts, ∀ bytes, t.entryAt k ≠ some (.file bytes)) :
    ∃ t', t.makeDirectories names parts = .ok t' := by
  induction parts generalizing t names with
  | nil => exact ⟨t, rfl⟩
  | cons part rest ih =>
    have hnext := h _ List.mem_cons_self
    have hrest : ∀ k ∈ trail (stepTo names part) rest, ∀ bytes, t.entryAt k ≠ some (.file bytes) :=
      fun k hk => h k (List.mem_cons_of_mem _ hk)
    rw [makeDirectories]
    cases hfound : t.entryAt (stepTo names part) with
    | none =>
      apply ih
      intro k hk bytes
      by_cases hsame : k = stepTo names part
      · subst hsame
        rw [entryAt_put_same (ne_nil_of_entryAt hfound)]
        simp
      · rw [entryAt_put_other hsame]
        exact hrest k hk bytes
    | some found =>
      cases found with
      | file bytes => exact absurd hfound (hnext bytes)
      | directory => exact ih hrest

/-- From a directory, a walk leads to the last place if all places before it are directories. -/
theorem walk_eq_ok_iff (hstart : t.entryAt names = some .directory) :
    t.walk names parts = .ok place ↔
      (∀ part ∈ parts, part.utf8ByteSize ≤ nameLimit) ∧
        (∀ k ∈ trail names parts.dropLast, t.entryAt k = some .directory) ∧
        parts.foldl stepTo names = place := by
  induction parts generalizing names with
  | nil => simp [walk, trail]
  | cons part rest ih =>
    rw [walk, hstart]
    dsimp only
    by_cases hlong : nameLimit < part.utf8ByteSize
    · rw [if_pos hlong]
      constructor
      · intro h
        cases h
      · rintro ⟨hsizes, -⟩
        exact absurd (hsizes part List.mem_cons_self) (Nat.not_le.mpr hlong)
    · rw [if_neg hlong, List.foldl_cons]
      cases rest with
      | nil => simp [walk, trail, Nat.not_lt.mp hlong]
      | cons next rest =>
        rw [List.dropLast_cons_cons, trail]
        by_cases hnext : t.entryAt (stepTo names part) = some .directory
        · rw [ih hnext]
          simp [Nat.not_lt.mp hlong, hnext]
        · have hstuck : t.walk (stepTo names part) (next :: rest) ≠ .ok place := by
            rw [walk]
            cases hfound : t.entryAt (stepTo names part) with
            | none =>
              intro h
              cases h
            | some found =>
              cases found with
              | file bytes =>
                intro h
                cases h
              | directory => exact absurd hfound hnext
          constructor
          · intro h
            exact absurd h hstuck
          · rintro ⟨-, hall, -⟩
            exact absurd (hall _ List.mem_cons_self) hnext

theorem locate_eq_ok_iff (hstart : t.entryAt (t.start p) = some .directory) :
    t.locate p = .ok place ↔ p.Nameable ∧
      (∀ k ∈ trail (t.start p) p.parts.dropLast, t.entryAt k = some .directory) ∧
        p.parts.foldl stepTo (t.start p) = place := by
  rw [locate]
  split_ifs with hnull hlong
  · constructor
    · intro h
      cases h
    · rintro ⟨hname, -⟩
      exact absurd hnull (by rw [hname.null]; exact Bool.false_ne_true)
  · constructor
    · intro h
      cases h
    · rintro ⟨hname, -⟩
      exact absurd hname.size (Nat.not_lt.mpr hlong)
  · rw [walk_eq_ok_iff hstart]
    constructor
    · rintro ⟨hsizes, hall, hplace⟩
      exact ⟨⟨Bool.eq_false_iff.mpr hnull, Nat.not_le.mp hlong, hsizes⟩, hall, hplace⟩
    · rintro ⟨hname, hall, hplace⟩
      exact ⟨hname.names, hall, hplace⟩

/-- A file is written behind directories that can be made, to a place that is no directory. -/
theorem write_eq_ok_iff {bytes : List UInt8} (hstart : t.entryAt (t.start p) = some .directory) :
    t.write p bytes = .ok t' ↔ ∃ t₁, t.makeDirectories (t.start p) p.parts.dropLast = .ok t₁ ∧
      p.Nameable ∧ t₁.entryAt (p.parts.foldl stepTo (t.start p)) ≠ some .directory ∧
        t' = t₁.put (p.parts.foldl stepTo (t.start p)) (.file bytes) := by
  rw [write, bind_eq_ok_iff]
  apply exists_congr
  intro t₁
  apply and_congr_right
  intro hmade
  have hgains := makeDirectories_gains hmade
  have hsame : t₁.start p = t.start p := by rw [start, start, hgains.home]
  have hstart₁ : t₁.entryAt (t₁.start p) = some .directory := by
    rw [hsame]
    exact (hgains.entryAt _ _).mpr (.inl hstart)
  have hway : ∀ k ∈ trail (t.start p) p.parts.dropLast, t₁.entryAt k = some .directory :=
    fun k hk => (hgains.entryAt _ _).mpr (.inr ⟨hk, rfl⟩)
  rw [bind_eq_ok_iff]
  constructor
  · rintro ⟨place, hlocate, hput⟩
    obtain ⟨hname, -, rfl⟩ := (locate_eq_ok_iff hstart₁).mp hlocate
    rw [hsame] at hput
    split at hput
    next => cases hput
    next hfree =>
      cases hput
      exact ⟨hname, hfree, rfl⟩
  · rintro ⟨hname, hfree, rfl⟩
    refine ⟨_, (locate_eq_ok_iff hstart₁).mpr ⟨hname, ?_, rfl⟩, ?_⟩
    · rw [hsame]
      exact hway
    · rw [hsame]
      split
      next hdirectory => exact absurd hdirectory hfree
      next => rfl

/-- A file that is written adds itself and the directories on the way. -/
theorem write_gains {bytes : List UInt8} (hstart : t.entryAt (t.start p) = some .directory)
    (hsame : ∀ bytes', t.entryAt (p.parts.foldl stepTo (t.start p)) = some (.file bytes') →
      bytes' = bytes) (h : t.write p bytes = .ok t') :
    t.Gains t' (fun k e => k ∈ trail (t.start p) p.parts.dropLast ∧ e = .directory ∨
      k = p.parts.foldl stepTo (t.start p) ∧ e = .file bytes) := by
  obtain ⟨t₁, hmade, -, hfree, rfl⟩ := (write_eq_ok_iff hstart).mp h
  have hgains := makeDirectories_gains hmade
  refine hgains.trans (put_gains ?_ ?_)
  · intro hroot
    exact hfree (by rw [hroot]; rfl)
  · intro e he
    cases e with
    | directory => exact absurd he hfree
    | file bytes' =>
      rcases (hgains.entryAt _ _).mp he with hold | ⟨-, hfile⟩
      · rw [hsame bytes' hold]
      · cases hfile

end Tree

end LayoutQuery

import LayoutQuery.Proofs.Files.Changes

/-! # Creation
Files and directories are made one after the other, each with the directories on the way to it. The
tree then holds what each item says by itself, so another order makes a tree that agrees. -/
namespace LayoutQuery

/-- What is to be made at a path: a file with its content, or a directory. -/
structure Item where
  path : Path
  entry : Entry
  deriving DecidableEq, Repr

namespace Item

/-- The parts that lead to directories. -/
def folders (i : Item) : List String :=
  match i.entry with
  | .file _ => i.path.parts.dropLast
  | .directory => i.path.parts

def start (home : List String) (i : Item) : List String := if i.path.root = "" then home else []

def place (home : List String) (i : Item) : List String := i.path.parts.foldl stepTo (i.start home)

/-- What a tree holds on account of an item. -/
inductive Makes (home : List String) (i : Item) : List String → Entry → Prop where
  | directory {names : List String} : names ∈ trail (i.start home) i.folders →
      Makes home i names .directory
  | file {bytes : List UInt8} : i.entry = .file bytes → Makes home i (i.place home) (.file bytes)

variable {home names : List String} {i : Item} {e : Entry}

theorem makes_directory_iff (h : i.entry = .directory) :
    i.Makes home names e ↔ names ∈ trail (i.start home) i.path.parts ∧ e = .directory := by
  have hfolders : i.folders = i.path.parts := by rw [folders, h]
  rw [← hfolders]
  constructor
  · rintro (hnames | hfile)
    · exact ⟨hnames, rfl⟩
    · cases h.symm.trans hfile
  · rintro ⟨hnames, rfl⟩
    exact .directory hnames

theorem makes_file_iff {bytes : List UInt8} (h : i.entry = .file bytes) :
    i.Makes home names e ↔ names ∈ trail (i.start home) i.path.parts.dropLast ∧ e = .directory ∨
      names = i.place home ∧ e = .file bytes := by
  have hfolders : i.folders = i.path.parts.dropLast := by rw [folders, h]
  rw [← hfolders]
  constructor
  · rintro (hnames | hfile)
    · exact .inl ⟨hnames, rfl⟩
    · cases h.symm.trans hfile
      exact .inr ⟨rfl, rfl⟩
  · rintro (⟨hnames, rfl⟩ | ⟨rfl, rfl⟩)
    · exact .directory hnames
    · exact .file h

end Item

/-- What a tree holds when the items are made: the working directory, and what each item makes. -/
inductive Planned (home : List String) (items : List Item) (names : List String) :
    Entry → Prop where
  | home : names <+: home → Planned home items names .directory
  | item {i : Item} {entry : Entry} : i ∈ items → i.Makes home names entry →
      Planned home items names entry

theorem Planned.mono {home names : List String} {items items' : List Item} {entry : Entry}
    (hsub : items ⊆ items') (h : Planned home items names entry) :
    Planned home items' names entry := by
  cases h with
  | home hhome => exact .home hhome
  | item hi hmakes => exact .item (hsub hi) hmakes

namespace Tree

def create (t : Tree) (i : Item) : Except FileFault Tree :=
  match i.entry with
  | .file bytes => t.write i.path bytes
  | .directory => t.makeDirectory i.path

def createAll (t : Tree) : List Item → Except FileFault Tree
  | [] => .ok t
  | i :: rest => do (← t.create i).createAll rest

variable {t t' : Tree} {i : Item} {home names : List String} {entry : Entry}
  {done items items' : List Item}

/-! ## One item -/

/-- An item that is made adds what it says. -/
theorem create_gains (hstart : t.entryAt (i.start t.home) = some .directory)
    (hsame : ∀ bytes bytes', i.entry = .file bytes →
      t.entryAt (i.place t.home) = some (.file bytes') → bytes' = bytes)
    (h : t.create i = .ok t') : t.Gains t' (i.Makes t.home) := by
  cases hentry : i.entry with
  | directory =>
    rw [create, hentry] at h
    exact (makeDirectories_gains h).congr fun k e => (Item.makes_directory_iff hentry).symm
  | file bytes =>
    rw [create, hentry] at h
    exact (write_gains hstart (fun bytes' => hsame bytes bytes' hentry) h).congr
      fun k e => (Item.makes_file_iff hentry).symm

theorem nameable_of_create (hstart : t.entryAt (i.start t.home) = some .directory)
    (h : t.create i = .ok t') {bytes : List UInt8} (hentry : i.entry = .file bytes) :
    i.path.Nameable := by
  rw [create, hentry] at h
  obtain ⟨t₁, -, hname, -⟩ := (write_eq_ok_iff hstart).mp h
  exact hname

/-- An item can be made if nothing is in its way, neither in the tree nor by itself. -/
theorem exists_create (hstart : t.entryAt (i.start t.home) = some .directory)
    (hfree : ∀ k e e', t.entryAt k = some e → i.Makes t.home k e' → e = e')
    (hself : ∀ k e e', i.Makes t.home k e → i.Makes t.home k e' → e = e')
    (hname : ∀ bytes, i.entry = .file bytes → i.path.Nameable) : ∃ t', t.create i = .ok t' := by
  have hway : ∀ k ∈ trail (t.start i.path) i.folders, ∀ bytes, t.entryAt k ≠ some (.file bytes) := by
    intro k hk bytes hfile
    cases hfree k _ _ hfile (.directory hk)
  obtain ⟨t₁, hmade⟩ := exists_makeDirectories hway
  cases hentry : i.entry with
  | directory =>
    rw [Item.folders, hentry] at hmade
    refine ⟨t₁, ?_⟩
    rw [create, hentry]
    exact hmade
  | file bytes =>
    have hgains := makeDirectories_gains hmade
    rw [Item.folders, hentry] at hmade
    rw [create, hentry]
    refine ⟨_, (write_eq_ok_iff hstart).mpr ⟨t₁, hmade, hname bytes hentry, ?_, rfl⟩⟩
    intro hdirectory
    rcases (hgains.entryAt _ _).mp hdirectory with hold | ⟨hk, -⟩
    · cases hfree _ _ _ hold (.file hentry)
    · cases hself _ _ _ (.directory hk) (.file hentry)

/-! ## All items -/

theorem planned_concat : Planned home (done ++ [i]) names entry ↔
    Planned home done names entry ∨ i.Makes home names entry := by
  constructor
  · rintro (hhome | ⟨hj, hmakes⟩)
    · exact .inl (.home hhome)
    · rcases List.mem_append.mp hj with hj | hj
      · exact .inl (.item hj hmakes)
      · rw [List.mem_singleton.mp hj] at hmakes
        exact .inr hmakes
  · rintro (hold | hmakes)
    · exact hold.mono (List.subset_append_left done [i])
    · exact .item (List.mem_append_right done (List.mem_singleton_self i)) hmakes

/-- The tree holds what the items that are done say, and nothing else. -/
structure Built (home : List String) (done : List Item) (t : Tree) : Prop where
  home_eq : t.home = home
  keyed : t.Keyed
  entryAt : ∀ k e, t.entryAt k = some e ↔ Planned home done k e

theorem built_bare (home : List String) : Built home [] (bare home) where
  home_eq := rfl
  keyed := keyed_bare home
  entryAt := by
    intro k e
    rw [entryAt_bare]
    constructor
    · rintro ⟨hk, rfl⟩
      exact .home hk
    · rintro (hk | ⟨hj, -⟩)
      · exact ⟨hk, rfl⟩
      · cases hj

theorem Built.start (hb : Built home done t) (i : Item) :
    t.entryAt (i.start t.home) = some .directory := by
  refine (hb.entryAt _ _).mpr (.home ?_)
  rw [Item.start, hb.home_eq]
  split_ifs
  · exact List.prefix_rfl
  · exact List.nil_prefix

theorem Built.gains (hb : Built home done t) (h : t.Gains t' (i.Makes t.home)) :
    Built home (done ++ [i]) t' where
  home_eq := h.home.trans hb.home_eq
  keyed := h.keyed hb.keyed
  entryAt := fun k e => by rw [h.entryAt, hb.entryAt, hb.home_eq, planned_concat]

/-- Items that are all made say all that the tree holds. -/
theorem Built.createAll (hb : Built home done t)
    (hsame : ∀ i ∈ done ++ items, ∀ j ∈ done ++ items,
      i.place home = j.place home → i.entry = j.entry)
    (h : t.createAll items = .ok t') : Built home (done ++ items) t' ∧
      ∀ i ∈ items, ∀ bytes, i.entry = .file bytes → i.path.Nameable := by
  induction items generalizing done t with
  | nil =>
    cases h
    rw [List.append_nil]
    exact ⟨hb, nofun⟩
  | cons i items ih =>
    obtain ⟨t₁, hcreate, hrest⟩ := bind_eq_ok_iff.mp h
    have hi : i ∈ done ++ i :: items := List.mem_append_right done List.mem_cons_self
    have hagain : ∀ bytes bytes', i.entry = .file bytes →
        t.entryAt (i.place t.home) = some (.file bytes') → bytes' = bytes := by
      intro bytes bytes' hentry hold
      rw [hb.home_eq] at hold
      generalize hplace : i.place home = place at hold
      generalize hfile : Entry.file bytes' = found at hold
      cases (hb.entryAt _ _).mp hold with
      | home => cases hfile
      | @item j _ hj hmakes =>
        cases hmakes with
        | directory => cases hfile
        | file hother =>
          cases hfile
          have hboth := hsame i hi j (List.mem_append_left _ hj) hplace
          rw [hentry, hother] at hboth
          cases hboth
          rfl
    have hgains := create_gains (hb.start i) hagain hcreate
    have hall : done ++ [i] ++ items = done ++ i :: items := List.append_assoc done [i] items
    rw [← hall] at hsame ⊢
    obtain ⟨hbuilt, hnames⟩ := ih (hb.gains hgains) hsame hrest
    refine ⟨hbuilt, ?_⟩
    intro j hj
    rcases List.mem_cons.mp hj with rfl | hj
    · intro bytes
      exact nameable_of_create (hb.start j) hcreate
    · exact hnames j hj

/-- Items of which no two say different things of one place can all be made. -/
theorem Built.exists_createAll (hb : Built home done t)
    (hone : ∀ k e e', Planned home (done ++ items) k e → Planned home (done ++ items) k e' → e = e')
    (hname : ∀ i ∈ items, ∀ bytes, i.entry = .file bytes → i.path.Nameable) :
    ∃ t', t.createAll items = .ok t' ∧ Built home (done ++ items) t' := by
  induction items generalizing done t with
  | nil =>
    rw [List.append_nil]
    exact ⟨t, rfl, hb⟩
  | cons i items ih =>
    have hnew : ∀ {k e}, i.Makes t.home k e → Planned home (done ++ i :: items) k e := by
      intro k e hmakes
      rw [hb.home_eq] at hmakes
      exact .item (List.mem_append_right done List.mem_cons_self) hmakes
    have hold : ∀ {k e}, t.entryAt k = some e → Planned home (done ++ i :: items) k e := by
      intro k e he
      exact ((hb.entryAt k e).mp he).mono (List.subset_append_left done (i :: items))
    obtain ⟨t₁, hcreate⟩ := exists_create (hb.start i)
      (fun k e e' he hmakes => hone k e e' (hold he) (hnew hmakes))
      (fun k e e' hmakes hmakes' => hone k e e' (hnew hmakes) (hnew hmakes'))
      (hname i List.mem_cons_self)
    have hagain : ∀ bytes bytes', i.entry = .file bytes →
        t.entryAt (i.place t.home) = some (.file bytes') → bytes' = bytes := by
      intro bytes bytes' hentry he
      cases hone _ _ _ (hold he) (hnew (.file hentry))
      rfl
    have hgains := create_gains (hb.start i) hagain hcreate
    have hall : done ++ [i] ++ items = done ++ i :: items := List.append_assoc done [i] items
    rw [← hall] at hone ⊢
    obtain ⟨t', hrest, hbuilt⟩ := ih (hb.gains hgains) hone
      fun j hj => hname j (List.mem_cons_of_mem i hj)
    exact ⟨t', bind_eq_ok_iff.mpr ⟨t₁, hcreate, hrest⟩, hbuilt⟩

theorem Built.agrees (hb : Built home items t) (hb' : Built home items' t')
    (hsub : items ⊆ items') (hsub' : items' ⊆ items) : t.Agrees t' where
  home := hb.home_eq.trans hb'.home_eq.symm
  keyed := hb.keyed
  keyed' := hb'.keyed
  entryAt := by
    intro names
    apply Option.ext
    intro e
    rw [hb.entryAt, hb'.entryAt]
    exact ⟨Planned.mono hsub, Planned.mono hsub'⟩

/-- Where items can be made in one order, they can be made in every order, and the trees agree. -/
theorem createAll_perm (h : (bare home).createAll items = .ok t)
    (hsame : ∀ i ∈ items, ∀ j ∈ items, i.place home = j.place home → i.entry = j.entry)
    (hperm : items.Perm items') : ∃ t', (bare home).createAll items' = .ok t' ∧ t.Agrees t' := by
  obtain ⟨hbuilt, hname⟩ := (built_bare home).createAll hsame h
  have hback : items' ⊆ items := hperm.symm.subset
  -- the first order shows that no two items want different things of one place
  have hone : ∀ k e e', Planned home items' k e → Planned home items' k e' → e = e' := by
    intro k e e' he he'
    have hfound := (hbuilt.entryAt k e).mpr (he.mono hback)
    have hfound' := (hbuilt.entryAt k e').mpr (he'.mono hback)
    exact Option.some.inj (hfound.symm.trans hfound')
  have hname' : ∀ i ∈ items', ∀ bytes, i.entry = .file bytes → i.path.Nameable :=
    fun i hi => hname i (hback hi)
  obtain ⟨t', hcreate, hbuilt'⟩ := (built_bare home).exists_createAll hone hname'
  exact ⟨t', hcreate, hbuilt.agrees hbuilt' hperm.subset hback⟩

end Tree

end LayoutQuery

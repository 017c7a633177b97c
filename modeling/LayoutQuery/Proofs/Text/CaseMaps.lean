import LayoutQuery.Proofs.Fields
import LayoutQuery.Proofs.Text.Letters

/-! # Case maps on all characters
Folding makes no character vanish, and it neither makes a blank of another character nor another
character of a blank, so the ends of a text are free of blanks exactly if they are so when it is
folded. Lowering takes no other character to a letter of the first 128 than the sign for kelvin,
which it takes to `k`. -/
namespace LayoutQuery.Text

variable {p : Char → Bool} {cs : List Char} {s t : String}

/-- A character is mapped by an expansion, by a run, or to itself. -/
theorem CaseMap.image_cases (m : CaseMap) (c : Char) :
    (∃ codes, (c.toNat, codes) ∈ m.expansions ∧ m.image c = codes.map Char.ofNat) ∨
    (∃ r ∈ m.runs, r.covers c.toNat = true ∧ m.image c = [r.image c.toNat]) ∨
    m.image c = [c] := by
  cases hcodes : m.expansions.lookup c.toNat with
  | some codes =>
    exact .inl ⟨codes, mem_of_lookup hcodes, by simp [image, hcodes]⟩
  | none =>
    cases hrun : m.runs.find? (·.covers c.toNat) with
    | some r =>
      have hcovers : r.covers c.toNat = true := by simpa using List.find?_some hrun
      exact .inr (.inl ⟨r, List.mem_of_find?_eq_some hrun, hcovers, by simp [image, hcodes, hrun]⟩)
    | none => exact .inr (.inr (by simp [image, hcodes, hrun]))

theorem CaseRun.bounds_of_covers {r : CaseRun} {n : Nat} (h : r.covers n = true) :
    r.first ≤ n ∧ n ≤ r.last := by
  simp only [covers, Bool.and_eq_true, decide_eq_true_eq] at h
  exact h.1

/-- No character has the code point `n` if it is out of range, and then the null character stands
for it. -/
theorem toNat_ofNat_cases (n : Nat) : (Char.ofNat n).toNat = n ∨ (Char.ofNat n).toNat = 0 := by
  by_cases hvalid : n.isValidChar
  · exact .inl (by rw [Char.ofNat, dif_pos hvalid]; rfl)
  · exact .inr (by rw [Char.ofNat, dif_neg hvalid]; rfl)

/-! ## Blanks -/

def blankRanges : List (Nat × Nat) := [
  (0x09, 0x0D), (0x1C, 0x20), (0x85, 0x85), (0xA0, 0xA0), (0x1680, 0x1680), (0x2000, 0x200A),
  (0x2028, 0x2029), (0x202F, 0x202F), (0x205F, 0x205F), (0x3000, 0x3000)]

theorem isBlank_iff {c : Char} :
    isBlank c = true ↔ ∃ b ∈ blankRanges, b.1 ≤ c.toNat ∧ c.toNat ≤ b.2 := by
  simp only [isBlank, blankRanges, List.exists_mem_cons_iff, List.not_mem_nil, false_and,
    exists_false, or_false, Bool.or_eq_true, Bool.and_eq_true, decide_eq_true_eq, beq_iff_eq]
  omega

/-- The run moves no blank, and nothing to a blank. -/
def CaseRun.Clear (r : CaseRun) : Prop :=
  ∀ b ∈ blankRanges, (r.last < b.1 ∨ b.2 < r.first) ∧
    (r.last + r.shift < b.1 ∨ b.2 < r.first + r.shift)

instance (r : CaseRun) : Decidable r.Clear := inferInstanceAs (Decidable (∀ _ ∈ _, _))

theorem CaseRun.Clear.source {r : CaseRun} (h : r.Clear) {c : Char}
    (hc : r.covers c.toNat = true) : isBlank c = false := by
  obtain ⟨hfirst, hlast⟩ := bounds_of_covers hc
  rw [Bool.eq_false_iff, ne_eq, isBlank_iff]
  rintro ⟨b, hb, hlow, hhigh⟩
  have := (h b hb).1
  omega

theorem CaseRun.Clear.target {r : CaseRun} (h : r.Clear) {n : Nat} (hn : r.covers n = true) :
    isBlank (r.image n) = false := by
  obtain ⟨hfirst, hlast⟩ := bounds_of_covers hn
  rw [Bool.eq_false_iff, ne_eq, isBlank_iff]
  rintro ⟨b, hb, hlow, hhigh⟩
  have hclear := (h b hb).2
  have hpositive : ∀ b ∈ blankRanges, 0 < b.1 := by decide
  have := hpositive b hb
  rcases toNat_ofNat_cases (n + r.shift).toNat with heq | heq <;> rw [image, heq] at hlow hhigh <;>
    omega

/-- No image is empty, and all of it is as blank as what it is the image of. -/
structure CaseMap.KeepsBlanks (m : CaseMap) : Prop where
  ne_nil : ∀ c, m.image c ≠ []
  blank : ∀ c, ∀ d ∈ m.image c, isBlank d = isBlank c

theorem CaseMap.keepsBlanks {m : CaseMap} (hruns : ∀ r ∈ m.runs, r.Clear)
    (hexpansions : ∀ e ∈ m.expansions, e.2 ≠ [] ∧ isBlank (Char.ofNat e.1) = false ∧
      ∀ n ∈ e.2, isBlank (Char.ofNat n) = false) : m.KeepsBlanks where
  ne_nil := by
    intro c
    rcases m.image_cases c with ⟨codes, hmem, heq⟩ | ⟨r, hr, hcovers, heq⟩ | heq
    · rw [heq, ne_eq, List.map_eq_nil_iff]
      exact (hexpansions _ hmem).1
    · simp [heq]
    · simp [heq]
  blank := by
    intro c d hd
    rcases m.image_cases c with ⟨codes, hmem, heq⟩ | ⟨r, hr, hcovers, heq⟩ | heq
    · rw [heq] at hd
      obtain ⟨n, hn, rfl⟩ := List.mem_map.mp hd
      obtain ⟨-, hsource, htarget⟩ := hexpansions _ hmem
      rw [Char.ofNat_toNat] at hsource
      rw [hsource, htarget n hn]
    · rw [heq, List.mem_singleton] at hd
      rw [hd, (hruns r hr).source hcovers, (hruns r hr).target hcovers]
    · rw [heq, List.mem_singleton] at hd
      rw [hd]

set_option maxRecDepth 4096 in
theorem foldMap_keepsBlanks : foldMap.KeepsBlanks :=
  CaseMap.keepsBlanks (by decide) (by decide)

/-! ## The ends of a text -/

theorem stops_flatMap {f : Char → List Char} (hne : ∀ c, f c ≠ [])
    (hp : ∀ c, ∀ d ∈ f c, p d = p c) : Stops p (cs.flatMap f) ↔ Stops p cs := by
  cases cs with
  | nil => simp
  | cons c cs =>
    obtain ⟨d, ds, hd⟩ := List.exists_cons_of_ne_nil (hne c)
    have hsame : p d = p c := hp c d (by simp [hd])
    simp [hd, hsame]

theorem stops_reverse_flatMap {f : Char → List Char} (hne : ∀ c, f c ≠ [])
    (hp : ∀ c, ∀ d ∈ f c, p d = p c) : Stops p (cs.flatMap f).reverse ↔ Stops p cs.reverse := by
  rw [List.reverse_flatMap]
  apply stops_flatMap
  · intro c
    simp [hne c]
  · intro c d hd
    exact hp c d (List.mem_reverse.mp hd)

theorem trim_fold_iff : trim (fold s) = fold s ↔ trim s = s := by
  rw [trim_eq_self_iff, trim_eq_self_iff, fold, CaseMap.apply, String.toList_ofList,
    stops_flatMap foldMap_keepsBlanks.ne_nil foldMap_keepsBlanks.blank,
    stops_reverse_flatMap foldMap_keepsBlanks.ne_nil foldMap_keepsBlanks.blank]

theorem Alike.trim_iff (h : Alike s t) : trim s = s ↔ trim t = t := by
  have hfold : fold s = fold t := h
  rw [← trim_fold_iff, hfold, trim_fold_iff]

/-! ## What is lowered to a word -/

/-- All that the run moves goes behind the first 128 characters. -/
def CaseRun.EndsBeyond (r : CaseRun) : Prop :=
  128 ≤ r.first + r.shift ∧
    (r.last + r.shift < 0xD800 ∨ 0xDFFF < r.first + r.shift ∧ r.last + r.shift < 0x110000)

instance (r : CaseRun) : Decidable r.EndsBeyond := inferInstanceAs (Decidable (_ ∧ _))

theorem CaseRun.EndsBeyond.le_toNat {r : CaseRun} (h : r.EndsBeyond) {n : Nat}
    (hn : r.covers n = true) : 128 ≤ (r.image n).toNat := by
  obtain ⟨hfirst, hlast⟩ := bounds_of_covers hn
  obtain ⟨hbeyond, hrange⟩ := h
  have hvalid : (n + r.shift).toNat.isValidChar := by
    simp only [Nat.isValidChar]
    omega
  have heq : (r.image n).toNat = (n + r.shift).toNat := by
    rw [image, Char.ofNat, dif_pos hvalid]
    rfl
  omega

def kelvin : CaseRun := ⟨0x212A, 0x212A, 1, -8383⟩

set_option maxRecDepth 4096 in
theorem lowerMap_runs : ∀ r ∈ lowerMap.runs, r = capitals ∨ r = kelvin ∨ r.EndsBeyond := by
  decide

/-- One of the first 128 characters, and none beyond them is lowered to it. -/
def comesFromAscii (c : Char) : Bool := c.toNat < 128 && c != 'k'

theorem toNat_lt_of_comesFromAscii {c : Char} (h : comesFromAscii c = true) : c.toNat < 128 := by
  simp only [comesFromAscii, Bool.and_eq_true, decide_eq_true_eq] at h
  exact h.1

theorem toNat_lt_of_lowered {c : Char} (h : Only comesFromAscii (lowerMap.image c)) :
    c.toNat < 128 := by
  rcases lowerMap.image_cases c with ⟨codes, hmem, heq⟩ | ⟨r, hr, hcovers, heq⟩ | heq
  · -- the one expansion ends in a combining dot
    have hdot : ∀ e ∈ lowerMap.expansions, ¬ Only comesFromAscii (e.2.map Char.ofNat) := by decide
    rw [heq] at h
    exact absurd h (hdot _ hmem)
  · rw [heq, only_cons] at h
    rcases lowerMap_runs r hr with rfl | rfl | hbeyond
    · exact (CaseRun.bounds_of_covers hcovers).2.trans_lt (by decide)
    · obtain ⟨hfirst, hlast⟩ := CaseRun.bounds_of_covers hcovers
      have hsign : c.toNat = 0x212A := Nat.le_antisymm hlast hfirst
      rw [hsign] at h
      exact absurd h.1 (by decide)
    · have hbefore := toNat_lt_of_comesFromAscii h.1
      exact absurd hbefore (Nat.not_lt.mpr (hbeyond.le_toNat hcovers))
  · rw [heq, only_cons] at h
    exact toNat_lt_of_comesFromAscii h.1

theorem toNat_lt_of_toLower {c : Char} (h : c.toLower.toNat < 128) : c.toNat < 128 := by
  by_cases hc : 'A'.val ≤ c.val ∧ c.val ≤ 'Z'.val
  · exact (UInt32.le_iff_toNat_le.mp hc.2).trans_lt (by decide)
  · have hsame : c.toLower = c := dif_neg hc
    rwa [hsame] at h

/-- Only a spelling of a word without `k` is lowered to that word. -/
theorem lower_eq_iff {word : String} (hword : Only comesFromAscii word.toList) :
    lower s = word ↔ s.toList.map Char.toLower = word.toList := by
  have hlower : (∀ c ∈ s.toList, c.toNat < 128) →
      (lower s = word ↔ s.toList.map Char.toLower = word.toList) := by
    intro hascii
    rw [← ofList_eq_iff, ← lower_ascii hascii, String.ofList_toList]
  constructor
  · intro h
    refine (hlower ?_).mp h
    intro c hc
    apply toNat_lt_of_lowered
    intro d hd
    apply hword
    rw [← h, lower, CaseMap.apply, String.toList_ofList]
    exact List.mem_flatMap.mpr ⟨c, hc, hd⟩
  · intro h
    refine (hlower ?_).mpr h
    intro c hc
    apply toNat_lt_of_toLower
    exact toNat_lt_of_comesFromAscii (hword _ (h ▸ List.mem_map_of_mem hc))

end LayoutQuery.Text

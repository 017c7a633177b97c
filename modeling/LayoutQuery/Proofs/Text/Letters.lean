import LayoutQuery.Proofs.Text.Runs
import Mathlib.Data.List.Basic

/-! # Letters of the first 128 characters
On these characters the case maps change the 26 letters and nothing else, and no word character is
blank, so a word is neither shortened by trimming nor lengthened by lowering. -/
namespace LayoutQuery.Text

open Condition (isLetter isTargetChar)

variable {cs : List Char}

theorem ofList_eq_iff {s : String} : String.ofList cs = s ↔ cs = s.toList :=
  ⟨fun h => by rw [← h, String.toList_ofList], fun h => by rw [h, String.ofList_toList]⟩

/-- What holds of the first 128 code points holds of every such character. -/
theorem of_ascii {P : Char → Prop} (h : ∀ n < 128, P (Char.ofNat n)) {c : Char}
    (hc : c.toNat < 128) : P c := by
  simpa using h c.toNat hc

def capitals : CaseRun := ⟨0x41, 0x5A, 1, 32⟩

theorem capitals_toLower {c : Char} (hc : c.toNat < 128) :
    (if capitals.covers c.toNat then capitals.image c.toNat else c) = c.toLower :=
  of_ascii (P := fun c => (if capitals.covers c.toNat then capitals.image c.toNat else c) = c.toLower)
    (by decide) hc

/-- A case map that lowers the capitals and leaves all else of the first 128 characters alone. -/
structure CaseMap.LowersAscii (m : CaseMap) (rest : List CaseRun) : Prop where
  runs : m.runs = capitals :: rest
  beyond : ∀ r ∈ rest, 128 ≤ r.first
  single : ∀ e ∈ m.expansions, 128 ≤ e.1

theorem CaseMap.LowersAscii.image {m : CaseMap} {rest : List CaseRun} (h : m.LowersAscii rest)
    {c : Char} (hc : c.toNat < 128) : m.image c = [c.toLower] := by
  have hsingle : m.expansions.lookup c.toNat = none := by
    rw [List.lookup_eq_none_iff]
    intro e he
    have := h.single e he
    simp only [bne_iff_ne, ne_eq]
    omega
  have hbeyond : rest.find? (·.covers c.toNat) = none := by
    rw [List.find?_eq_none]
    intro r hr
    have := h.beyond r hr
    simp only [CaseRun.covers, Bool.and_eq_true, decide_eq_true_eq]
    omega
  rw [CaseMap.image, hsingle, h.runs, ← capitals_toLower hc]
  cases hcov : capitals.covers c.toNat <;> simp [hcov, hbeyond]

theorem CaseMap.LowersAscii.apply {m : CaseMap} {rest : List CaseRun} (h : m.LowersAscii rest)
    (hcs : ∀ c ∈ cs, c.toNat < 128) :
    m.apply (String.ofList cs) = String.ofList (cs.map Char.toLower) := by
  have himages : cs.flatMap m.image = cs.flatMap fun c => [c.toLower] :=
    List.flatMap_congr fun c hc => h.image (hcs c hc)
  simp [CaseMap.apply, himages, List.map_eq_flatMap]

set_option maxRecDepth 4096 in
theorem lowerMap_lowersAscii : lowerMap.LowersAscii lowerMap.runs.tail where
  runs := rfl
  beyond := by decide
  single := by decide

set_option maxRecDepth 4096 in
theorem foldMap_lowersAscii : foldMap.LowersAscii foldMap.runs.tail where
  runs := rfl
  beyond := by decide
  single := by decide

theorem lower_ascii (h : ∀ c ∈ cs, c.toNat < 128) :
    lower (String.ofList cs) = String.ofList (cs.map Char.toLower) :=
  lowerMap_lowersAscii.apply h

theorem stops_dropEndWhile {p : Char → Bool} (h : Stops p cs) : Stops p (dropEndWhile p cs) := by
  cases cs with
  | nil => exact stops_nil
  | cons c cs =>
    have hc := stops_cons.mp h
    rw [dropEndWhile]
    cases dropEndWhile p cs <;> simp [hc]

theorem stops_reverse_dropEndWhile (p : Char → Bool) (cs : List Char) :
    Stops p (dropEndWhile p cs).reverse := by
  induction cs with
  | nil => exact stops_nil
  | cons c cs ih =>
    rw [dropEndWhile]
    cases hrest : dropEndWhile p cs with
    | nil => cases hc : p c <;> simp [hc]
    | cons d rest =>
      rw [hrest] at ih
      have hne : (d :: rest).reverse ≠ [] := by simp
      rw [List.reverse_cons]
      exact (stops_append_iff hne).mpr ih

/-- No blank is left at either end. -/
theorem stops_trim (s : String) :
    Stops isBlank (trim s).toList ∧ Stops isBlank (trim s).toList.reverse := by
  rw [trim, String.toList_ofList, trimBoth]
  exact ⟨stops_dropEndWhile (stops_dropWhile _ _), stops_reverse_dropEndWhile _ _⟩

theorem dropEndWhile_of_stops {p : Char → Bool} (h : Stops p cs.reverse) :
    dropEndWhile p cs = cs := by
  induction cs with
  | nil => rfl
  | cons c cs ih =>
    rw [List.reverse_cons] at h
    cases cs with
    | nil => simpa [dropEndWhile] using h
    | cons d ds =>
      have hne : (d :: ds).reverse ≠ [] := by simp
      rw [dropEndWhile, ih ((stops_append_iff hne).mp h)]

theorem trim_eq_self_iff {s : String} :
    trim s = s ↔ Stops isBlank s.toList ∧ Stops isBlank s.toList.reverse := by
  constructor
  · intro h
    have hends := stops_trim s
    rwa [h] at hends
  · rintro ⟨hfront, hback⟩
    have hdrop : s.toList.dropWhile isBlank = s.toList := dropWhile_run only_nil hfront
    rw [trim, trimBoth, hdrop, dropEndWhile_of_stops hback, String.ofList_toList]

theorem trim_trim (s : String) : trim (trim s) = trim s := trim_eq_self_iff.mpr (stops_trim s)

theorem toNat_lt_of_isTargetChar {c : Char} (h : isTargetChar c = true) : c.toNat < 128 := by
  simp only [isTargetChar, isLetter, isDigit, Bool.or_eq_true, Bool.and_eq_true,
    decide_eq_true_eq, Char.le_def, UInt32.le_iff_toNat_le, beq_iff_eq] at h
  rcases h with (((⟨-, h⟩ | ⟨-, h⟩) | ⟨-, h⟩) | rfl) | rfl
  · exact h.trans_lt (by decide)
  · exact h.trans_lt (by decide)
  · exact h.trans_lt (by decide)
  · decide
  · decide

theorem isBlank_of_isTargetChar {c : Char} (h : isTargetChar c = true) : isBlank c = false :=
  of_ascii (P := fun c => isTargetChar c = true → isBlank c = false) (by decide)
    (toNat_lt_of_isTargetChar h) h

theorem trim_word (h : Only isTargetChar cs) : trim (String.ofList cs) = String.ofList cs := by
  rw [trim_eq_self_iff, String.toList_ofList]
  exact ⟨stops_of_only (fun _ => isBlank_of_isTargetChar) h,
    stops_of_only (fun _ => isBlank_of_isTargetChar) (only_reverse.mpr h)⟩

theorem fold_word (h : Only isTargetChar cs) :
    fold (String.ofList cs) = String.ofList (cs.map Char.toLower) :=
  foldMap_lowersAscii.apply fun c hc => toNat_lt_of_isTargetChar (h c hc)

end LayoutQuery.Text

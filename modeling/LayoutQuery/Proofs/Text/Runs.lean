import LayoutQuery.Condition.Parser
import Mathlib.Data.List.TakeWhile

/-! # Runs of characters
A reader that takes a longest run of one class cuts its text at exactly one place. The classes of a
condition's parts are told apart here, since that is what makes the next cut certain. -/
namespace LayoutQuery.Text

variable {p q : Char → Bool} {a b cs : List Char}

def Only (p : Char → Bool) (cs : List Char) : Prop := ∀ c ∈ cs, p c = true

/-- No run of `p` stands in front. -/
def Stops (p : Char → Bool) (cs : List Char) : Prop := ∀ c ∈ cs.head?, p c = false

instance (p : Char → Bool) (cs : List Char) : Decidable (Only p cs) :=
  List.decidableBAll (fun c => p c = true) cs

@[simp] theorem only_nil : Only p [] := by simp [Only]

@[simp] theorem only_cons {c : Char} : Only p (c :: cs) ↔ p c = true ∧ Only p cs := by
  simp [Only]

@[simp] theorem only_append : Only p (a ++ b) ↔ Only p a ∧ Only p b := by
  simp [Only, or_imp, forall_and]

@[simp] theorem stops_nil : Stops p [] := by simp [Stops]

@[simp] theorem stops_cons {c : Char} : Stops p (c :: cs) ↔ p c = false := by simp [Stops]

theorem only_takeWhile (p : Char → Bool) (cs : List Char) : Only p (cs.takeWhile p) :=
  fun _ h => List.mem_takeWhile_imp h

theorem stops_dropWhile (p : Char → Bool) (cs : List Char) : Stops p (cs.dropWhile p) := by
  intro c hc
  have h := List.head?_dropWhile_not p cs
  rw [Option.mem_def.mp hc] at h
  exact h

theorem takeWhile_eq_nil_iff : cs.takeWhile p = [] ↔ Stops p cs := by
  cases cs with
  | nil => simp
  | cons c cs => cases hc : p c <;> simp [hc]

theorem not_stops_iff : ¬ Stops p cs ↔ ∃ c more, cs = c :: more ∧ p c = true := by
  cases cs with
  | nil => simp
  | cons c cs => simp

theorem takeWhile_run (ha : Only p a) (hb : Stops p b) : (a ++ b).takeWhile p = a := by
  rw [List.takeWhile_append_of_pos ha]
  cases b with
  | nil => simp
  | cons c b => simp [stops_cons.mp hb]

theorem dropWhile_run (ha : Only p a) (hb : Stops p b) : (a ++ b).dropWhile p = b := by
  rw [List.dropWhile_append_of_pos ha]
  cases b with
  | nil => rfl
  | cons c b => simp [stops_cons.mp hb]

/-- A text is cut in one way only behind a run of `p` that cannot be longer. -/
theorem run_unique {a' b' : List Char} (ha : Only p a) (hb : Stops p b) (ha' : Only p a')
    (hb' : Stops p b') (h : a ++ b = a' ++ b') : a = a' ∧ b = b' := by
  constructor
  · rw [← takeWhile_run ha hb, h, takeWhile_run ha' hb']
  · rw [← dropWhile_run ha hb, h, dropWhile_run ha' hb']

theorem only_reverse : Only p a.reverse ↔ Only p a := by simp [Only]

theorem run_unique_end {a' b' : List Char} (ha : Stops p a.reverse) (hb : Only p b)
    (ha' : Stops p a'.reverse) (hb' : Only p b') (h : a ++ b = a' ++ b') : a = a' ∧ b = b' := by
  have hrev : b.reverse ++ a.reverse = b'.reverse ++ a'.reverse := by
    rw [← List.reverse_append, h, List.reverse_append]
  obtain ⟨hb, ha⟩ := run_unique (only_reverse.mpr hb) ha (only_reverse.mpr hb') ha' hrev
  exact ⟨List.reverse_inj.mp ha, List.reverse_inj.mp hb⟩

theorem stops_of_only (hpq : ∀ c, q c = true → p c = false) (ha : Only q a) : Stops p a :=
  fun c hc => hpq c (ha c (List.mem_of_mem_head? hc))

theorem stops_append_iff (hne : a ≠ []) : Stops p (a ++ b) ↔ Stops p a := by
  obtain ⟨c, a, rfl⟩ := List.exists_cons_of_ne_nil hne
  simp

theorem Stops.of_imp (hqp : ∀ c, q c = true → p c = true) (h : Stops p cs) : Stops q cs := by
  intro c hc
  have hp := h c hc
  by_contra hq
  simp [hqp c (by simpa using hq)] at hp

/-- A run of one class keeps out every class that shares no character with it. -/
theorem stops_append (hpq : ∀ c, q c = true → p c = false) (hne : a ≠ []) (ha : Only q a) :
    Stops p (a ++ b) := by
  rw [stops_append_iff hne]
  exact stops_of_only hpq ha

theorem head?_any_eq (p : Char → Bool) (cs : List Char) :
    cs.head?.any p = !(cs.takeWhile p).isEmpty := by
  cases cs with
  | nil => rfl
  | cons c cs => cases hc : p c <;> simp [hc]

theorem stops_reverse_append (hpq : ∀ c, q c = true → p c = false) (hne : b ≠ []) (hb : Only q b) :
    Stops p (a ++ b).reverse := by
  rw [List.reverse_append]
  exact stops_append hpq (List.reverse_ne_nil_iff.mpr hne) (only_reverse.mpr hb)

/-! ## The classes of a condition's parts -/

open Condition (isLetter isKeywordChar isTargetChar)

theorem isGap_iff {c : Char} : isGap c = true ↔ c = ' ' ∨ c = '\t' := by simp [isGap]

theorem isBlank_of_isGap {c : Char} (h : isGap c = true) : isBlank c = true := by
  rcases isGap_iff.mp h with rfl | rfl <;> decide

theorem gap_excludes {c : Char} (h : isGap c = true) :
    isKeywordChar c = false ∧ isTargetChar c = false ∧ isDigit c = false := by
  rcases isGap_iff.mp h with rfl | rfl <;> decide

theorem keyword_excludes_gap {c : Char} (h : isKeywordChar c = true) : isGap c = false := by
  by_contra hc
  have := (gap_excludes (by simpa using hc)).1
  simp [this] at h

theorem target_excludes_gap {c : Char} (h : isTargetChar c = true) : isGap c = false := by
  by_contra hc
  have := (gap_excludes (by simpa using hc)).2.1
  simp [this] at h

theorem digit_excludes_gap {c : Char} (h : isDigit c = true) : isGap c = false := by
  by_contra hc
  have := (gap_excludes (by simpa using hc)).2.2
  simp [this] at h

theorem symbol_excluded (r : Relation) :
    isTargetChar r.symbol = false ∧ isGap r.symbol = false ∧ isDigit r.symbol = false := by
  cases r <;> decide

end LayoutQuery.Text

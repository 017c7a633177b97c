import LayoutQuery.Proofs.Search.Run
import Mathlib.Data.List.Infix

/-! # What a run takes
A run that stops before its feed ends is decided by the layouts that it took: it would have been the
same run whatever stood behind them. A run that sees the end has taken all of them. -/
namespace LayoutQuery

/-- The part of a feed that the first `count` requests see. The failure is seen by the request behind
the last layout. -/
def Feed.front {ε : Type} (count : Nat) (f : Feed ε) : Feed ε where
  layouts := f.layouts.take count
  failure := if count ≤ f.layouts.length then none else f.failure

/-- The requests that a run makes: one for each layout taken, and one that finds no more. -/
def Run.requests {ε : Type} (r : Run ε) : Nat := if r.drained then r.taken + 1 else r.taken

@[simp] theorem Run.taken_logged {ε : Type} (events : List Event) (r : Run ε) :
    (r.logged events).taken = r.taken := rfl

namespace Search

variable {ε : Type} (s : Search) (limit : Option Int) (failure : Option ε)

/-- The scan `run` of `ls` took the layouts `front` and looked at nothing behind them. -/
structure StopsIn (ls : List Layout) (scanned : Nat) (hits : List Verdict) (run : Run ε)
    (front : List Layout) : Prop where
  isPrefix : front <+: ls
  nonempty : front ≠ []
  taken : run.taken = scanned + front.length
  drained : run.drained = false
  decided : ∀ (failure : Option ε) (rest : List Layout),
    s.scan limit failure (front ++ rest) scanned hits = run

/-- A layout that is scanned can only add to the hits and to the log. -/
theorem scan_evaluated {hits : List Verdict} (hopen : reached limit hits.length = false)
    {l : Layout} {v : Verdict} (hl : s.evaluate l = .ok v) (rest : List Layout) (scanned : Nat) :
    s.scan limit failure (l :: rest) scanned hits =
      (s.scan limit failure rest (scanned + 1) (if v.matched then v :: hits else hits)).logged
        (if v.matched then [.matched l.name] else []) := by
  by_cases hmatched : v.matched = true
  · simp [scan, hopen, hl, hmatched, Run.logged]
  · simp [scan, hopen, hl, hmatched]

/-- A scan stops within its layouts, or takes them all and sees the end. -/
theorem scan_stops_or_drains (ls : List Layout) (scanned : Nat) (hits : List Verdict) :
    (∃ front, s.StopsIn limit ls scanned hits (s.scan limit failure ls scanned hits) front) ∨
      (s.scan limit failure ls scanned hits).drained = true ∧
        (s.scan limit failure ls scanned hits).taken = scanned + ls.length := by
  induction ls generalizing scanned hits with
  | nil =>
    right
    cases failure with
    | none => exact ⟨rfl, rfl⟩
    | some e => exact ⟨rfl, rfl⟩
  | cons l ls ih =>
    cases hreached : reached limit hits.length with
    | true =>
      refine .inl ⟨[l], ⟨ls, rfl⟩, List.cons_ne_nil l [], ?_, ?_, ?_⟩
      · simp [scan, hreached]
      · simp [scan, hreached]
      · intro failure' rest
        simp [scan, hreached]
    | false =>
      cases hl : s.evaluate l with
      | error e =>
        refine .inl ⟨[l], ⟨ls, rfl⟩, List.cons_ne_nil l [], ?_, ?_, ?_⟩
        · simp [scan, hreached, hl]
        · simp [scan, hreached, hl]
        · intro failure' rest
          simp [scan, hreached, hl]
      | ok v =>
        rw [scan_evaluated s limit failure hreached hl]
        rcases ih (scanned + 1) (if v.matched then v :: hits else hits) with
          ⟨front, hfront⟩ | ⟨hdrained, htaken⟩
        · refine .inl ⟨l :: front, ?_, List.cons_ne_nil l front, ?_, hfront.drained, ?_⟩
          · exact List.cons_prefix_cons.mpr ⟨rfl, hfront.isPrefix⟩
          · have htaken := hfront.taken
            rw [List.length_cons, Run.taken_logged]
            omega
          · intro failure' rest
            rw [List.cons_append, scan_evaluated s limit failure' hreached hl, hfront.decided]
        · refine .inr ⟨hdrained, ?_⟩
          rw [List.length_cons, Run.taken_logged]
          omega

/-- What a run comes to depends on the requests that it made, and on nothing behind them. -/
theorem run_front (f : Feed ε) :
    s.run limit (f.front (s.run limit f).requests) = s.run limit f := by
  obtain ⟨layouts, failure⟩ := f
  rcases scan_stops_or_drains s limit failure layouts 0 [] with ⟨front, h⟩ | ⟨hdrained, htaken⟩
  · have hrequests : (s.run limit ⟨layouts, failure⟩).requests = front.length := by
      have htaken := h.taken
      rw [Nat.zero_add] at htaken
      simp only [Run.requests, run, h.drained, htaken, Bool.false_eq_true, if_false]
    have hfeed : (⟨layouts, failure⟩ : Feed ε).front front.length = ⟨front, none⟩ := by
      rw [Feed.front, if_pos h.isPrefix.length_le, ← List.prefix_iff_eq_take.mp h.isPrefix]
    have hsame := h.decided none []
    rw [List.append_nil] at hsame
    rw [hrequests, hfeed, run, run, hsame]
  · have hrequests : (s.run limit ⟨layouts, failure⟩).requests = layouts.length + 1 := by
      rw [Nat.zero_add] at htaken
      simp only [Run.requests, run, hdrained, htaken, if_true]
    have hfeed : (⟨layouts, failure⟩ : Feed ε).front (layouts.length + 1) = ⟨layouts, failure⟩ := by
      have hmore : ¬ layouts.length + 1 ≤ layouts.length := Nat.not_succ_le_self layouts.length
      rw [Feed.front, if_neg hmore, List.take_of_length_le (Nat.le_succ layouts.length)]
    rw [hrequests, hfeed]

/-- A run that does not see the end has taken a layout; one that does has taken all of them. -/
theorem run_stops_or_drains (f : Feed ε) :
    (s.run limit f).drained = false ∧ 0 < (s.run limit f).taken ∨
      (s.run limit f).drained = true ∧ (s.run limit f).taken = f.layouts.length := by
  rcases scan_stops_or_drains s limit f.failure f.layouts 0 [] with
    ⟨front, h⟩ | ⟨hdrained, htaken⟩
  · refine .inl ⟨h.drained, ?_⟩
    have htaken : (s.run limit f).taken = 0 + front.length := h.taken
    rw [htaken, Nat.zero_add]
    exact List.length_pos_iff.mpr h.nonempty
  · refine .inr ⟨hdrained, ?_⟩
    rw [Nat.zero_add] at htaken
    exact htaken

end Search

end LayoutQuery

import LayoutQuery.Layout.Stream
import Mathlib.Logic.Function.Iterate

/-! # What a stream still delivers
While the files stay as they are, a stream is known by its feed: asking it for a layout takes the
first one off, and a failure or the end leaves nothing. -/
namespace LayoutQuery

namespace Feed

variable {ε : Type}

/-- What comes next: a layout, the failure, or nothing. -/
def head (f : Feed ε) : Except ε (Option Layout) :=
  match f.layouts, f.failure with
  | l :: _, _ => .ok (some l)
  | [], some e => .error e
  | [], none => .ok none

def tail (f : Feed ε) : Feed ε :=
  match f.layouts with
  | [] => ⟨[], none⟩
  | _ :: rest => ⟨rest, f.failure⟩

def prepend (front : List Layout) (f : Feed ε) : Feed ε := ⟨front ++ f.layouts, f.failure⟩

theorem iterate_tail_prepend (front : List Layout) (f : Feed ε) :
    tail^[front.length] (f.prepend front) = f := by
  induction front with
  | nil => rfl
  | cons l front ih => exact ih

theorem iterate_tail_failure (e : ε) (count : Nat) :
    tail^[count + 1] (⟨[], some e⟩ : Feed ε) = ⟨[], none⟩ := by
  rw [Function.iterate_succ_apply]
  exact Function.iterate_fixed rfl count

end Feed

namespace LayoutStream

variable (t : Tree)

theorem pull_eq (paths : List Path) :
    (pull t paths).1 = (feedOf t paths).head ∧
      feedOf t (pull t paths).2 = (feedOf t paths).tail := by
  induction paths with
  | nil => exact ⟨rfl, rfl⟩
  | cons p rest ih =>
    cases hp : deliver t p with
    | error fault => simp [pull, feedOf, hp, Feed.head, Feed.tail]
    | ok found =>
      cases found with
      | none => simpa [pull, feedOf, hp] using ih
      | some l => simp [pull, feedOf, hp, Feed.head, Feed.tail]

@[simp] theorem feed_listed (paths : List Path) : (listed paths).feed t = feedOf t paths := rfl

theorem feed_of_error {s : LayoutStream} {fault : StreamFault} (h : s.paths t = .error fault) :
    s.feed t = ⟨[], some fault⟩ := by
  rw [feed, h]

theorem feed_of_ok {s : LayoutStream} {list : List Path} (h : s.paths t = .ok list) :
    s.feed t = feedOf t list := by
  rw [feed, h]

theorem next_eq (s : LayoutStream) :
    (s.next t).1 = (s.feed t).head ∧ (s.next t).2.feed t = (s.feed t).tail := by
  cases hpaths : s.paths t with
  | error fault =>
    rw [next, hpaths, feed_of_error t hpaths]
    exact ⟨rfl, rfl⟩
  | ok list =>
    rw [next, hpaths, feed_of_ok t hpaths]
    exact pull_eq t list

theorem feedOf_behind (count : Nat) (paths : List Path) :
    feedOf t (behind t count paths) = Feed.tail^[count] (feedOf t paths) := by
  induction count generalizing paths with
  | zero => rfl
  | succ count ih =>
    rw [behind, ih, (pull_eq t paths).2]
    rfl

theorem feed_afterRun_drained {ε : Type} (s : LayoutStream) {run : Run ε}
    (hdrained : run.drained = true) : (s.afterRun t run).feed t = ⟨[], none⟩ := by
  rw [afterRun, hdrained]
  rfl

/-- A run leaves what stands behind the layouts that it took. -/
theorem feed_afterRun {ε : Type} (s : LayoutStream) {run : Run ε} (hdrained : run.drained = false)
    (htaken : 0 < run.taken) :
    (s.afterRun t run).feed t = Feed.tail^[run.taken] (s.feed t) := by
  cases hpaths : s.paths t with
  | error fault =>
    obtain ⟨count, hcount⟩ := Nat.exists_eq_succ_of_ne_zero (Nat.ne_of_gt htaken)
    rw [feed_of_error t hpaths, hcount, Feed.iterate_tail_failure, afterRun, hdrained, hpaths]
    rfl
  | ok list =>
    rw [feed_of_ok t hpaths, ← feedOf_behind]
    simp [afterRun, hdrained, hpaths]

end LayoutStream

end LayoutQuery

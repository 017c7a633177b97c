import LayoutQuery.Proofs.Matching.Counts

/-! # Conditions that say the same
Two conditions hold of the same layouts if and only if they compare the same count with the same
amount, or say in two ways that there is none, or can both never hold. -/
namespace LayoutQuery

namespace Relation

variable {r r' : Relation} {a b : Nat}

theorem exists_relates_iff : (∃ n, r.Relates n a) ↔ ¬ (r = .less ∧ a = 0) := by
  cases r with
  | less =>
    constructor
    · rintro ⟨n, hn⟩ ⟨-, rfl⟩
      exact absurd hn (Nat.not_lt_zero n)
    · intro h
      have hpos : 0 < a := by
        by_contra hzero
        exact h ⟨rfl, by omega⟩
      exact ⟨0, hpos⟩
  | equal => exact ⟨fun _ => nofun, fun _ => ⟨a, rfl⟩⟩
  | greater => exact ⟨fun _ => nofun, fun _ => ⟨a + 1, Nat.lt_succ_self a⟩⟩

theorem exists_not_relates (r : Relation) (a : Nat) : ∃ n, ¬ r.Relates n a := by
  cases r with
  | less => exact ⟨a, Nat.lt_irrefl a⟩
  | equal => exact ⟨a + 1, Nat.succ_ne_self a⟩
  | greater => exact ⟨a, Nat.lt_irrefl a⟩

/-- A relation to an amount is known by the counts that it admits, but for two ways to say none. -/
theorem relates_congr_iff : (∀ n, r.Relates n a ↔ r'.Relates n b) ↔
    (r = r' ∧ a = b) ∨ (r = .less ∧ a = 1 ∧ r' = .equal ∧ b = 0) ∨
      (r = .equal ∧ a = 0 ∧ r' = .less ∧ b = 1) := by
  constructor
  · intro h
    -- the two amounts, the counts next to them, and none at all tell every pair apart
    have hnone := h 0
    have ha := h a
    have hb := h b
    have hpast_a := h (a + 1)
    have hpast_b := h (b + 1)
    cases r <;> cases r' <;> simp only [Relates, reduceCtorEq, true_and, false_and, and_false,
      false_or, or_false, true_iff, iff_true] at hnone ha hb hpast_a hpast_b ⊢ <;> omega
  · rintro (⟨rfl, rfl⟩ | ⟨rfl, rfl, rfl, rfl⟩ | ⟨rfl, rfl, rfl, rfl⟩)
    · intro n
      rfl
    · intro n
      simp only [Relates]
      omega
    · intro n
      simp only [Relates]
      omega

end Relation

namespace Condition

/-- A condition on a negative count. -/
def IsImpossible (c : Condition) : Prop := c.relation = .less ∧ c.amount = 0

instance (c : Condition) : Decidable c.IsImpossible := inferInstanceAs (Decidable (_ ∧ _))

/-- The ways in which two conditions can say the same. -/
inductive Equivalent (c d : Condition) : Prop where
  | same : c.subject.SameTarget d.subject → c.relation = d.relation → c.amount = d.amount →
      Equivalent c d
  | fewerThanOne : c.subject.SameTarget d.subject → c.relation = .less → c.amount = 1 →
      d.relation = .equal → d.amount = 0 → Equivalent c d
  | equalToNone : c.subject.SameTarget d.subject → c.relation = .equal → c.amount = 0 →
      d.relation = .less → d.amount = 1 → Equivalent c d
  | impossible : c.IsImpossible → d.IsImpossible → Equivalent c d

variable {c d : Condition}

theorem IsImpossible.not_holds (h : c.IsImpossible) (l : Layout) : ¬ c.Holds l := by
  intro hl
  exact Relation.exists_relates_iff.mp ⟨_, holds_iff.mp hl⟩ h

theorem exists_holds (h : ¬ c.IsImpossible) : ∃ l : Layout, c.Holds l := by
  obtain ⟨n, hn⟩ := Relation.exists_relates_iff.mpr h
  refine ⟨.repeating c.subject n, holds_iff.mpr ?_⟩
  rwa [Layout.count_repeating_same (.refl c.subject)]

theorem exists_not_holds (c : Condition) : ∃ l : Layout, ¬ c.Holds l := by
  obtain ⟨n, hn⟩ := Relation.exists_not_relates c.relation c.amount
  refine ⟨.repeating c.subject n, fun hl => hn ?_⟩
  have hrelates := holds_iff.mp hl
  rwa [Layout.count_repeating_same (.refl c.subject)] at hrelates

/-- Of one target, conditions are told apart by the layouts that hold nothing else. -/
theorem same_layouts_iff_of_same (h : c.subject.SameTarget d.subject) :
    (∀ l : Layout, c.Holds l ↔ d.Holds l) ↔
      ∀ n, c.relation.Relates n c.amount ↔ d.relation.Relates n d.amount := by
  constructor
  · intro hall n
    have hn := hall (.repeating c.subject n)
    rwa [holds_iff, holds_iff, Layout.count_repeating_same (.refl c.subject),
      Layout.count_repeating_same h] at hn
  · intro hall l
    rw [holds_iff, holds_iff, Layout.count_congr h l]
    exact hall _

/-- Of different targets, both counts are free, so neither condition can depend on its own. -/
theorem impossible_of_same_layouts (h : ¬ c.subject.SameTarget d.subject)
    (hall : ∀ l : Layout, c.Holds l ↔ d.Holds l) : c.IsImpossible := by
  by_contra hpossible
  obtain ⟨m, hm⟩ := Relation.exists_relates_iff.mpr hpossible
  obtain ⟨n, hn⟩ := Relation.exists_not_relates d.relation d.amount
  obtain ⟨l, hcount, hcount'⟩ := Layout.exists_counts h m n
  have hl := hall l
  rw [holds_iff, holds_iff, hcount, hcount'] at hl
  exact hn (hl.mp hm)

theorem Equivalent.holds_iff_holds (h : Equivalent c d) (l : Layout) : c.Holds l ↔ d.Holds l := by
  cases h with
  | same htarget hrelation hamount =>
    exact (same_layouts_iff_of_same htarget).mpr
      (Relation.relates_congr_iff.mpr (.inl ⟨hrelation, hamount⟩)) l
  | fewerThanOne htarget hless hone hequal hnone =>
    exact (same_layouts_iff_of_same htarget).mpr
      (Relation.relates_congr_iff.mpr (.inr (.inl ⟨hless, hone, hequal, hnone⟩))) l
  | equalToNone htarget hequal hnone hless hone =>
    exact (same_layouts_iff_of_same htarget).mpr
      (Relation.relates_congr_iff.mpr (.inr (.inr ⟨hequal, hnone, hless, hone⟩))) l
  | impossible hc hd => exact iff_of_false (hc.not_holds l) (hd.not_holds l)

/-- Conditions hold of the same layouts if and only if they are equivalent. Every condition that is
not impossible divides the layouts. -/
theorem same_layouts_iff_equivalent (c d : Condition) :
    ((∀ l : Layout, c.Holds l ↔ d.Holds l) ↔ Equivalent c d) ∧
      ((∃ l : Layout, c.Holds l) ∧ (∃ l : Layout, ¬ c.Holds l) ↔ ¬ c.IsImpossible) := by
  refine ⟨⟨?_, fun h l => h.holds_iff_holds l⟩, ?_, fun h => ⟨exists_holds h, exists_not_holds c⟩⟩
  · intro hall
    by_cases htarget : c.subject.SameTarget d.subject
    · have hcounts := (same_layouts_iff_of_same htarget).mp hall
      rcases Relation.relates_congr_iff.mp hcounts with
        ⟨hrelation, hamount⟩ | ⟨hless, hone, hequal, hnone⟩ | ⟨hequal, hnone, hless, hone⟩
      · exact .same htarget hrelation hamount
      · exact .fewerThanOne htarget hless hone hequal hnone
      · exact .equalToNone htarget hequal hnone hless hone
    · have hc := impossible_of_same_layouts htarget hall
      have hd := impossible_of_same_layouts (fun h => htarget h.symm) fun l => (hall l).symm
      exact .impossible hc hd
  · rintro ⟨⟨l, hl⟩, -⟩ himpossible
    exact himpossible.not_holds l hl

end Condition

end LayoutQuery

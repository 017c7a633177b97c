import LayoutQuery.Proofs.Condition.Acceptance
import LayoutQuery.Proofs.Matching.Counts

/-! # Thresholds
For each keyword and target word a layout has one number, which can be had by going through its items
with no reader and no condition. The texts of this keyword and target, however they are spelled, hold
by how that number stands to their amounts. -/
namespace LayoutQuery

open Text Condition

/-- How many items of a layout a target word names. -/
inductive Layout.Tallies (l : Layout) (word : List Char) : Keyword → Nat → Prop where
  | entities : Tallies l word .count
      (l.entities.filter fun e => fold e.name = String.ofList (word.map Char.toLower)).length
  | units {room type} : RoomWord room type → Spells word room → Tallies l word .countUnit
      (l.units.filter fun u => u.type = type).length

/-- A text holds of a layout if it parses, and the condition that it parses to holds. -/
def TextHolds (t : String) (l : Layout) : Prop := ∃ c, parse t = .ok c ∧ c.Holds l

namespace Condition

variable {l : Layout} {p q : Phrase} {keyword : Keyword} {word : List Char} {k n : Nat}

/-- A phrase that compares what a keyword counts of a word with an amount, in any letter case. -/
structure Phrase.Writes (p : Phrase) (keyword : Keyword) (word : List Char) (n : Nat) : Prop
    extends p.Shaped where
  known : Spells p.keyword keyword.word
  names : p.target.map Char.toLower = word.map Char.toLower
  digits_le : p.digits.length ≤ 4300
  amount : decimalValue p.digits = n

theorem Phrase.Writes.lexical (h : p.Writes keyword word n) : p.Lexical := h.toShaped.lexical h.known

/-- The subject that a phrase counts is found in a layout as often as its target is tallied. -/
theorem Phrase.Writes.exists_counts (h : p.Writes keyword word n) (hk : l.Tallies word keyword k) :
    ∃ s, p.Counts s ∧ l.count s = k := by
  cases hk with
  | entities =>
    refine ⟨.entity (String.ofList p.target), .entity h.known, ?_⟩
    simp only [Layout.count, Layout.countEntities, List.countP_eq_length_filter, Alike,
      fold_word h.target, h.names]
  | @units room type hroom hspells =>
    have hnames : Spells p.target room := h.names.trans hspells
    refine ⟨.room type, .room h.known hroom hnames, ?_⟩
    simp only [Layout.count, Layout.countRooms, List.countP_eq_length_filter]

theorem Phrase.Writes.parse_text (h : p.Writes keyword word n) (hk : l.Tallies word keyword k) :
    ∃ s, parse p.text = .ok ⟨s, p.relation, n⟩ ∧ l.count s = k := by
  obtain ⟨s, hcounts, hcount⟩ := h.exists_counts hk
  exact ⟨s, (parse_text_eq_ok_iff h.lexical).mpr ⟨h.digits_le, hcounts, rfl, h.amount.symm⟩, hcount⟩

theorem Phrase.Writes.textHolds_iff (h : p.Writes keyword word n) (hk : l.Tallies word keyword k) :
    TextHolds p.text l ↔ p.relation.Relates k n := by
  obtain ⟨s, hparse, hcount⟩ := h.parse_text hk
  constructor
  · rintro ⟨c, hc, hholds⟩
    cases hparse.symm.trans hc
    rwa [holds_iff, hcount] at hholds
  · intro hrelates
    refine ⟨_, hparse, ?_⟩
    rwa [holds_iff, hcount]

/-- Every text of a keyword and a target word parses, and holds by how the word's tally stands to its
amount. So of three texts for one amount exactly one holds, and the tally is greater than an amount
exactly when it is not less than the next one. -/
theorem texts_compare_tally (hk : l.Tallies word keyword k) :
    (∀ p n, Phrase.Writes p keyword word n →
      ∃ c, parse p.text = .ok c ∧ (c.Holds l ↔ p.relation.Relates k n)) ∧
    (∀ (p : Relation → Phrase) (n : Nat),
      (∀ r, (p r).relation = r ∧ (p r).Writes keyword word n) → ∃! r, TextHolds (p r).text l) ∧
    (∀ p q n, Phrase.Writes p keyword word n → Phrase.Writes q keyword word (n + 1) →
      p.relation = .greater → q.relation = .less → (TextHolds p.text l ↔ ¬ TextHolds q.text l)) ∧
    ∀ p n c, Phrase.Writes p keyword word n → p.relation = .greater → parse p.text = .ok c →
      (c.Holds l ↔ ¬ Condition.Holds ⟨c.subject, .less, n + 1⟩ l) := by
  refine ⟨?_, ?_, ?_, ?_⟩
  · intro p n hp
    obtain ⟨s, hparse, hcount⟩ := hp.parse_text hk
    exact ⟨_, hparse, by rw [holds_iff, hcount]⟩
  · intro p n hp
    refine ⟨Relation.compare k n, ?_, ?_⟩
    · obtain ⟨hrelation, hwrites⟩ := hp (Relation.compare k n)
      apply (hwrites.textHolds_iff hk).mpr
      rw [hrelation]
      exact Relation.compare_eq_iff.mp rfl
    · intro r hr
      obtain ⟨hrelation, hwrites⟩ := hp r
      have hrelates := (hwrites.textHolds_iff hk).mp hr
      rw [hrelation] at hrelates
      exact (Relation.compare_eq_iff.mpr hrelates).symm
  · intro p q n hp hq hgreater hless
    rw [hp.textHolds_iff hk, hq.textHolds_iff hk, hgreater, hless]
    exact Relation.greater_iff_not_less
  · intro p n c hp hgreater hc
    obtain ⟨s, hparse, hcount⟩ := hp.parse_text hk
    cases hparse.symm.trans hc
    rw [holds_iff, holds_iff, hcount, hgreater]
    exact Relation.greater_iff_not_less

/-- A ligature in one of the names, and a text in mixed case. -/
theorem texts_compare_tally_ligature :
    ∃ c, parse "\tCount  fIsH >\t0001 " = .ok c ∧
      c.Holds ⟨"pond", [⟨"FISH", .null⟩, ⟨"carp", .null⟩, ⟨"\ufb01sh", .null⟩], []⟩ := by
  have hk : Layout.Tallies ⟨"pond", [⟨"FISH", .null⟩, ⟨"carp", .null⟩, ⟨"\ufb01sh", .null⟩], []⟩
      "Fish".toList .count 2 := .entities
  have hp : Phrase.Writes ⟨['\t'], "Count".toList, "  ".toList, "fIsH".toList, [' '], .greater,
      ['\t'], "0001".toList, [' ']⟩ .count "Fish".toList 1 := {
    lead := by decide, gap_ne := by decide, gap := by decide, target_ne := by decide,
    target := by decide, before := by decide, after := by decide, digits_ne := by decide,
    digits := by decide, trail := by decide, known := by decide, names := by decide
    digits_le := by decide, amount := by decide }
  obtain ⟨c, hparse, hholds⟩ := (texts_compare_tally hk).1 _ _ hp
  exact ⟨c, hparse, hholds.mpr (by decide)⟩

end Condition

end LayoutQuery

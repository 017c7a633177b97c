import LayoutQuery.Proofs.Condition.Grammar
import LayoutQuery.Proofs.Text.Numeral

/-! # Rendering
The canonical text is taken apart from both ends: the digits stand behind the last space and the
keyword before the first one, and what is left in the middle is the target, whatever it holds. -/
namespace LayoutQuery.Condition

open Text

theorem toList_render (c : Condition) :
    c.render.toList = (c.subject.keyword.toList ++ ' ' :: c.subject.target.toList) ++
      [' ', c.relation.symbol, ' '] ++ decimal c.amount := by
  simp [render, natural]

theorem only_keyword (s : Subject) : Only isKeywordChar s.keyword.toList := by
  cases s with
  | entity name => exact (by decide : Only isKeywordChar "count".toList)
  | room type => exact (by decide : Only isKeywordChar "count_unit".toList)

theorem token_injective {type type' : RoomType} (h : type.token = type'.token) :
    type = type' := by
  revert h
  cases type <;> cases type' <;> decide

/-- Under one keyword every subject has a target of its own. -/
theorem subject_injective {s t : Subject} (hkeyword : s.keyword = t.keyword)
    (htarget : s.target = t.target) : s = t := by
  have hdiffer : "count" ≠ "count_unit" := by decide
  cases s with
  | entity name =>
    cases t with
    | entity name' => exact congrArg Subject.entity htarget
    | room type' => exact absurd hkeyword hdiffer
  | room type =>
    cases t with
    | entity name' => exact absurd hkeyword.symm hdiffer
    | room type' => exact congrArg Subject.room (token_injective htarget)

/-- Conditions with one canonical text are one condition: names are free text, but nothing in a name
can take the place of the digits at the end or of the keyword in front. -/
theorem eq_of_render_eq {c d : Condition} (h : c.render = d.render) : c = d := by
  have hchars := congrArg String.toList h
  rw [toList_render, toList_render] at hchars
  have hspace : ∀ (front : List Char) (r : Relation),
      Stops isDigit (front ++ [' ', r.symbol, ' ']).reverse := by
    intro front r
    simp [isDigit]
  obtain ⟨hfront, hdigits⟩ := run_unique_end (hspace _ _) (only_decimal _) (hspace _ _)
    (only_decimal _) hchars
  obtain ⟨hwords, hsymbol⟩ := List.append_inj' hfront rfl
  have hrelation : c.relation.symbol = d.relation.symbol := by simpa using hsymbol
  have hgap : ∀ target : List Char, Stops isKeywordChar (' ' :: target) := fun _ =>
    stops_cons.mpr (by decide)
  obtain ⟨hkeyword, htarget⟩ := run_unique (only_keyword _) (hgap _) (only_keyword _) (hgap _) hwords
  have hsubject : c.subject = d.subject :=
    subject_injective (String.toList_inj.mp hkeyword)
      (String.toList_inj.mp (List.cons.inj htarget).2)
  exact Condition.ext hsubject (symbol_injective hrelation) (decimal_injective hdigits)

/-! ## Conditions as they are made -/

variable {subject subject' : Subject} {relation relation' : Relation} {amount amount' : Int}
  {c d : Condition}

theorem make_eq_ok_iff : make subject relation amount = .ok c ↔
    ∃ n : Nat, amount = n ∧ c = ⟨subject.trimmed, relation, n⟩ := by
  cases amount with
  | ofNat n =>
    constructor
    · intro h
      cases h
      exact ⟨n, rfl, rfl⟩
    · rintro ⟨m, hm, rfl⟩
      cases hm
      rfl
  | negSucc n =>
    constructor
    · intro h
      cases h
    · rintro ⟨m, hm, -⟩
      cases hm

/-- Conditions are one condition exactly when they are made of the same parts, but for the blanks
around a name. -/
theorem made_eq_iff (hc : make subject relation amount = .ok c)
    (hd : make subject' relation' amount' = .ok d) :
    c = d ↔ subject.trimmed = subject'.trimmed ∧ relation = relation' ∧ amount = amount' := by
  obtain ⟨m, rfl, rfl⟩ := make_eq_ok_iff.mp hc
  obtain ⟨n, rfl, rfl⟩ := make_eq_ok_iff.mp hd
  rw [Condition.ext_iff, Int.ofNat_inj]

/-- Two conditions have one canonical text if and only if they are one condition. So the texts of
conditions that are made of any names, relations and amounts are the same if and only if all the
parts are, but for the blanks around a name. -/
theorem render_eq_iff :
    (∀ c d : Condition, c.render = d.render ↔ c = d) ∧
    ∀ subject relation amount c subject' relation' amount' d,
      make subject relation amount = .ok c → make subject' relation' amount' = .ok d →
      (c.render = d.render ↔
        subject.trimmed = subject'.trimmed ∧ relation = relation' ∧ amount = amount') := by
  have hrender : ∀ c d : Condition, c.render = d.render ↔ c = d := fun c d =>
    ⟨eq_of_render_eq, congrArg render⟩
  refine ⟨hrender, ?_⟩
  intro subject relation amount c subject' relation' amount' d hc hd
  rw [hrender c d, made_eq_iff hc hd]

/-- A name that looks like the rest of a condition, given with blanks and without, and one that
makes one keyword look like the other. -/
theorem render_eq_iff_lookalike :
    ∃ spaced plain unit cap, make (.entity "\tship > 2\u2003") .equal 0 = .ok spaced ∧
      make (.entity "ship > 2") .equal 0 = .ok plain ∧
      make (.entity "_unit cap") .equal 0 = .ok unit ∧ make (.room .deadEnd) .equal 0 = .ok cap ∧
      spaced.render = plain.render ∧ unit.render ≠ cap.render := by
  refine ⟨_, _, _, _, rfl, rfl, rfl, rfl, ?_, ?_⟩
  · have hname : (Subject.entity "\tship > 2\u2003").trimmed =
        (Subject.entity "ship > 2").trimmed := by decide
    exact (render_eq_iff.2 _ .equal 0 _ _ .equal 0 _ rfl rfl).mpr ⟨hname, rfl, rfl⟩
  · have hsubject : (Subject.entity "_unit cap").trimmed ≠ (Subject.room .deadEnd).trimmed := by
      decide
    intro h
    exact hsubject ((render_eq_iff.2 _ .equal 0 _ _ .equal 0 _ rfl rfl).mp h).1

end LayoutQuery.Condition

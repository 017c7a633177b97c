import LayoutQuery.Json.Numeral
import LayoutQuery.Proofs.Text.Numeral

/-! # Reading JSON numbers
Where a number ends, and which numbers are whole and have more digits than are read. -/
namespace LayoutQuery.Json

open Text

variable {cs more digits behind rest : List Char} {n : Numeral} {c : Char}

/-- The digits of a whole number in front of what stands behind them. -/
inductive Digits : List Char → List Char → Prop where
  | zero {behind : List Char} : Digits ['0'] behind
  | other {c : Char} {digits behind : List Char} : isDigit c = true → c ≠ '0' → Only isDigit digits →
      Stops isDigit behind → Digits (c :: digits) behind

def sign (negative : Bool) : List Char := if negative then ['-'] else []

inductive Fraction : List Char → Prop where
  | mk {d : Char} {more : List Char} : isDigit d = true → Fraction ('.' :: d :: more)

inductive Exponent : List Char → Prop where
  | mk {e d : Char} {mark more : List Char} : e = 'e' ∨ e = 'E' →
      mark = [] ∨ mark = ['+'] ∨ mark = ['-'] → isDigit d = true →
      Exponent (e :: (mark ++ d :: more))

/-- A whole number in front that has more digits than are read. -/
inductive Overlong : List Char → Nat → Prop where
  | mk {negative : Bool} {digits behind : List Char} : Digits digits behind →
      4300 < digits.length → ¬ Fraction behind → ¬ Exponent behind →
      Overlong (sign negative ++ (digits ++ behind)) digits.length

/-! ## Fractions and exponents -/

theorem readFraction_cases (cs : List Char) :
    ¬ Fraction cs ∧ readFraction cs = (none, cs) ∨
    Fraction cs ∧ ∃ digits rest,
      readFraction cs = (some digits, rest) ∧ rest.length ≤ cs.length := by
  by_cases hpoint : cs.head? = some '.'
  · obtain ⟨more, rfl⟩ := List.head?_eq_some_iff.mp hpoint
    by_cases hmore : Stops isDigit more
    · refine .inl ⟨?_, ?_⟩
      · rintro ⟨hd⟩
        exact not_stops_iff.mpr ⟨_, _, rfl, hd⟩ hmore
      · simp only [readFraction, takeWhile_eq_nil_iff.mpr hmore]
    · obtain ⟨d, more, rfl, hd⟩ := not_stops_iff.mp hmore
      refine .inr ⟨.mk hd, d :: more.takeWhile isDigit, more.dropWhile isDigit, ?_, ?_⟩
      · simp only [readFraction, List.takeWhile_cons_of_pos hd, List.dropWhile_cons_of_pos hd]
      · have hdrop := List.length_dropWhile_le isDigit more
        simp only [List.length_cons]
        omega
  · refine .inl ⟨?_, ?_⟩
    · rintro ⟨-⟩
      exact hpoint rfl
    · unfold readFraction
      split
      · exact absurd rfl hpoint
      · rfl

/-- What is left behind an exponent's sign. -/
def unmarked (cs : List Char) : List Char :=
  match cs with
  | '-' :: body => body
  | '+' :: body => body
  | _ => cs

theorem unmarked_cases (cs : List Char) :
    ∃ mark, (mark = [] ∨ mark = ['+'] ∨ mark = ['-']) ∧ cs = mark ++ unmarked cs := by
  unfold unmarked
  split
  · exact ⟨['-'], .inr (.inr rfl), rfl⟩
  · exact ⟨['+'], .inr (.inl rfl), rfl⟩
  · exact ⟨[], .inl rfl, rfl⟩

theorem unmarked_append {mark : List Char} (hmark : mark = [] ∨ mark = ['+'] ∨ mark = ['-'])
    {d : Char} (hd : isDigit d = true) : unmarked (mark ++ d :: more) = d :: more := by
  rcases hmark with rfl | rfl | rfl
  · rw [List.nil_append]
    unfold unmarked
    split
    next heq =>
      cases heq
      cases hd
    next heq =>
      cases heq
      cases hd
    next => rfl
  · rfl
  · rfl

theorem readExponent_cases (cs : List Char) :
    ¬ Exponent cs ∧ readExponent cs = (none, cs) ∨
    Exponent cs ∧ ∃ size rest, readExponent cs = (some size, rest) ∧ rest.length ≤ cs.length := by
  rcases cs with _ | ⟨e, more⟩
  · exact .inl ⟨nofun, rfl⟩
  by_cases he : e = 'e' ∨ e = 'E'
  · by_cases hmore : Stops isDigit (unmarked more)
    · refine .inl ⟨?_, ?_⟩
      · rintro ⟨-, hmark, hd⟩
        rw [unmarked_append hmark hd] at hmore
        exact not_stops_iff.mpr ⟨_, _, rfl, hd⟩ hmore
      · have hnone := takeWhile_eq_nil_iff.mpr hmore
        unfold unmarked at hnone
        simp only [readExponent, if_pos he]
        split at hnone <;> simp only [hnone]
    · obtain ⟨mark, hmark, hbody⟩ := unmarked_cases more
      obtain ⟨d, body, hcons, hd⟩ := not_stops_iff.mp hmore
      refine .inr ⟨?_, ?_⟩
      · rw [hbody, hcons]
        exact .mk he hmark hd
      · obtain ⟨digit, digits, hsome⟩ :=
          List.exists_cons_of_ne_nil (takeWhile_eq_nil_iff.not.mpr hmore)
        have hread : ∃ size, readExponent (e :: more) =
            (some size, (unmarked more).dropWhile isDigit) := by
          unfold unmarked at hsome ⊢
          simp only [readExponent, if_pos he]
          split at hsome <;> simp only [hsome] <;> exact ⟨_, rfl⟩
        obtain ⟨size, hsize⟩ := hread
        refine ⟨size, _, hsize, ?_⟩
        have hdrop := List.length_dropWhile_le isDigit (unmarked more)
        have hlength := congrArg List.length hbody
        simp only [List.length_append, List.length_cons] at hlength ⊢
        omega
  · refine .inl ⟨?_, ?_⟩
    · rintro ⟨he', -, -⟩
      exact he he'
    · simp only [readExponent, if_neg he]

theorem readFraction_eq_none_iff : (readFraction cs).1 = none ↔ ¬ Fraction cs := by
  rcases readFraction_cases cs with ⟨hno, heq⟩ | ⟨hyes, _, _, heq, -⟩
  · simp [heq, hno]
  · simp [heq, hyes]

theorem readExponent_eq_none_iff : (readExponent cs).1 = none ↔ ¬ Exponent cs := by
  rcases readExponent_cases cs with ⟨hno, heq⟩ | ⟨hyes, _, _, heq, -⟩
  · simp [heq, hno]
  · simp [heq, hyes]

theorem length_readFraction (cs : List Char) : (readFraction cs).2.length ≤ cs.length := by
  rcases readFraction_cases cs with ⟨-, heq⟩ | ⟨-, _, _, heq, hlength⟩
  · rw [heq]
  · rw [heq]
    exact hlength

theorem length_readExponent (cs : List Char) : (readExponent cs).2.length ≤ cs.length := by
  rcases readExponent_cases cs with ⟨-, heq⟩ | ⟨-, _, _, heq, hlength⟩
  · rw [heq]
  · rw [heq]
    exact hlength

/-! ## Numbers -/

/-- The number whose digits end before `behind`, with the fraction and the exponent found there. -/
def Numeral.before (negative : Bool) (digits behind : List Char) : Numeral × List Char :=
  let exponent := readExponent (readFraction behind).2
  (⟨negative, digits, (readFraction behind).1, exponent.1⟩, exponent.2)

/-- The digits at the front of a text that opens with one. -/
def cutDigits (c : Char) (more : List Char) : List Char × List Char :=
  if c = '0' then (['0'], more) else (c :: more.takeWhile isDigit, more.dropWhile isDigit)

theorem cutDigits_append (c : Char) (more : List Char) :
    (cutDigits c more).1 ++ (cutDigits c more).2 = c :: more := by
  unfold cutDigits
  split_ifs with hzero
  · rw [hzero]
    rfl
  · rw [List.cons_append, List.takeWhile_append_dropWhile]

theorem digits_cutDigits (hc : isDigit c = true) :
    Digits (cutDigits c more).1 (cutDigits c more).2 := by
  unfold cutDigits
  split_ifs with hzero
  · exact .zero
  · exact .other hc hzero (only_takeWhile isDigit more) (stops_dropWhile isDigit more)

theorem Digits.opens (h : Digits digits behind) :
    ∃ c more, isDigit c = true ∧ digits ++ behind = c :: more ∧
      cutDigits c more = (digits, behind) := by
  cases h with
  | zero => exact ⟨'0', behind, by decide, rfl, rfl⟩
  | @other c digits _ hc hzero honly hstops =>
    refine ⟨c, digits ++ behind, hc, rfl, ?_⟩
    rw [cutDigits, if_neg hzero, takeWhile_run honly hstops, dropWhile_run honly hstops]

theorem readNumeral_of_digit (negative : Bool) (hc : isDigit c = true) :
    readNumeral (sign negative ++ c :: more) =
      some (Numeral.before negative (cutDigits c more).1 (cutDigits c more).2) := by
  cases negative with
  | true => simp [readNumeral, sign, hc, Numeral.before, cutDigits]
  | false =>
    have hplus : c ≠ '-' := by
      rintro rfl
      cases hc
    simp [readNumeral, sign, hc, Numeral.before, cutDigits, hplus]

theorem readNumeral_of_digits (negative : Bool) (h : Digits digits behind) :
    readNumeral (sign negative ++ (digits ++ behind)) =
      some (Numeral.before negative digits behind) := by
  obtain ⟨c, more, hc, hcons, hcut⟩ := h.opens
  rw [hcons, readNumeral_of_digit negative hc, hcut]

theorem opens_of_readNumeral {r : Numeral × List Char} (h : readNumeral cs = some r) :
    ∃ negative c more, isDigit c = true ∧ cs = sign negative ++ c :: more := by
  rcases cs with _ | ⟨c, more⟩
  · cases h
  by_cases hminus : c = '-'
  · subst hminus
    rcases more with _ | ⟨d, more⟩
    · cases h
    by_cases hd : isDigit d = true
    · exact ⟨true, d, more, hd, rfl⟩
    · simp [readNumeral, hd] at h
  · by_cases hc : isDigit c = true
    · exact ⟨false, c, more, hc, rfl⟩
    · simp [readNumeral, hminus, hc] at h

theorem digits_of_readNumeral {r : Numeral × List Char} (h : readNumeral cs = some r) :
    ∃ negative digits behind, Digits digits behind ∧ cs = sign negative ++ (digits ++ behind) ∧
      r = Numeral.before negative digits behind := by
  obtain ⟨negative, c, more, hc, rfl⟩ := opens_of_readNumeral h
  refine ⟨negative, (cutDigits c more).1, (cutDigits c more).2, digits_cutDigits hc, ?_, ?_⟩
  · rw [cutDigits_append]
  · rw [readNumeral_of_digit negative hc] at h
    exact (Option.some.inj h).symm

theorem length_readNumeral (h : readNumeral cs = some (n, rest)) : rest.length < cs.length := by
  obtain ⟨negative, digits, behind, hdigits, rfl, hbefore⟩ := digits_of_readNumeral h
  have hpos : 0 < digits.length := by
    cases hdigits with
    | zero => exact Nat.one_pos
    | other => exact Nat.succ_pos _
  have hrest : rest = (readExponent (readFraction behind).2).2 := congrArg Prod.snd hbefore
  have hfraction := length_readFraction behind
  have hexponent := length_readExponent (readFraction behind).2
  simp only [List.length_append, hrest]
  omega

/-- A number is refused exactly when it is whole and too long. -/
theorem value_eq_error_iff {stop : Stop} : n.value = .error stop ↔
    n.fraction = none ∧ n.exponent = none ∧ 4300 < n.whole.length ∧
      stop = .tooManyDigits ⟨n.whole.length⟩ := by
  unfold Numeral.value
  split
  next hfraction hexponent =>
    split
    next size hsize =>
      have := (readNatural_eq_ok_iff.mp hsize).1
      constructor
      · rintro ⟨⟩
      · rintro ⟨-, -, hlong, -⟩
        omega
    next fault hfault =>
      obtain ⟨hlong, rfl⟩ := readNatural_eq_error_iff.mp hfault
      simp [hfraction, hexponent, hlong, eq_comm]
  next hnone =>
    constructor
    · rintro ⟨⟩
    · rintro ⟨hfraction, hexponent, -⟩
      exact absurd hexponent (hnone hfraction)

theorem Numeral.before_whole_iff {negative : Bool} :
    (before negative digits behind).1.fraction = none ∧
      (before negative digits behind).1.exponent = none ↔ ¬ Fraction behind ∧ ¬ Exponent behind := by
  rw [← readFraction_eq_none_iff, ← readExponent_eq_none_iff]
  refine and_congr_right fun hfraction => ?_
  rcases readFraction_cases behind with ⟨-, heq⟩ | ⟨-, _, _, heq, -⟩
  · simp only [before, heq]
  · have hnone : (readFraction behind).1 = none := hfraction
    rw [heq] at hnone
    cases hnone

theorem overlong_iff {count : Nat} : Overlong cs count ↔
    ∃ n rest, readNumeral cs = some (n, rest) ∧ n.value = .error (.tooManyDigits ⟨count⟩) := by
  constructor
  · rintro @⟨negative, digits, behind, hdigits, hlong, hfraction, hexponent⟩
    refine ⟨_, _, readNumeral_of_digits negative hdigits, ?_⟩
    obtain ⟨hno, hnone⟩ := Numeral.before_whole_iff.mpr ⟨hfraction, hexponent⟩
    exact value_eq_error_iff.mpr ⟨hno, hnone, hlong, rfl⟩
  · rintro ⟨n, rest, hread, hvalue⟩
    obtain ⟨hno, hnone, hlong, hcount⟩ := value_eq_error_iff.mp hvalue
    obtain ⟨negative, digits, behind, hdigits, rfl, hbefore⟩ := digits_of_readNumeral hread
    obtain rfl : n = (Numeral.before negative digits behind).1 := congrArg Prod.fst hbefore
    obtain ⟨hfraction, hexponent⟩ := Numeral.before_whole_iff.mp ⟨hno, hnone⟩
    obtain rfl : count = digits.length := by
      cases hcount
      rfl
    exact .mk hdigits hlong hfraction hexponent

end LayoutQuery.Json

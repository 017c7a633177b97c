import LayoutQuery.Proofs.Text.Runs
import Mathlib.Data.List.Induction
import Mathlib.Tactic.SplitIfs

/-! # Numerals
What is written for a number holds digits only and reads back as that number, so two numbers are
never written alike. -/
namespace LayoutQuery.Text

theorem readNatural_eq_ok_iff {digits : List Char} {n : Nat} :
    readNatural digits = .ok n ↔ digits.length ≤ 4300 ∧ n = decimalValue digits := by
  simp only [readNatural, digitLimit]
  split_ifs with h <;> simp [h, eq_comm]

theorem readNatural_eq_error_iff {digits : List Char} {fault : TooManyDigits} :
    readNatural digits = .error fault ↔ 4300 < digits.length ∧ fault = ⟨digits.length⟩ := by
  rw [← Nat.not_le]
  simp only [readNatural, digitLimit]
  split_ifs with h <;> simp [h, eq_comm]

theorem digitValue_digitChar {n : Nat} (h : n < 10) : digitValue (digitChar n) = n := by
  have hall : ∀ m < 10, digitValue (digitChar m) = m := by decide
  exact hall n h

theorem isDigit_digitChar {n : Nat} (h : n < 10) : isDigit (digitChar n) = true := by
  have hall : ∀ m < 10, isDigit (digitChar m) = true := by decide
  exact hall n h

theorem digitValue_lt {c : Char} (h : isDigit c = true) : digitValue c < 10 := by
  simp only [isDigit, Bool.and_eq_true, decide_eq_true_eq, Char.le_def, UInt32.le_iff_toNat_le] at h
  have hnine : c.toNat ≤ 57 := h.2
  have hzero : '0'.toNat = 48 := rfl
  rw [digitValue, hzero]
  omega

theorem only_decimal (n : Nat) : Only isDigit (decimal n) := by
  induction n using decimal.induct with
  | case1 n h =>
    rw [decimal, if_pos h]
    exact only_cons.mpr ⟨isDigit_digitChar h, only_nil⟩
  | case2 n h ih =>
    rw [decimal, if_neg h]
    have hlast : Only isDigit [digitChar (n % 10)] :=
      only_cons.mpr ⟨isDigit_digitChar (Nat.mod_lt n (by omega)), only_nil⟩
    exact only_append.mpr ⟨ih, hlast⟩

theorem decimalValue_concat (digits : List Char) (c : Char) :
    decimalValue (digits ++ [c]) = 10 * decimalValue digits + digitValue c := by
  simp [decimalValue]

theorem decimalValue_decimal (n : Nat) : decimalValue (decimal n) = n := by
  induction n using decimal.induct with
  | case1 n h =>
    rw [decimal, if_pos h]
    simp [decimalValue, digitValue_digitChar h]
  | case2 n h ih =>
    rw [decimal, if_neg h, decimalValue_concat, ih, digitValue_digitChar (Nat.mod_lt n (by omega))]
    omega

theorem decimal_ne_nil (n : Nat) : decimal n ≠ [] := by
  rw [decimal]
  split_ifs <;> simp

theorem length_decimal_step {n d : Nat} (hd : d < 10) :
    (decimal (10 * n + d)).length ≤ (decimal n).length + 1 := by
  rw [decimal]
  split_ifs with h
  · simp
  · have hdiv : (10 * n + d) / 10 = n := by omega
    simp [hdiv]

theorem length_decimal_le (n : Nat) : (decimal n).length ≤ n + 1 := by
  induction n using decimal.induct with
  | case1 n h =>
    rw [decimal, if_pos h]
    simp
  | case2 n h ih =>
    rw [decimal, if_neg h, List.length_append, List.length_singleton]
    omega

/-- A number's own numeral is the shortest that stands for it. -/
theorem length_decimal_decimalValue {digits : List Char} (hne : digits ≠ [])
    (h : Only isDigit digits) : (decimal (decimalValue digits)).length ≤ digits.length := by
  induction digits using List.reverseRecOn with
  | nil => exact absurd rfl hne
  | append_singleton digits c ih =>
    obtain ⟨hdigits, hc⟩ := only_append.mp h
    have hlast : digitValue c < 10 := digitValue_lt (only_cons.mp hc).1
    rw [decimalValue_concat, List.length_append, List.length_singleton]
    cases digits with
    | nil =>
      rw [decimalValue, List.foldl_nil, decimal, if_pos (by omega)]
      simp
    | cons d digits =>
      have hshort := ih (List.cons_ne_nil d digits) hdigits
      exact (length_decimal_step hlast).trans (Nat.add_le_add_right hshort 1)

theorem decimal_injective {m n : Nat} (h : decimal m = decimal n) : m = n := by
  rw [← decimalValue_decimal m, h, decimalValue_decimal n]

end LayoutQuery.Text

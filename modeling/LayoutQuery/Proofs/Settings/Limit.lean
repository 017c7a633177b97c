import LayoutQuery.Proofs.Settings.Reading

/-! # Limits are positive
Neither a command line nor the settings can bring a limit of zero into a search. -/
namespace LayoutQuery

theorem Limit.one_le_of_ofString {s : String} {n : Nat} (h : ofString s = .ok n) : 1 ≤ n := by
  rw [ofString] at h
  split at h
  next => cases h
  next =>
    split at h
    next => cases h
    next =>
      split at h
      next => cases h
      next hpositive =>
        cases h
        omega

namespace Settings

variable {environment : Fields String} {s : Settings} {n : Nat}

theorem one_le_of_takes {text : Option String} (h : Takes .searchLimit s text)
    (hn : s.searchLimit = some n) : 1 ≤ n := by
  cases text with
  | none =>
    have hnone : s.searchLimit = none := h
    rw [hnone] at hn
    cases hn
  | some text =>
    have hread : (Limit.ofString text).map some = .ok s.searchLimit := h
    rw [hn] at hread
    cases hlimit : Limit.ofString text with
    | error fault =>
      rw [hlimit] at hread
      cases hread
    | ok m =>
      rw [hlimit] at hread
      cases hread
      exact Limit.one_le_of_ofString hlimit

theorem one_le_of_load {file : Option (List UInt8)} (h : load environment file = .ok s)
    (hn : s.searchLimit = some n) : 1 ≤ n := by
  obtain ⟨vars, -, hvars⟩ := load_eq_ok_iff.mp h
  exact one_le_of_takes (takes_of_ofVariables hvars .searchLimit) hn

end Settings

end LayoutQuery

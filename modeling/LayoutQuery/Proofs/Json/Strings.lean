import LayoutQuery.Json.StringReader
import LayoutQuery.Proofs.Except
import Mathlib.Tactic.SplitIfs

/-! # Reading JSON strings
What the reader does at the front of a string, one step at a time, and where strings end: which
texts hold the rest of a string does not depend on what the string stands for. -/
namespace LayoutQuery.Json

open Text

variable {start cs more rest : List Char} {e : Escape} {c : Char}

theorem readString_escape (h : readEscape start more = .ok e) :
    readString start ('\\' :: more) =
      (fun r => (e.char :: r.1, r.2)) <$> readString start (more.drop e.width) := by
  rw [readString, if_neg (by decide), if_pos rfl, h]
  rfl

theorem readString_plain (hquote : c ≠ '"') (hback : c ≠ '\\') (hc : 0x20 ≤ c.toNat) :
    readString start (c :: more) = (fun r => (c :: r.1, r.2)) <$> readString start more := by
  rw [readString, if_neg hquote, if_neg hback, if_neg (Nat.not_lt.mpr hc)]
  rfl

/-! ## What strings look like -/

def IsHex (c : Char) : Prop := hexValue? c ≠ none

/-- A code of four digits in front, from an escape's letter on, and what stands behind it. -/
inductive Code : List Char → List Char → Prop where
  | mk {a b c d : Char} {rest : List Char} : IsHex a → IsHex b → IsHex c → IsHex d →
      Code ('u' :: a :: b :: c :: d :: rest) rest

/-- A string in front, from behind its opening quote on, and what stands behind it. -/
inductive Quoted : List Char → List Char → Prop where
  | close {rest : List Char} : Quoted ('"' :: rest) rest
  | plain {c : Char} {cs rest : List Char} : c ≠ '"' → c ≠ '\\' → 0x20 ≤ c.toNat → Quoted cs rest →
      Quoted (c :: cs) rest
  | escaped {c : Char} {cs rest : List Char} : simpleEscape? c ≠ none → Quoted cs rest →
      Quoted ('\\' :: c :: cs) rest
  | code {cs more rest : List Char} : Code cs more → Quoted more rest → Quoted ('\\' :: cs) rest

theorem Code.drop (h : Code cs more) : cs.drop 5 = more := by
  cases h
  rfl

theorem Code.length (h : Code cs more) : cs.length = more.length + 5 := by
  cases h
  rfl

theorem Quoted.length (h : Quoted cs rest) : rest.length < cs.length := by
  induction h with
  | close => exact Nat.lt_succ_self _
  | plain _ _ _ _ ih => exact Nat.lt_succ_of_lt ih
  | escaped _ _ ih => exact Nat.lt_succ_of_lt (Nat.lt_succ_of_lt ih)
  | code hcode _ ih =>
    have := hcode.length
    simp only [List.length_cons]
    omega

theorem Quoted.of_code (h : Quoted ('\\' :: 'u' :: cs) rest) :
    ∃ more, Code ('u' :: cs) more ∧ Quoted more rest := by
  cases h with
  | plain _ hback => exact absurd rfl hback
  | escaped hletter => exact absurd rfl hletter
  | code hcode hmore => exact ⟨_, hcode, hmore⟩

/-! ## Escapes -/

theorem fourHex?_eq_some {n : Nat} (h : fourHex? cs = some n) : Code ('u' :: cs) (cs.drop 4) := by
  rcases cs with _ | ⟨a, _ | ⟨b, _ | ⟨c, _ | ⟨d, more⟩⟩⟩⟩
  · cases h
  · cases h
  · cases h
  · cases h
  · obtain ⟨a', ha, h⟩ := Option.bind_eq_some_iff.mp h
    obtain ⟨b', hb, h⟩ := Option.bind_eq_some_iff.mp h
    obtain ⟨c', hc, h⟩ := Option.bind_eq_some_iff.mp h
    obtain ⟨d', hd, -⟩ := Option.bind_eq_some_iff.mp h
    exact .mk (by simp [IsHex, ha]) (by simp [IsHex, hb]) (by simp [IsHex, hc]) (by simp [IsHex, hd])

theorem Code.fourHex? (h : Code ('u' :: cs) more) : ∃ n, Json.fourHex? cs = some n := by
  cases h with
  | mk ha hb hc hd =>
    obtain ⟨a, ha⟩ := Option.ne_none_iff_exists'.mp ha
    obtain ⟨b, hb⟩ := Option.ne_none_iff_exists'.mp hb
    obtain ⟨c, hc⟩ := Option.ne_none_iff_exists'.mp hc
    obtain ⟨d, hd⟩ := Option.ne_none_iff_exists'.mp hd
    exact ⟨((a * 16 + b) * 16 + c) * 16 + d, by simp [Json.fourHex?, ha, hb, hc, hd]⟩

theorem after?_eq_some_iff {word : List Char} : after? word cs = some rest ↔ cs = word ++ rest := by
  induction word generalizing cs with
  | nil => simp [after?]
  | cons w word ih =>
    cases cs with
    | nil => simp [after?]
    | cons c cs =>
      rw [after?]
      split_ifs with hw
      · simp [hw, ih]
      · simp [Ne.symm hw]

/-- What an escape takes: a letter, or a code, or the codes of a pair. -/
inductive Escaped : List Char → Nat → Prop where
  | letter {c : Char} {cs : List Char} : simpleEscape? c ≠ none → Escaped (c :: cs) 1
  | code {cs more : List Char} : Code cs more → Escaped cs 5
  | pair {cs more rest : List Char} : Code cs ('\\' :: more) → Code more rest → Escaped cs 11

theorem escaped_of_readCodeEscape (h : readCodeEscape ('u' :: cs) = .ok e) :
    Escaped ('u' :: cs) e.width := by
  simp only [readCodeEscape, List.drop_succ_cons, List.drop_zero] at h
  split at h
  next => cases h
  next hlength =>
    split at h
    next => cases h
    next n hn =>
      have hcode := fourHex?_eq_some hn
      split at h
      next more _ _ hmore =>
        have hnext := after?_eq_some_iff.mp hmore
        split at h
        next => cases h
        next m hm =>
          split at h
          next =>
            have hwidth : e.width = 11 := by rw [← Except.ok.inj h]
            rw [hnext] at hcode
            rw [hwidth]
            exact .pair hcode (fourHex?_eq_some hm)
          next =>
            cases h
            exact .code hcode
      next =>
        cases h
        exact .code hcode

theorem escaped_of_readEscape (h : readEscape start cs = .ok e) : Escaped cs e.width := by
  unfold readEscape at h
  split at h
  next => cases h
  next => exact escaped_of_readCodeEscape h
  next c cs _ =>
    split at h
    next d hd =>
      cases h
      exact .letter (by simp [hd])
    next => cases h

/-- A string that goes on behind an escape's end is one that has the escape in it. -/
theorem Escaped.quoted {n : Nat} (h : Escaped cs n) (hmore : Quoted (cs.drop n) rest) :
    Quoted ('\\' :: cs) rest := by
  cases h with
  | letter hletter => exact .escaped hletter hmore
  | code hcode =>
    rw [hcode.drop] at hmore
    exact .code hcode hmore
  | @pair _ more _ hhigh hlow =>
    have hdrop : cs.drop 11 = more.drop 5 := by
      have := congrArg (List.drop 6) hhigh.drop
      rwa [List.drop_drop] at this
    rw [hdrop, hlow.drop] at hmore
    exact .code hhigh (.code hlow hmore)

/-- A high half takes the code behind it only if that is a low half, so the string goes on behind
what was taken either way. -/
theorem readCodeEscape_of_code (h : Code ('u' :: cs) more) (hmore : Quoted more rest) :
    ∃ e, readCodeEscape ('u' :: cs) = .ok e ∧ Quoted (('u' :: cs).drop e.width) rest := by
  obtain ⟨n, hn⟩ := h.fourHex?
  have hdrop : cs.drop 4 = more := h.drop
  have hlength : ¬ cs.length ≤ 4 := by
    have := h.length
    have := hmore.length
    simp only [List.length_cons] at *
    omega
  simp only [readCodeEscape, List.drop_succ_cons, List.drop_zero, if_neg hlength, hn, hdrop]
  split
  next next _ _ hnext =>
    have hpair : more = '\\' :: 'u' :: next := after?_eq_some_iff.mp hnext
    subst hpair
    -- the string goes on with `\u`, so four digits stand there whether or not they are a low half
    obtain ⟨behind, hlow, hbehind⟩ := hmore.of_code
    obtain ⟨m, hm⟩ := hlow.fourHex?
    rw [hm]
    dsimp only
    split_ifs with hhalf
    · refine ⟨_, rfl, ?_⟩
      have hwidth : cs.drop 10 = behind := by
        have hboth := congrArg (List.drop 6) hdrop
        rw [List.drop_drop] at hboth
        exact hboth.trans hlow.drop
      exact hwidth ▸ hbehind
    · exact ⟨_, rfl, hdrop ▸ hmore⟩
  next => exact ⟨_, rfl, hdrop ▸ hmore⟩

/-- The escape in front is read, and the string goes on behind it. -/
theorem readEscape_of_quoted (h : Quoted ('\\' :: cs) rest) :
    ∃ e, readEscape start cs = .ok e ∧ Quoted (cs.drop e.width) rest := by
  cases h with
  | plain _ hback => exact absurd rfl hback
  | @escaped c cs _ hletter hmore =>
    obtain ⟨d, hd⟩ := Option.ne_none_iff_exists'.mp hletter
    refine ⟨⟨d, 1⟩, ?_, hmore⟩
    unfold readEscape
    split
    next heq => cases heq
    next heq =>
      cases heq
      cases hd
    next heq =>
      cases heq
      rw [hd]
  | code hcode hmore =>
    obtain ⟨ha, hb, hc, hd⟩ := hcode
    exact readCodeEscape_of_code (.mk ha hb hc hd) hmore

/-! ## Where strings end -/

theorem quoted_plain_iff (hquote : c ≠ '"') (hback : c ≠ '\\') :
    Quoted (c :: cs) rest ↔ 0x20 ≤ c.toNat ∧ Quoted cs rest := by
  constructor
  · intro h
    cases h with
    | close => exact absurd rfl hquote
    | plain _ _ hc hmore => exact ⟨hc, hmore⟩
    | escaped => exact absurd rfl hback
    | code => exact absurd rfl hback
  · rintro ⟨hc, hmore⟩
    exact .plain hquote hback hc hmore

theorem exists_map_eq_ok_iff {f : List Char → List Char} {x : Except Stop (List Char × List Char)} :
    (∃ s, (fun r => (f r.1, r.2)) <$> x = .ok (s, rest)) ↔ ∃ s, x = .ok (s, rest) := by
  cases x with
  | error stop => simp [Functor.map, Except.map]
  | ok r => simp [Functor.map, Except.map, Prod.ext_iff]

/-- A string is read exactly when the text opens with one, and what stands behind it is left. -/
theorem readString_eq_ok_iff : (∃ s, readString start cs = .ok (s, rest)) ↔ Quoted cs rest := by
  induction cs using readString.induct with
  | case1 =>
    rw [readString]
    constructor
    · rintro ⟨s, hs⟩
      cases hs
    · intro h
      cases h
  | case2 cs =>
    rw [readString, if_pos rfl]
    constructor
    · rintro ⟨s, hs⟩
      cases hs
      exact .close
    · intro h
      cases h with
      | close => exact ⟨[], rfl⟩
      | plain hquote => exact absurd rfl hquote
  | case3 cs _ ih =>
    constructor
    · rintro ⟨s, hs⟩
      cases he : readEscape start cs with
      | error stop =>
        rw [readString, if_neg (by decide), if_pos rfl, he] at hs
        cases hs
      | ok e =>
        rw [readString_escape he] at hs
        have hmore := (ih e).mp (exists_map_eq_ok_iff.mp ⟨s, hs⟩)
        exact (escaped_of_readEscape he).quoted hmore
    · intro h
      obtain ⟨e, he, hmore⟩ := readEscape_of_quoted h
      rw [readString_escape he]
      exact exists_map_eq_ok_iff.mpr ((ih e).mpr hmore)
  | case4 c cs hquote hback hc =>
    rw [readString, if_neg hquote, if_neg hback, if_pos hc, quoted_plain_iff hquote hback]
    constructor
    · rintro ⟨s, hs⟩
      cases hs
    · rintro ⟨hc', -⟩
      omega
  | case5 c cs hquote hback hc ih =>
    rw [readString_plain hquote hback (Nat.le_of_not_lt hc), quoted_plain_iff hquote hback,
      exists_map_eq_ok_iff, ih]
    simp [Nat.le_of_not_lt hc]

theorem complaint_of_readCodeEscape {stop : Stop} (h : readCodeEscape cs = .error stop) :
    ∃ what rest, stop = .complaint what rest := by
  unfold readCodeEscape at h
  dsimp only at h
  split at h
  · cases h
    exact ⟨_, _, rfl⟩
  · split at h
    · cases h
      exact ⟨_, _, rfl⟩
    · split at h
      · split at h
        · cases h
          exact ⟨_, _, rfl⟩
        · split at h <;> cases h
      · cases h

theorem complaint_of_readEscape {stop : Stop} (h : readEscape start cs = .error stop) :
    ∃ what rest, stop = .complaint what rest := by
  unfold readEscape at h
  split at h
  · cases h
    exact ⟨_, _, rfl⟩
  · exact complaint_of_readCodeEscape h
  · split at h
    · cases h
    · cases h
      exact ⟨_, _, rfl⟩

/-- No string is refused for a number in it. -/
theorem complaint_of_readString {stop : Stop} (h : readString start cs = .error stop) :
    ∃ what rest, stop = .complaint what rest := by
  induction cs using readString.induct with
  | case1 =>
    rw [readString] at h
    cases h
    exact ⟨_, _, rfl⟩
  | case2 cs =>
    rw [readString, if_pos rfl] at h
    cases h
  | case3 cs _ ih =>
    cases he : readEscape start cs with
    | error stop' =>
      rw [readString, if_neg (by decide), if_pos rfl, he] at h
      cases h
      exact complaint_of_readEscape he
    | ok e =>
      rw [readString_escape he] at h
      exact ih e (map_eq_error_iff.mp h)
  | case4 c cs hquote hback hc =>
    rw [readString, if_neg hquote, if_neg hback, if_pos hc] at h
    cases h
    exact ⟨_, _, rfl⟩
  | case5 c cs hquote hback hc ih =>
    rw [readString_plain hquote hback (Nat.le_of_not_lt hc)] at h
    exact ih (map_eq_error_iff.mp h)

end LayoutQuery.Json

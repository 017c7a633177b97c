import LayoutQuery.Layout.Snapshot
import LayoutQuery.Proofs.Json.Extents
import LayoutQuery.Proofs.Text.Lines
import LayoutQuery.Proofs.Text.Utf8

/-! # What loading answers
Loading a file gives a layout, or a fault in the file's format. Only a whole number that is too long
is answered otherwise. -/
namespace LayoutQuery.Layout

open Json (Comes parse_eq_tooManyDigits_iff skipSpaces)
open Text (decode encode unifyNewlines)

variable {t : Tree} {p : Path} {bytes : List UInt8} {text : List Char} {count : Nat} {f : LoadFault}

/-- Reading the content comes to a whole number of `count` digits, more than are read. -/
def Overlong (bytes : List UInt8) (count : Nat) : Prop :=
  ∃ text, decode bytes = .ok text ∧ Comes .value (skipSpaces (unifyNewlines text)) (.overlong count)

/-- The stages of loading, and the faults of each. -/
theorem ofBytes_eq_error_iff : ofBytes p bytes = .error f ↔
    (∃ fault, decode bytes = .error fault ∧ f = .undecodable p fault) ∨
    ∃ text, decode bytes = .ok text ∧
      ((∃ fault, Json.parse (unifyNewlines text) = .error (.malformed fault) ∧
        f = .malformed p fault) ∨
      (∃ fault, Json.parse (unifyNewlines text) = .error (.tooManyDigits fault) ∧
        f = .tooManyDigits fault) ∨
      ∃ v fault, Json.parse (unifyNewlines text) = .ok v ∧ ofJson p.stem v = .error fault ∧
        f = .payload fault) := by
  rw [ofBytes, bind_eq_error_iff]
  refine or_congr ?_ ?_
  · rw [mapError_eq_error_iff]
    simp only [eq_comm]
  · refine exists_congr fun text => ?_
    rw [mapError_eq_ok_iff]
    refine and_congr_right fun _ => ?_
    rcases Json.parse (unifyNewlines text) with (fault | fault) | v
    · simp [bind, Except.bind, eq_comm]
    · simp [bind, Except.bind, eq_comm]
    · have hpayload : (ofJson p.stem v).mapError .payload = .error f ↔
          ∃ fault, ofJson p.stem v = .error fault ∧ f = .payload fault := by
        rw [mapError_eq_error_iff]
        simp only [eq_comm]
      simp only [reduceCtorEq, false_and, exists_false, false_or, Except.ok.injEq,
        exists_and_left, exists_eq_left']
      exact hpayload

theorem ofBytes_eq_tooManyDigits_iff :
    ofBytes p bytes = .error (.tooManyDigits ⟨count⟩) ↔ Overlong bytes count := by
  rw [ofBytes_eq_error_iff, Overlong]
  constructor
  · rintro (⟨fault, -, ⟨⟩⟩ |
      ⟨text, htext, ⟨fault, -, ⟨⟩⟩ | ⟨fault, hparse, hfault⟩ | ⟨v, fault, -, -, ⟨⟩⟩⟩)
    cases hfault
    exact ⟨text, htext, parse_eq_tooManyDigits_iff.mp hparse⟩
  · rintro ⟨text, htext, hcomes⟩
    have hparse : Json.parse (unifyNewlines text) = .error (.tooManyDigits ⟨count⟩) :=
      parse_eq_tooManyDigits_iff.mpr hcomes
    exact .inr ⟨text, htext, .inr (.inl ⟨⟨count⟩, hparse, rfl⟩)⟩

theorem isFormat_of_ofBytes (h : ofBytes p bytes = .error f) :
    f.isFormat = true ∨ ∃ count, f = .tooManyDigits ⟨count⟩ := by
  rcases ofBytes_eq_error_iff.mp h with
    ⟨fault, -, rfl⟩ | ⟨text, -, ⟨fault, -, rfl⟩ | ⟨⟨count⟩, -, rfl⟩ | ⟨v, fault, -, -, rfl⟩⟩
  · exact .inl rfl
  · exact .inl rfl
  · exact .inr ⟨count, rfl⟩
  · exact .inl rfl

theorem load_of_read (h : t.read p = .ok bytes) : load t p = ofBytes p bytes := by
  rw [load, h]
  rfl

/-! ## Long numbers -/

theorem overlong_of_comes (hreturn : '\r' ∉ text)
    (h : Comes .value (skipSpaces text) (.overlong count)) :
    Overlong (encode text) count := by
  refine ⟨text, Text.decode_encode text, ?_⟩
  have hsame := Text.unifyNewlines_append (b := []) hreturn
  rw [List.append_nil, unifyNewlines, List.append_nil] at hsame
  rwa [hsame]

/-- Ones are too long a number, and so are negative ones. -/
theorem overlong_ones (negative : Bool) (hcount : 4300 < count + 1) (behind : List Char)
    (hbehind : ∀ c ∈ behind, c = '}') :
    Json.Overlong (Json.sign negative ++ (List.replicate (count + 1) '1' ++ behind))
      (count + 1) := by
  have honly : Text.Only Text.isDigit (List.replicate count '1') := by
    intro c hc
    rw [List.eq_of_mem_replicate hc]
    rfl
  have hstops : Text.Stops Text.isDigit behind := by
    intro c hc
    rw [hbehind c (List.mem_of_mem_head? hc)]
    rfl
  have hdigits : Json.Digits (List.replicate (count + 1) '1') behind :=
    .other (by decide) (by decide) honly hstops
  have hfraction : ¬ Json.Fraction behind := by
    rintro ⟨-⟩
    exact absurd (hbehind _ List.mem_cons_self) (by decide)
  have hexponent : ¬ Json.Exponent behind := by
    rintro ⟨he, -, -⟩
    rw [hbehind _ List.mem_cons_self] at he
    exact absurd he (by decide)
  have hlength : (List.replicate (count + 1) '1').length = count + 1 := List.length_replicate
  have hlong : Json.Overlong (Json.sign negative ++ (List.replicate (count + 1) '1' ++ behind))
      (List.replicate (count + 1) '1').length :=
    .mk hdigits (by rwa [hlength]) hfraction hexponent
  rwa [hlength] at hlong

/-- A list that is not even closed, of one negative number. -/
def openList (count : Nat) : List Char := '[' :: '-' :: List.replicate count '1'

/-- An object with a member that layouts do not have. -/
def extraMember (count : Nat) : List Char :=
  '{' :: ("\"extra\": ".toList ++ (List.replicate count '1' ++ ['}']))

theorem overlong_openList (hcount : 4300 < count + 1) :
    Overlong (encode (openList (count + 1))) (count + 1) := by
  apply overlong_of_comes
  · simp [openList, List.mem_replicate]
  · have hlong := overlong_ones true hcount [] nofun
    rw [List.append_nil] at hlong
    exact .filled (s := .items) rfl (.stuck .item (.simple (.overlong hlong)))

theorem overlong_extraMember (hcount : 4300 < count + 1) :
    Overlong (encode (extraMember (count + 1))) (count + 1) := by
  apply overlong_of_comes
  · simp [extraMember, List.mem_replicate]
  · have hlong := overlong_ones false hcount ['}'] (by simp)
    have hquoted : Json.Quoted ("extra\": ".toList ++ (List.replicate (count + 1) '1' ++ ['}']))
        (": ".toList ++ (List.replicate (count + 1) '1' ++ ['}'])) := by
      iterate 5 refine .plain (by decide) (by decide) (by decide) ?_
      exact .close
    exact .filled (s := .members) rfl
      (.stuck (.member (.mk hquoted rfl)) (.simple (.overlong hlong)))

def onlyFile (bytes : List UInt8) : Tree := ⟨[], [(["a.json"], .file bytes)]⟩

theorem read_onlyFile (bytes : List UInt8) :
    (onlyFile bytes).read (Path.ofString "a.json") = .ok bytes := rfl

/-! ## Answers -/

/-- Whatever bytes a file has, loading it gives a layout or a fault in its format, unless reading
comes to a whole number of more than 4300 digits. Then that number is the fault. -/
theorem load_answers_iff (h : t.read p = .ok bytes) :
    ((∃ l, load t p = .ok l) ∨ (∃ f, load t p = .error f ∧ f.isFormat = true) ↔
      ∀ count, ¬ Overlong bytes count) ∧
    ∀ count, load t p = .error (.tooManyDigits ⟨count⟩) ↔ Overlong bytes count := by
  rw [load_of_read h]
  refine ⟨?_, fun count => ofBytes_eq_tooManyDigits_iff⟩
  constructor
  · intro hanswer count hlong
    have hfault := ofBytes_eq_tooManyDigits_iff (p := p).mpr hlong
    rw [hfault] at hanswer
    rcases hanswer with ⟨l, hl⟩ | ⟨f, hf, hformat⟩
    · cases hl
    · cases hf
      cases hformat
  · intro hshort
    cases hof : ofBytes p bytes with
    | ok l => exact .inl ⟨l, rfl⟩
    | error f =>
      rcases isFormat_of_ofBytes hof with hformat | ⟨count, rfl⟩
      · exact .inr ⟨f, rfl, hformat⟩
      · exact absurd (ofBytes_eq_tooManyDigits_iff.mp hof) (hshort count)

/-- The number is what is answered, though the text is no JSON in the end either. -/
theorem load_answers_iff_unclosed :
    let t := onlyFile (encode (openList 4301))
    let p := Path.ofString "a.json"
    t.read p = .ok (encode (openList 4301)) ∧ Overlong (encode (openList 4301)) 4301 ∧
      load t p = .error (.tooManyDigits ⟨4301⟩) := by
  intro t p
  have hlong : Overlong (encode (openList 4301)) 4301 := overlong_openList (by decide)
  have hread : t.read p = .ok (encode (openList 4301)) := read_onlyFile _
  exact ⟨hread, hlong, ((load_answers_iff hread).2 4301).mpr hlong⟩

/-- A member that layouts do not have is read all the same, and its number is refused. -/
theorem load_fails_at_long_number :
    let t := onlyFile (encode (extraMember 4301))
    let p := Path.ofString "a.json"
    t.read p = .ok (encode (extraMember 4301)) ∧
      ¬ ((∃ l, load t p = .ok l) ∨ ∃ f, load t p = .error f ∧ f.isFormat = true) := by
  intro t p
  have hread : t.read p = .ok (encode (extraMember 4301)) := read_onlyFile _
  have hload : load t p = .error (.tooManyDigits ⟨4301⟩) := by
    rw [load_of_read hread]
    exact ofBytes_eq_tooManyDigits_iff.mpr (overlong_extraMember (by decide))
  refine ⟨hread, ?_⟩
  rintro (⟨l, hl⟩ | ⟨f, hf, hformat⟩)
  · rw [hload] at hl
    cases hl
  · rw [hload] at hf
    cases hf
    cases hformat

end LayoutQuery.Layout

import LayoutQuery.Proofs.Condition.Acceptance

/-! # Rejection
A text that does not parse fails at one stage of reading, and that stage decides the error. The
stages are described by the parts that a text has or lacks, without regard to any reader. -/
namespace LayoutQuery.Condition

open Text

/-- The first stage that fails, and its error. Each stage presupposes the ones before it. -/
inductive Rejected (t : String) : ParseError → Prop where
  | noKeyword : (∀ word body, ¬ Opens t.toList word body) → Rejected t (.malformed t .noKeyword)
  | unknownKeyword {word body : List Char} : Opens t.toList word body →
      (∀ keyword : Keyword, ¬ Spells word keyword.word) →
      Rejected t (.unknownKeyword (String.ofList word))
  | noComparison {word body : List Char} {keyword : Keyword} : Opens t.toList word body →
      Spells word keyword.word → (∀ r, ¬ Compares body r) →
      Rejected t (.malformed t (.noComparison (String.ofList word)))
  | trailingInput {word body : List Char} {r : Comparison} {keyword : Keyword} :
      Opens t.toList word body → Spells word keyword.word → Compares body r →
      ¬ Only isGap r.rest → Rejected t (.malformed t .trailingInput)
  | amountTooLong {word body : List Char} {r : Comparison} {keyword : Keyword} :
      Opens t.toList word body → Spells word keyword.word → Compares body r →
      Only isGap r.rest → 4300 < r.digits.length →
      Rejected t (.amountTooLong ⟨r.digits.length⟩)
  | unknownRoom {word body : List Char} {r : Comparison} :
      Opens t.toList word body → Spells word "count_unit" → Compares body r →
      Only isGap r.rest → r.digits.length ≤ 4300 →
      (∀ room type, RoomWord room type → ¬ Spells r.target room) →
      Rejected t (.unknownRoomType (String.ofList r.target))

variable {t : String} {word body : List Char} {r : Comparison} {e : ParseError} {p : Phrase}

/-! ## The stages -/

theorem readKeyword_eq_none_iff :
    readKeyword t.toList = none ↔ ∀ word body, ¬ Opens t.toList word body := by
  simp only [Option.eq_none_iff_forall_ne_some, Prod.forall, ne_eq, readKeyword_eq_some_iff]

theorem readComparison_eq_none_iff : readComparison body = none ↔ ∀ r, ¬ Compares body r := by
  simp only [Option.eq_none_iff_forall_ne_some, ne_eq, readComparison_eq_some_iff]

theorem ofChars?_eq_none_iff :
    Keyword.ofChars? word = none ↔ ∀ keyword : Keyword, ¬ Spells word keyword.word := by
  simp only [Option.eq_none_iff_forall_ne_some, ne_eq, ofChars?_eq_some_iff]

theorem ofToken?_eq_none_iff {target : List Char} (h : Only isTargetChar target) :
    RoomType.ofToken? (String.ofList target) = none ↔
      ∀ room type, RoomWord room type → ¬ Spells target room := by
  simp only [Option.eq_none_iff_forall_ne_some, ne_eq, ofToken?_word h, not_exists, not_and]
  exact forall_comm

theorem readSubject_eq_error_iff {keyword : Keyword} {target : String} :
    readSubject keyword target = .error e ↔
      keyword = .countUnit ∧ RoomType.ofToken? target = none ∧ e = .unknownRoomType target := by
  cases keyword with
  | count => simp [readSubject]
  | countUnit => cases htype : RoomType.ofToken? target <;> simp [readSubject, htype, eq_comm]

theorem Compares.target (h : Compares body r) : Only isTargetChar r.target := by
  obtain ⟨before, after, hformed, -⟩ := h
  exact hformed.target

/-! ## The stage that fails -/

theorem rejected_of_parse (h : parse t = .error e) : Rejected t e := by
  -- one split for each stage, and what passed a stage is a premise of those behind it
  unfold parse at h
  split at h
  next hnone =>
    cases h
    exact .noKeyword (readKeyword_eq_none_iff.mp hnone)
  next word body hword =>
  have hopens := readKeyword_eq_some_iff.mp hword
  split at h
  next hnone =>
    cases h
    exact .unknownKeyword hopens (ofChars?_eq_none_iff.mp hnone)
  next keyword hkeyword =>
  have hspells := ofChars?_eq_some_iff.mp hkeyword
  split at h
  next hnone =>
    cases h
    exact .noComparison hopens hspells (readComparison_eq_none_iff.mp hnone)
  next r hcomparison =>
  have hcompares := readComparison_eq_some_iff.mp hcomparison
  split at h
  next hmore =>
    cases h
    exact .trailingInput hopens hspells hcompares (by simpa [Only] using hmore)
  next hall =>
  have hrest : Only isGap r.rest := by simpa [Only] using hall
  split at h
  next fault hlong =>
    cases h
    obtain ⟨hlength, rfl⟩ := readNatural_eq_error_iff.mp hlong
    exact .amountTooLong hopens hspells hcompares hrest hlength
  next amount hamount =>
    have hlength := (readNatural_eq_ok_iff.mp hamount).1
    rcases bind_eq_error_iff.mp h with hsubject | ⟨subject, -, hok⟩
    · obtain ⟨rfl, hroom, rfl⟩ := readSubject_eq_error_iff.mp hsubject
      exact .unknownRoom hopens hspells hcompares hrest hlength
        ((ofToken?_eq_none_iff hcompares.target).mp hroom)
    · cases hok

theorem parse_text_too_long (hp : p.Lexical) {keyword : Keyword}
    (hspells : Spells p.keyword keyword.word) (hlength : 4300 < p.digits.length) :
    parse p.text = .error (.amountTooLong ⟨p.digits.length⟩) := by
  rw [parse_text hp, ofChars?_eq_some_iff.mpr hspells,
    readNatural_eq_error_iff.mpr ⟨hlength, rfl⟩]

theorem parse_text_unknown_room (hp : p.Lexical) (hspells : Spells p.keyword "count_unit")
    (hlength : p.digits.length ≤ 4300)
    (hroom : ∀ room type, RoomWord room type → ¬ Spells p.target room) :
    parse p.text = .error (.unknownRoomType (String.ofList p.target)) := by
  have hkeyword : Keyword.ofChars? p.keyword = some .countUnit := ofChars?_eq_some_iff.mpr hspells
  have htype := (ofToken?_eq_none_iff hp.target).mpr hroom
  rw [parse_text hp, hkeyword, readNatural_eq_ok_iff.mpr ⟨hlength, rfl⟩]
  simp only [readSubject, htype]
  rfl

theorem Rejected.parse_eq (h : Rejected t e) : parse t = .error e := by
  cases h with
  | noKeyword hnone => simp only [parse, readKeyword_eq_none_iff.mpr hnone]
  | unknownKeyword hopens hnone =>
    simp only [parse, readKeyword_eq_some_iff.mpr hopens, ofChars?_eq_none_iff.mpr hnone]
  | noComparison hopens hspells hnone =>
    simp only [parse, readKeyword_eq_some_iff.mpr hopens, ofChars?_eq_some_iff.mpr hspells,
      readComparison_eq_none_iff.mpr hnone]
  | @trailingInput word body r keyword hopens hspells hcompares hmore =>
    have hall : r.rest.all isGap = false := Bool.eq_false_iff.mpr (mt List.all_eq_true.mp hmore)
    simp only [parse, readKeyword_eq_some_iff.mpr hopens, ofChars?_eq_some_iff.mpr hspells,
      readComparison_eq_some_iff.mpr hcompares, hall]
    rfl
  | amountTooLong hopens hspells hcompares hrest hlength =>
    obtain ⟨p, hp, rfl, rfl, rfl⟩ := exists_phrase hopens hcompares hrest
    exact parse_text_too_long hp hspells hlength
  | unknownRoom hopens hspells hcompares hrest hlength hroom =>
    obtain ⟨p, hp, rfl, rfl, rfl⟩ := exists_phrase hopens hcompares hrest
    exact parse_text_unknown_room hp hspells hlength hroom

theorem Rejected.unique {e' : ParseError} (h : Rejected t e) (h' : Rejected t e') : e = e' := by
  have heq := h.parse_eq.symm.trans h'.parse_eq
  exact Except.error.inj heq

/-- A text that opens with a known keyword is malformed or a phrase. -/
theorem malformed_of_no_phrase {keyword : Keyword} (hopens : Opens t.toList word body)
    (hspells : Spells word keyword.word) (hnone : ∀ p : Phrase, p.Lexical → p.text ≠ t) :
    ∃ reason, parse t = .error (.malformed t reason) := by
  cases hparse : parse t with
  | ok c =>
    obtain ⟨p, hp, ht⟩ := exists_phrase_of_parse hparse
    exact absurd ht (hnone p hp)
  | error e =>
    cases rejected_of_parse hparse with
    | noKeyword hnoKeyword => exact ⟨_, rfl⟩
    | unknownKeyword hopens' hunknown =>
      obtain ⟨rfl, -⟩ := hopens.unique hopens'
      exact absurd hspells (hunknown keyword)
    | noComparison hopens' hspells' hnoComparison => exact ⟨_, rfl⟩
    | trailingInput hopens' hspells' hcompares hmore => exact ⟨_, rfl⟩
    | amountTooLong hopens' hspells' hcompares hrest hlength =>
      obtain ⟨p, hp, ht, -⟩ := exists_phrase hopens' hcompares hrest
      exact absurd ht (hnone p hp)
    | unknownRoom hopens' hspells' hcompares hrest hlength hroom =>
      obtain ⟨p, hp, ht, -⟩ := exists_phrase hopens' hcompares hrest
      exact absurd ht (hnone p hp)

/-- A text fails with the error of the first stage that fails in it. There is one such stage when it
does not parse, and an error that quotes the text quotes all of it. -/
theorem parse_fails_at_first_stage (t : String) :
    (∀ e, parse t = .error e ↔ Rejected t e) ∧
    ((∀ c, parse t ≠ .ok c) → ∃! e, Rejected t e) ∧
    ∀ text reason, parse t = .error (.malformed text reason) → text = t := by
  refine ⟨fun e => ⟨rejected_of_parse, Rejected.parse_eq⟩, ?_, ?_⟩
  · intro hfails
    cases hparse : parse t with
    | ok c => exact absurd hparse (hfails c)
    | error e =>
      have hrejected := rejected_of_parse hparse
      exact ⟨e, hrejected, fun e' he' => he'.unique hrejected⟩
  · intro text reason h
    cases rejected_of_parse h <;> rfl

/-- The target is no room either, but what stands behind the digits comes first. -/
theorem parse_fails_at_first_stage_trailing :
    let t := " Count_UNIT\tGarage<012 ;"
    (∀ c, parse t ≠ .ok c) ∧ parse t = .error (.malformed t .trailingInput) ∧
      ∃! e, Rejected t e := by
  intro t
  have hopens : Opens t.toList "Count_UNIT".toList "Garage<012 ;".toList :=
    ⟨[' '], ['\t'], ⟨by decide, by decide, by decide, by decide, by decide, by simp [isGap]⟩,
      by decide⟩
  have hcompares : Compares "Garage<012 ;".toList
      ⟨"Garage".toList, .less, "012".toList, [' ', ';']⟩ :=
    ⟨[], [], ⟨by decide, by decide, by decide, by decide, by decide, by decide, by simp [isDigit]⟩,
      by decide⟩
  have hspells : Spells "Count_UNIT".toList Keyword.countUnit.word := by decide
  have herror := ((parse_fails_at_first_stage t).1 _).mpr
    (.trailingInput hopens hspells hcompares (by decide))
  have hfails : ∀ c, parse t ≠ .ok c := by
    intro c hc
    rw [herror] at hc
    cases hc
  exact ⟨hfails, herror, (parse_fails_at_first_stage t).2.1 hfails⟩

/-! ## Numerals that are too long -/

theorem exists_long_phrase_iff :
    (∃ fault, parse t = .error (.amountTooLong fault)) ↔
      ∃ p : Phrase, p.Shaped ∧ p.text = t ∧
        (∃ keyword : Keyword, Spells p.keyword keyword.word) ∧ 4300 < p.digits.length := by
  constructor
  · rintro ⟨fault, h⟩
    cases rejected_of_parse h with
    | amountTooLong hopens hspells hcompares hrest hlength =>
      obtain ⟨p, hp, ht, rfl, rfl⟩ := exists_phrase hopens hcompares hrest
      exact ⟨p, hp.toShaped, ht, ⟨_, hspells⟩, hlength⟩
  · rintro ⟨p, hp, rfl, ⟨keyword, hspells⟩, hlength⟩
    exact ⟨_, parse_text_too_long (hp.lexical hspells) hspells hlength⟩

theorem isConditionError_eq_false_iff :
    e.isConditionError = false ↔ ∃ fault, e = .amountTooLong fault := by
  cases e <;> simp [ParseError.isConditionError]

/-- Reading gives a condition, or an error about the text as a condition, unless the text is a
phrase whose numeral is too long. A numeral behind `count` may have up to 4300 digits, and the
amount is what they say. -/
theorem parse_answers_iff (t : String) :
    (((∃ c, parse t = .ok c) ∨ ∃ e, parse t = .error e ∧ e.isConditionError = true) ↔
      ¬ ∃ p : Phrase, p.Shaped ∧ p.text = t ∧
        (∃ keyword : Keyword, Spells p.keyword keyword.word) ∧ 4300 < p.digits.length) ∧
    ∀ p : Phrase, p.Shaped → Spells p.keyword "count" → p.text = t →
      parse t = if p.digits.length ≤ 4300
        then .ok ⟨.entity (String.ofList p.target), p.relation, decimalValue p.digits⟩
        else .error (.amountTooLong ⟨p.digits.length⟩) := by
  constructor
  · rw [← exists_long_phrase_iff]
    cases hparse : parse t with
    | ok c => simp
    | error e =>
      have hforeign := isConditionError_eq_false_iff (e := e)
      simp [← hforeign]
  · rintro p hp hcount rfl
    have hspells : Spells p.keyword Keyword.count.word := hcount
    split_ifs with hlength
    · exact (parse_text_eq_ok_iff (hp.lexical hspells)).mpr ⟨hlength, .entity hcount, rfl, rfl⟩
    · exact parse_text_too_long (hp.lexical hspells) hspells (Nat.lt_of_not_le hlength)

/-- A condition with any digits. -/
def fewerShips (digits : List Char) : Phrase :=
  ⟨[], "count".toList, [' '], "ship".toList, [' '], .less, [' '], digits, []⟩

theorem fewerShips_shaped {digits : List Char} (hne : digits ≠ []) (h : Only isDigit digits) :
    (fewerShips digits).Shaped := by
  have hspaced : (fewerShips digits).Spaced := ⟨rfl, rfl, rfl, rfl, rfl⟩
  exact hspaced.shaped (by simp [fewerShips]) (by decide : Only isTargetChar "ship".toList) hne h

theorem text_fewerShips (digits : List Char) :
    (fewerShips digits).text = "count ship < " ++ String.ofList digits := by
  rw [Phrase.text, ofList_eq_iff]
  simp [Phrase.body, fewerShips, Comparison.chars, Phrase.comparison, Relation.symbol]

theorem fewerShips_ones {count : Nat} (h : 0 < count) :
    (fewerShips (List.replicate count '1')).Shaped := by
  apply fewerShips_shaped
  · exact List.ne_nil_of_length_pos (by rwa [List.length_replicate])
  · intro c hc
    rw [List.eq_of_mem_replicate hc]
    decide

/-- One digit more than can be read. -/
theorem parse_answers_iff_long :
    let p := fewerShips (List.replicate 4301 '1')
    p.Shaped ∧ Spells p.keyword "count" ∧ parse p.text = .error (.amountTooLong ⟨4301⟩) := by
  intro p
  have hshaped : p.Shaped := fewerShips_ones (by omega)
  have hcount : Spells p.keyword "count" := (by decide : Spells "count".toList "count")
  have hlength : p.digits.length = 4301 := List.length_replicate
  have hparse := (parse_answers_iff p.text).2 p hshaped hcount rfl
  rw [hlength, if_neg (by omega)] at hparse
  exact ⟨hshaped, hcount, hparse⟩

/-- A condition with 4301 digits is refused, and not by an error about conditions. -/
theorem parse_leaves_long_amounts :
    let t := "count ship < " ++ String.ofList (List.replicate 4301 '1')
    ¬ ((∃ c, parse t = .ok c) ∨ ∃ e, parse t = .error e ∧ e.isConditionError = true) := by
  intro t
  have hspells : Spells "count".toList Keyword.count.word := by decide
  have hshaped : (fewerShips (List.replicate 4301 '1')).Shaped := fewerShips_ones (by omega)
  have hlength : 4300 < (List.replicate 4301 '1').length := by
    rw [List.length_replicate]
    omega
  have hparse := parse_text_too_long (hshaped.lexical hspells) hspells hlength
  rw [text_fewerShips] at hparse
  rintro (⟨c, hc⟩ | ⟨e, he, hcondition⟩)
  · cases hparse.symm.trans hc
  · cases hparse.symm.trans he
    cases hcondition

end LayoutQuery.Condition

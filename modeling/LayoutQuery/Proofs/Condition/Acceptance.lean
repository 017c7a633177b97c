import LayoutQuery.Proofs.Condition.Grammar
import LayoutQuery.Proofs.Except
import LayoutQuery.Proofs.Text.CaseMaps
import LayoutQuery.Proofs.Text.Numeral

/-! # Acceptance
Each reader takes off exactly the parts that the grammar puts there, so a text parses if and only if
it is a phrase of the language, and to what the phrase denotes. -/
namespace LayoutQuery.Condition

open Text

/-! ## The readers -/

section Readers

variable {cs lead word gap body : List Char} {r : Comparison} {before after : List Char}

theorem Opening.readKeyword (h : Opening lead word gap body) :
    readKeyword (lead ++ (word ++ (gap ++ body))) = some (word, body) := by
  have hmore : (gap ++ body).head?.any isGap = true := by
    rw [head?_any_eq, takeWhile_run h.gap h.body]
    simpa using h.gap_ne
  simp only [Condition.readKeyword, dropWhile_run h.lead h.stops_word,
    takeWhile_run h.word h.stops_gap, dropWhile_run h.word h.stops_gap, hmore,
    dropWhile_run h.gap h.body]
  simp [h.word_ne]

theorem readKeyword_eq_some_iff : readKeyword cs = some (word, body) ↔ Opens cs word body := by
  constructor
  · intro h
    simp only [readKeyword, head?_any_eq, Option.ite_none_left_eq_some, Bool.or_eq_true,
      Bool.not_not, List.isEmpty_iff, Option.some.injEq, Prod.mk.injEq, not_or] at h
    obtain ⟨⟨hne, hgne⟩, rfl, rfl⟩ := h
    refine ⟨cs.takeWhile isGap, _, ⟨only_takeWhile _ _, hne, only_takeWhile _ _, hgne,
      only_takeWhile _ _, stops_dropWhile _ _⟩, ?_⟩
    simp only [List.takeWhile_append_dropWhile]
  · rintro ⟨lead, gap, h, rfl⟩
    exact h.readKeyword

theorem Comparison.Formed.readComparison (h : r.Formed before after) :
    readComparison (r.chars before after) = some r := by
  simp only [Condition.readComparison, Comparison.chars, takeWhile_run h.target (h.stops_before _),
    dropWhile_run h.target (h.stops_before _), dropWhile_run h.before (stops_at_symbol _ _),
    Relation.ofSymbol?_symbol, dropWhile_run h.after h.stops_digits,
    takeWhile_run h.digits h.rest, dropWhile_run h.digits h.rest]
  simp [h.target_ne, h.digits_ne]

theorem readComparison_eq_some_iff : readComparison cs = some r ↔ Compares cs r := by
  constructor
  · intro h
    -- the parts are the runs that the reader takes, so only their classes are left to show
    simp only [readComparison] at h
    split at h
    · cases h
    next symbol tail hsymbol =>
    split at h
    · cases h
    next relation hrelation =>
    simp only [Option.ite_none_left_eq_some, Bool.or_eq_true, List.isEmpty_iff, not_or,
      Option.some.injEq] at h
    obtain ⟨⟨hne, hdne⟩, rfl⟩ := h
    refine ⟨(cs.dropWhile isTargetChar).takeWhile isGap, tail.takeWhile isGap,
      ⟨hne, only_takeWhile _ _, only_takeWhile _ _, only_takeWhile _ _, hdne, only_takeWhile _ _,
        stops_dropWhile _ _⟩, ?_⟩
    simp only [Comparison.chars, List.takeWhile_append_dropWhile,
      Relation.symbol_of_ofSymbol? hrelation, ← hsymbol]
  · rintro ⟨before, after, h, rfl⟩
    exact h.readComparison

end Readers

theorem ofChars?_eq_some_iff {cs : List Char} {keyword : Keyword} :
    Keyword.ofChars? cs = some keyword ↔ Spells cs keyword.word := by
  constructor
  · intro h
    simp only [Keyword.ofChars?, ofList_eq_iff] at h
    split_ifs at h with hcount hunit
    · cases h
      exact hcount
    · cases h
      exact hunit
  · intro h
    have hlowered : String.ofList (cs.map Char.toLower) = keyword.word := ofList_eq_iff.mpr h
    cases keyword <;> simp [Keyword.ofChars?, hlowered, Keyword.word]

theorem tokens_lookup_iff {word : String} {type : RoomType} :
    RoomType.tokens.lookup word = some type ↔ RoomWord word type := by
  constructor
  · intro h
    have hmem : (word, type) ∈ RoomType.tokens := mem_of_lookup h
    simp only [RoomType.tokens, List.mem_cons, Prod.mk.injEq, List.not_mem_nil, or_false] at hmem
    rcases hmem with ⟨rfl, rfl⟩ | ⟨rfl, rfl⟩ | ⟨rfl, rfl⟩ | ⟨rfl, rfl⟩ | ⟨rfl, rfl⟩ <;> constructor
  · rintro (_ | _) <;> decide

theorem comesFromAscii_roomWord {word : String} {type : RoomType} (h : RoomWord word type) :
    Only comesFromAscii word.toList := by
  cases h <;> decide

/-- A token is a spelling of a word for a room, but for the blanks around it. Lowering all characters
and not only the letters A to Z makes no other text a token. -/
theorem ofToken?_eq_some_iff {s : String} {type : RoomType} :
    RoomType.ofToken? s = some type ↔ ∃ word, RoomWord word type ∧ Spells (trim s).toList word := by
  rw [RoomType.ofToken?, tokens_lookup_iff]
  constructor
  · intro hword
    exact ⟨_, hword, (lower_eq_iff (comesFromAscii_roomWord hword)).mp rfl⟩
  · rintro ⟨word, hword, hspells⟩
    rwa [(lower_eq_iff (comesFromAscii_roomWord hword)).mpr hspells]

theorem ofToken?_word {cs : List Char} (h : Only isTargetChar cs) {type : RoomType} :
    RoomType.ofToken? (String.ofList cs) = some type ↔ ∃ word, RoomWord word type ∧ Spells cs word := by
  rw [ofToken?_eq_some_iff, trim_word h, String.toList_ofList]

/-! ## Parsing a phrase -/

variable {p q : Phrase}

theorem Phrase.Shaped.readComparison_body (h : p.Shaped) :
    readComparison p.body = some p.comparison := h.formed.readComparison

theorem Phrase.Lexical.readKeyword_text (h : p.Lexical) :
    readKeyword p.text.toList = some (p.keyword, p.body) := by
  rw [Phrase.text, String.toList_ofList]
  exact h.opening.readKeyword

/-- Once a text has the shape of a condition, three things are left to go wrong, in this order. -/
theorem parse_text (h : p.Lexical) :
    parse p.text =
      match Keyword.ofChars? p.keyword with
      | none => .error (.unknownKeyword (String.ofList p.keyword))
      | some keyword =>
        match readNatural p.digits with
        | .error fault => .error (.amountTooLong fault)
        | .ok amount =>
          readSubject keyword (String.ofList p.target) >>= fun subject =>
            .ok ⟨subject, p.relation, amount⟩ := by
  have htrail : p.trail.all isGap = true := List.all_eq_true.mpr h.trail
  simp only [parse, h.readKeyword_text, h.readComparison_body, Phrase.comparison, htrail]
  rfl

/-- What the readers take off makes a phrase, whatever its keyword and its numeral are, when only
gaps are left. -/
theorem exists_phrase {t : String} {word body : List Char} {r : Comparison}
    (hopens : Opens t.toList word body) (hcompares : Compares body r) (hrest : Only isGap r.rest) :
    ∃ p : Phrase, p.Lexical ∧ p.text = t ∧ p.keyword = word ∧ p.comparison = r := by
  obtain ⟨lead, gap, hopening, ht⟩ := hopens
  obtain ⟨before, after, hformed, rfl⟩ := hcompares
  refine ⟨⟨lead, word, gap, r.target, before, r.relation, after, r.digits, r.rest⟩, ?_,
    ofList_eq_iff.mpr ht.symm, rfl, rfl⟩
  exact {
    lead := hopening.lead, keyword_ne := hopening.word_ne, keyword := hopening.word
    gap_ne := hopening.gap_ne, gap := hopening.gap
    target_ne := hformed.target_ne, target := hformed.target, before := hformed.before
    after := hformed.after, digits_ne := hformed.digits_ne, digits := hformed.digits
    trail := hrest }

theorem exists_phrase_of_parse {t : String} {c : Condition} (h : parse t = .ok c) :
    ∃ p : Phrase, p.Lexical ∧ p.text = t := by
  unfold parse at h
  split at h
  · cases h
  next word body hkeyword =>
  split at h
  · cases h
  split at h
  · cases h
  next r hcomparison =>
  split at h
  · cases h
  next hall =>
  have hrest : Only isGap r.rest := by simpa [Only] using hall
  obtain ⟨p, hp, ht, -⟩ := exists_phrase (readKeyword_eq_some_iff.mp hkeyword)
    (readComparison_eq_some_iff.mp hcomparison) hrest
  exact ⟨p, hp, ht⟩

theorem readSubject_countUnit_iff {target : String} {s : Subject} :
    readSubject .countUnit target = .ok s ↔
      ∃ type, RoomType.ofToken? target = some type ∧ s = .room type := by
  cases htype : RoomType.ofToken? target with
  | none => simp [readSubject, htype]
  | some type => simp [readSubject, htype, eq_comm]

theorem Phrase.Shaped.readSubject_iff (h : p.Shaped) {keyword : Keyword}
    (hkeyword : Spells p.keyword keyword.word) {s : Subject} :
    readSubject keyword (String.ofList p.target) = .ok s ↔ p.Counts s := by
  cases keyword with
  | count =>
    constructor
    · intro heq
      cases heq
      exact .entity hkeyword
    · rintro (_ | ⟨hunit, -, -⟩)
      · rfl
      · exact absurd (spells_unique hkeyword hunit) (by decide)
  | countUnit =>
    rw [readSubject_countUnit_iff]
    constructor
    · rintro ⟨type, htype, rfl⟩
      obtain ⟨word, hword, hspells⟩ := (ofToken?_word h.target).mp htype
      exact .room hkeyword hword hspells
    · rintro (hcount | ⟨-, hword, hspells⟩)
      · exact absurd (spells_unique hkeyword hcount) (by decide)
      · exact ⟨_, (ofToken?_word h.target).mpr ⟨_, hword, hspells⟩, rfl⟩

theorem Phrase.Counts.known {s : Subject} (h : p.Counts s) :
    ∃ keyword : Keyword, Spells p.keyword keyword.word := by
  cases h with
  | entity hcount => exact ⟨.count, hcount⟩
  | room hunit _ _ => exact ⟨.countUnit, hunit⟩

theorem parse_text_eq_ok_iff (h : p.Lexical) {c : Condition} :
    parse p.text = .ok c ↔ p.digits.length ≤ 4300 ∧ p.Denotes c := by
  rw [parse_text h]
  constructor
  · intro hok
    split at hok
    · cases hok
    next keyword hkeyword =>
    split at hok
    · cases hok
    next amount hamount =>
    obtain ⟨hlength, hvalue⟩ := readNatural_eq_ok_iff.mp hamount
    obtain ⟨subject, hsubject, heq⟩ := bind_eq_ok_iff.mp hok
    cases heq
    have hcounts := (h.readSubject_iff (ofChars?_eq_some_iff.mp hkeyword)).mp hsubject
    exact ⟨hlength, hcounts, rfl, hvalue⟩
  · rintro ⟨hlength, hcounts, hrelation, hamount⟩
    obtain ⟨keyword, hkeyword⟩ := hcounts.known
    have hsubject := (h.readSubject_iff hkeyword).mpr hcounts
    simp only [ofChars?_eq_some_iff.mpr hkeyword, readNatural_eq_ok_iff.mpr ⟨hlength, rfl⟩,
      hsubject, ← hrelation, ← hamount]
    rfl

theorem Phrase.Counts.room_word {s : Subject} (h : p.Counts s)
    (hunit : Spells p.keyword "count_unit") :
    ∃ word type, RoomWord word type ∧ Spells p.target word := by
  cases h with
  | entity hcount => exact absurd (spells_unique hcount hunit) (by decide)
  | room _ hword hspells => exact ⟨_, _, hword, hspells⟩

/-- No phrase denotes two conditions. -/
theorem Phrase.Denotes.unique (h : p.Shaped) {c d : Condition} (hc : p.Denotes c)
    (hd : p.Denotes d) : c = d := by
  obtain ⟨hcounts, hrelation, hamount⟩ := hc
  obtain ⟨hcounts', hrelation', hamount'⟩ := hd
  obtain ⟨keyword, hkeyword⟩ := hcounts.known
  have hsubject : c.subject = d.subject := by
    have hread := (h.readSubject_iff hkeyword).mpr hcounts
    rw [(h.readSubject_iff hkeyword).mpr hcounts'] at hread
    exact (Except.ok.inj hread).symm
  exact Condition.ext hsubject (hrelation.trans hrelation'.symm) (hamount.trans hamount'.symm)

theorem Phrase.Grammatical.exists_denotes (h : p.Grammatical) : ∃ c, p.Denotes c := by
  rcases h.known with hcount | hunit
  · exact ⟨⟨_, _, _⟩, .entity hcount, rfl, rfl⟩
  · obtain ⟨word, type, hword, hspells⟩ := h.room hunit
    exact ⟨⟨_, _, _⟩, .room hunit hword hspells, rfl, rfl⟩

theorem Phrase.Denotes.grammatical (h : p.Shaped) (hle : p.digits.length ≤ 4300) {c : Condition}
    (hc : p.Denotes c) : p.Grammatical := by
  refine { toShaped := h, known := ?_, room := ?_, digits_le := hle }
  · obtain ⟨_ | _, hkeyword⟩ := hc.1.known
    · exact .inl hkeyword
    · exact .inr hkeyword
  · exact hc.1.room_word

/-- A text parses if and only if it is a phrase of the language, and to what the phrase denotes.
Each phrase denotes one condition, and each text is one phrase only. -/
theorem parse_accepts_grammar (t : String) :
    (∀ c, parse t = .ok c ↔ ∃ p : Phrase, p.Grammatical ∧ p.text = t ∧ p.Denotes c) ∧
    (∀ p : Phrase, p.Grammatical → ∃! c, p.Denotes c) ∧
    ∀ p q : Phrase, p.Grammatical → q.Grammatical → p.text = t → q.text = t → p = q := by
  refine ⟨?_, ?_, ?_⟩
  · intro c
    constructor
    · intro h
      obtain ⟨p, hp, rfl⟩ := exists_phrase_of_parse h
      obtain ⟨hle, hc⟩ := (parse_text_eq_ok_iff hp).mp h
      exact ⟨p, hc.grammatical hp.toShaped hle, rfl, hc⟩
    · rintro ⟨p, hp, rfl, hc⟩
      exact (parse_text_eq_ok_iff hp.lexical).mpr ⟨hp.digits_le, hc⟩
  · intro p hp
    obtain ⟨c, hc⟩ := hp.exists_denotes
    exact ⟨c, hc, fun d hd => hd.unique hp.toShaped hc⟩
  · intro p q hp hq hpt hqt
    exact text_injective hp.lexical hq.lexical (hpt.trans hqt.symm)

/-- Mixed case, tabs, no gap before the comparator and zeros in front. -/
theorem parse_accepts_grammar_hallway :
    parse "\tCount_UNIT \tHALLway>\t0042 " = .ok ⟨.room .hallway, .greater, 42⟩ := by
  refine ((parse_accepts_grammar _).1 _).mpr ⟨⟨['\t'], "Count_UNIT".toList, [' ', '\t'],
    "HALLway".toList, [], .greater, ['\t'], "0042".toList, [' ']⟩, ?_, rfl, ?_⟩
  · exact {
      lead := by decide, gap_ne := by decide, gap := by decide, target_ne := by decide,
      target := by decide, before := by decide, after := by decide, digits_ne := by decide,
      digits := by decide, trail := by decide, known := .inr (by decide),
      room := fun _ => ⟨_, _, .hallway, by decide⟩, digits_le := by decide }
  · exact ⟨.room (by decide) .hallway (by decide), rfl, by decide⟩

end LayoutQuery.Condition

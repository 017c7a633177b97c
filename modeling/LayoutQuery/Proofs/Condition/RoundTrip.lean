import LayoutQuery.Proofs.Condition.Rejection
import LayoutQuery.Proofs.Condition.Rendering

/-! # Reading back
What a condition is rendered as reads back as that condition if and only if the language has a word
for its target. Every other name that a condition can hold makes a text that is no phrase at all. -/
namespace LayoutQuery.Condition

open Text

/-- A name that can stand in the text of a condition. -/
def IsWord (s : String) : Prop := s ≠ "" ∧ Only isTargetChar s.toList

instance (s : String) : Decidable (IsWord s) := inferInstanceAs (Decidable (_ ∧ _))

/-- The parts of the canonical text, which are a phrase's if the target is a word. -/
def phrase (c : Condition) : Phrase where
  lead := []
  keyword := c.subject.keyword.toList
  gap := [' ']
  target := c.subject.target.toList
  before := [' ']
  relation := c.relation
  after := [' ']
  digits := decimal c.amount
  trail := []

variable {c : Condition} {t : String} {p : Phrase}

theorem text_phrase (c : Condition) : c.phrase.text = c.render := by
  rw [Phrase.text, ofList_eq_iff, toList_render]
  simp [phrase, Phrase.body, Phrase.comparison, Comparison.chars]

/-! ## From a word and back -/

theorem keyword_ne_nil (s : Subject) : s.keyword.toList ≠ [] := by
  cases s with
  | entity name => exact (by decide : "count".toList ≠ [])
  | room type => exact (by decide : "count_unit".toList ≠ [])

theorem shaped_phrase (h : IsWord c.subject.target) : c.phrase.Shaped := by
  have hspaced : c.phrase.Spaced := ⟨rfl, rfl, rfl, rfl, rfl⟩
  apply hspaced.shaped
  · exact fun hnil => h.1 (String.toList_eq_nil_iff.mp hnil)
  · exact h.2
  · exact decimal_ne_nil _
  · exact only_decimal _

theorem roomWord_token (type : RoomType) : RoomWord type.token type := by
  cases type <;> constructor

theorem spells_token (type : RoomType) : Spells type.token.toList type.token := by
  cases type <;> decide

theorem isWord_token (type : RoomType) : IsWord type.token := by
  cases type <;> decide

theorem counts_phrase (c : Condition) : c.phrase.Counts c.subject := by
  obtain ⟨subject, relation, amount⟩ := c
  cases subject with
  | entity name =>
    have hspells : Spells (Subject.entity name).keyword.toList "count" :=
      (by decide : Spells "count".toList "count")
    have hcounts : (phrase ⟨.entity name, relation, amount⟩).Counts
        (.entity (String.ofList name.toList)) := .entity hspells
    rwa [String.ofList_toList] at hcounts
  | room type =>
    have hspells : Spells (Subject.room type).keyword.toList "count_unit" :=
      (by decide : Spells "count_unit".toList "count_unit")
    exact .room hspells (roomWord_token type) (spells_token type)

theorem lexical_phrase (h : IsWord c.subject.target) : c.phrase.Lexical := by
  obtain ⟨keyword, hspells⟩ := (counts_phrase c).known
  exact (shaped_phrase h).lexical hspells

theorem parse_render (h : IsWord c.subject.target) (hle : (decimal c.amount).length ≤ 4300) :
    parse c.render = .ok c := by
  rw [← text_phrase]
  exact (parse_text_eq_ok_iff (lexical_phrase h)).mpr
    ⟨hle, counts_phrase c, rfl, (decimalValue_decimal _).symm⟩

theorem Phrase.Counts.isWord {s : Subject} (hp : p.Shaped) (h : p.Counts s) : IsWord s.target := by
  cases h with
  | entity hcount =>
    constructor
    · intro hnil
      exact hp.target_ne (ofList_eq_iff.mp hnil)
    · rw [Subject.target, String.toList_ofList]
      exact hp.target
  | room hunit hword hspells => exact isWord_token _

/-- What was read once has a word for its target and an amount that can be read again. -/
theorem readable_of_parse (h : parse t = .ok c) :
    IsWord c.subject.target ∧ (decimal c.amount).length ≤ 4300 := by
  obtain ⟨p, hp, rfl⟩ := exists_phrase_of_parse h
  obtain ⟨hlength, hcounts, -, hamount⟩ := (parse_text_eq_ok_iff hp).mp h
  refine ⟨hcounts.isWord hp.toShaped, ?_⟩
  rw [hamount]
  exact (length_decimal_decimalValue hp.digits_ne hp.digits).trans hlength

/-! ## From the end -/

section FromTheEnd

variable {r r' : Comparison} {before after before' after' : List Char}

/-- Gaps, digits, gaps, a comparator and gaps at the end of a text, and in front of them anything
that does not end in a gap. -/
structure Comparison.Ended (r : Comparison) (before after : List Char) : Prop where
  target : Stops isGap r.target.reverse
  before : Only isGap before
  after : Only isGap after
  digits_ne : r.digits ≠ []
  digits : Only isDigit r.digits
  rest : Only isGap r.rest

theorem Comparison.chars_eq (r : Comparison) (before after : List Char) :
    r.chars before after =
      ((((r.target ++ before) ++ [r.relation.symbol]) ++ after) ++ r.digits) ++ r.rest := by
  simp [Comparison.chars]

theorem Comparison.Ended.stops_digits (h : r.Ended before after) (front : List Char) :
    Stops isGap (front ++ r.digits).reverse :=
  stops_reverse_append (fun _ => digit_excludes_gap) h.digits_ne h.digits

theorem Comparison.Ended.stops_after (h : r.Ended before after) (front : List Char) :
    Stops isDigit ((front ++ [r.relation.symbol]) ++ after).reverse := by
  -- the comparator ends the digits by itself where there is no gap behind it
  rcases List.eq_nil_or_concat after with hnil | ⟨gaps, c, rfl⟩
  · simp [hnil, (symbol_excluded r.relation).2.2]
  · have hgap : isGap c = true := h.after c (by simp)
    simp [(gap_excludes hgap).2.2]

theorem stops_behind_symbol (front : List Char) (r : Relation) :
    Stops isGap (front ++ [r.symbol]).reverse := by
  simp [(symbol_excluded r).2.1]

/-- Seen from its end a comparison is cut in one way only, whatever its target holds. -/
theorem Comparison.Ended.target_unique (h : r.Ended before after) (h' : r'.Ended before' after')
    (heq : r.chars before after = r'.chars before' after') : r.target = r'.target := by
  rw [r.chars_eq, r'.chars_eq] at heq
  obtain ⟨heq, -⟩ := run_unique_end (h.stops_digits _) h.rest (h'.stops_digits _) h'.rest heq
  obtain ⟨heq, -⟩ := run_unique_end (h.stops_after _) h.digits (h'.stops_after _) h'.digits heq
  obtain ⟨heq, -⟩ := run_unique_end (stops_behind_symbol _ _) h.after (stops_behind_symbol _ _)
    h'.after heq
  obtain ⟨heq, -⟩ := List.append_inj' heq rfl
  exact (run_unique_end h.target h.before h'.target h'.before heq).1

end FromTheEnd

/-- All of a phrase up to its target, taken as the target of a comparison. -/
def Phrase.whole (p : Phrase) : Comparison :=
  ⟨p.lead ++ (p.keyword ++ (p.gap ++ p.target)), p.relation, p.digits, p.trail⟩

theorem Phrase.toList_text (p : Phrase) : p.text.toList = p.whole.chars p.before p.after := by
  simp [Phrase.text, Phrase.whole, Phrase.body, Phrase.comparison, Comparison.chars]

theorem Phrase.Shaped.ended (h : p.Shaped) : p.whole.Ended p.before p.after where
  target := by
    have hback := stops_reverse_append (a := p.lead ++ (p.keyword ++ p.gap))
      (fun _ => target_excludes_gap) h.target_ne h.target
    simpa [Phrase.whole] using hback
  before := h.before
  after := h.after
  digits_ne := h.digits_ne
  digits := h.digits
  rest := h.trail

/-- A target as conditions hold it, with no gap at either end. -/
structure Stored (target : List Char) : Prop where
  front : Stops isGap target
  back : Stops isGap target.reverse

theorem ended_phrase (hne : c.subject.target.toList ≠ [])
    (hstored : Stored c.subject.target.toList) : c.phrase.whole.Ended [' '] [' '] where
  target := by
    have hback := (stops_append_iff (b := (c.subject.keyword.toList ++ [' ']).reverse)
      (List.reverse_ne_nil_iff.mpr hne)).mpr hstored.back
    simpa [Phrase.whole, phrase] using hback
  before := by simp [isGap]
  after := by simp [isGap]
  digits_ne := decimal_ne_nil _
  digits := only_decimal _
  rest := only_nil

/-- Without a target the gaps around it are one gap. -/
def targetless (c : Condition) : Comparison :=
  ⟨c.subject.keyword.toList, c.relation, decimal c.amount, []⟩

theorem ended_targetless (c : Condition) : c.targetless.Ended [' ', ' '] [' '] where
  target := stops_of_only (fun _ => keyword_excludes_gap) (only_reverse.mpr (only_keyword _))
  before := by simp [isGap]
  after := by simp [isGap]
  digits_ne := decimal_ne_nil _
  digits := only_decimal _
  rest := only_nil

theorem text_ne_of_target_eq_nil (hnil : c.subject.target.toList = []) (hp : p.Lexical) :
    p.text ≠ c.render := by
  intro ht
  have hchars : p.whole.chars p.before p.after = c.targetless.chars [' ', ' '] [' '] := by
    rw [← p.toList_text, ht, toList_render, hnil]
    simp [targetless, Comparison.chars]
  have hfront : p.lead ++ (p.keyword ++ (p.gap ++ p.target)) = c.subject.keyword.toList :=
    hp.ended.target_unique (ended_targetless c) hchars
  -- the phrase's own gap would have to stand inside the keyword
  obtain ⟨g, gap, hgap⟩ := List.exists_cons_of_ne_nil hp.gap_ne
  have hkeyword : isKeywordChar g = true := by
    apply only_keyword c.subject
    simp [← hfront, hgap]
  have hg : isGap g = true := hp.gap g (by simp [hgap])
  simp [keyword_excludes_gap hkeyword] at hg

/-- A phrase that spells a canonical text has that text's target for its own. -/
theorem target_of_text_eq (hstored : Stored c.subject.target.toList) (hp : p.Lexical)
    (ht : p.text = c.render) : p.target = c.subject.target.toList := by
  have hne : c.subject.target.toList ≠ [] := fun hnil => text_ne_of_target_eq_nil hnil hp ht
  have hchars : p.whole.chars p.before p.after = c.phrase.whole.chars [' '] [' '] := by
    have heq : p.text.toList = c.phrase.text.toList := by rw [ht, text_phrase]
    rwa [p.toList_text, c.phrase.toList_text] at heq
  -- from the end up to the target, which may hold anything, and then from the front
  have hfront := hp.ended.target_unique (ended_phrase hne hstored) hchars
  have hopening : Opening p.lead p.keyword p.gap p.target :=
    ⟨hp.lead, hp.keyword_ne, hp.keyword, hp.gap_ne, hp.gap,
      stops_of_only (fun _ => target_excludes_gap) hp.target⟩
  have hcanonical : Opening [] c.subject.keyword.toList [' '] c.subject.target.toList :=
    ⟨only_nil, keyword_ne_nil _, only_keyword _, by simp, by simp [isGap], hstored.front⟩
  exact (hopening.unique hcanonical hfront).2.2.2

theorem isWord_of_text_eq (hstored : Stored c.subject.target.toList) (hp : p.Lexical)
    (ht : p.text = c.render) : IsWord c.subject.target := by
  have htarget := target_of_text_eq hstored hp ht
  refine ⟨?_, by rw [← htarget]; exact hp.target⟩
  intro hnil
  apply hp.target_ne
  rw [htarget, hnil]
  rfl

/-! ## Names that are no words -/

theorem stored_trim (name : String) : Stored (trim name).toList where
  front := (stops_trim name).1.of_imp fun _ => isBlank_of_isGap
  back := (stops_trim name).2.of_imp fun _ => isBlank_of_isGap

theorem opens_render (c : Condition) :
    ∃ body, Opens c.render.toList c.subject.keyword.toList body := by
  obtain ⟨rest, hrender⟩ : ∃ rest, c.render.toList = c.subject.keyword.toList ++ ' ' :: rest := by
    rw [toList_render, List.append_assoc, List.append_assoc]
    exact ⟨_, rfl⟩
  refine ⟨rest.dropWhile isGap, [], ' ' :: rest.takeWhile isGap, ?_, ?_⟩
  · exact ⟨only_nil, keyword_ne_nil _, only_keyword _, List.cons_ne_nil _ _,
      only_cons.mpr ⟨by decide, only_takeWhile _ _⟩, stops_dropWhile _ _⟩
  · rw [hrender, List.nil_append, List.cons_append, List.takeWhile_append_dropWhile]

theorem malformed_render (hstored : Stored c.subject.target.toList)
    (hword : ¬ IsWord c.subject.target) :
    ∃ reason, parse c.render = .error (.malformed c.render reason) := by
  obtain ⟨body, hopens⟩ := opens_render c
  obtain ⟨keyword, hspells⟩ := (counts_phrase c).known
  apply malformed_of_no_phrase hopens hspells
  intro p hp ht
  exact hword (isWord_of_text_eq hstored hp ht)

theorem parse_render_eq_iff (hle : (decimal c.amount).length ≤ 4300) :
    parse c.render = .ok c ↔ IsWord c.subject.target :=
  ⟨fun h => (readable_of_parse h).1, fun h => parse_render h hle⟩

/-- What was parsed is rendered as a text that parses to it again. So is every condition on rooms,
and a condition on entities if and only if the name it holds is a word. With any other name the
text is malformed. -/
theorem render_parses_back_iff :
    (∀ t c, parse t = .ok c → parse c.render = .ok c) ∧
    (∀ type relation (amount : Nat), (decimal amount).length ≤ 4300 →
      let c : Condition := ⟨.room type, relation, amount⟩
      make (.room type) relation amount = .ok c ∧ parse c.render = .ok c) ∧
    ∀ name relation (amount : Nat), (decimal amount).length ≤ 4300 →
      let c : Condition := ⟨.entity (trim name), relation, amount⟩
      make (.entity name) relation amount = .ok c ∧
        (parse c.render = .ok c ↔ IsWord (trim name)) ∧
        (¬ IsWord (trim name) → ∃ reason, parse c.render = .error (.malformed c.render reason)) := by
  refine ⟨?_, ?_, ?_⟩
  · intro t c h
    obtain ⟨hword, hle⟩ := readable_of_parse h
    exact parse_render hword hle
  · intro type relation amount hle c
    exact ⟨rfl, parse_render (isWord_token type) hle⟩
  · intro name relation amount hle c
    have hstored : Stored c.subject.target.toList := stored_trim name
    exact ⟨rfl, parse_render_eq_iff (c := c) hle, malformed_render (c := c) hstored⟩

/-- Another spelling, a room, a name with blanks around it, and one that looks like a comparison. -/
theorem render_parses_back_iff_lookalike :
    let alcove : Condition := ⟨.room .deadEnd, .greater, 7⟩
    let hall : Condition := ⟨.room .hallway, .less, 120⟩
    let red : Condition := ⟨.entity (trim " Red-Bulborb_2\t"), .equal, 0⟩
    let lookalike : Condition := ⟨.entity (trim "\ta = 1 "), .less, 3⟩
    (parse "\tCOUNT_unit Alcove>007" = .ok alcove ∧ parse alcove.render = .ok alcove) ∧
    ((decimal 120).length ≤ 4300 ∧ parse hall.render = .ok hall) ∧
    ((decimal 0).length ≤ 4300 ∧ IsWord (trim " Red-Bulborb_2\t") ∧ parse red.render = .ok red) ∧
    (decimal 3).length ≤ 4300 ∧ ¬ IsWord (trim "\ta = 1 ") ∧
      ∃ reason, parse lookalike.render = .error (.malformed lookalike.render reason) := by
  intro alcove hall red lookalike
  have halcove : parse "\tCOUNT_unit Alcove>007" = .ok alcove := by decide
  have hhall : (decimal 120).length ≤ 4300 := (length_decimal_le 120).trans (by decide)
  have hred : (decimal 0).length ≤ 4300 := (length_decimal_le 0).trans (by decide)
  have hword : IsWord (trim " Red-Bulborb_2\t") := by decide
  have hlookalike : (decimal 3).length ≤ 4300 := (length_decimal_le 3).trans (by decide)
  have hother : ¬ IsWord (trim "\ta = 1 ") := by decide
  refine ⟨⟨halcove, ?_⟩, ⟨hhall, ?_⟩, ⟨hred, hword, ?_⟩, hlookalike, hother, ?_⟩
  · exact render_parses_back_iff.1 _ _ halcove
  · exact (render_parses_back_iff.2.1 .hallway .less 120 hhall).2
  · exact (render_parses_back_iff.2.2 " Red-Bulborb_2\t" .equal 0 hred).2.1.mpr hword
  · exact (render_parses_back_iff.2.2 "\ta = 1 " .less 3 hlookalike).2.2 hother

end LayoutQuery.Condition

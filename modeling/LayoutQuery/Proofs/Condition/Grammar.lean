import LayoutQuery.Proofs.Text.Letters

/-! # The grammar of conditions
A condition is written in nine parts: a keyword, a target, a comparator and digits, with gaps before,
between and after. The parts are described without regard to any reader, and no text has two
decompositions into them. -/
namespace LayoutQuery.Condition

open Text

def Comparison.chars (r : Comparison) (before after : List Char) : List Char :=
  r.target ++ (before ++ r.relation.symbol :: (after ++ (r.digits ++ r.rest)))

@[ext]
structure Phrase where
  lead : List Char
  keyword : List Char
  gap : List Char
  target : List Char
  before : List Char
  relation : Relation
  after : List Char
  digits : List Char
  trail : List Char
  deriving DecidableEq, Repr

namespace Phrase

def comparison (p : Phrase) : Comparison := ⟨p.target, p.relation, p.digits, p.trail⟩

def body (p : Phrase) : List Char := p.comparison.chars p.before p.after

def text (p : Phrase) : String :=
  String.ofList (p.lead ++ (p.keyword ++ (p.gap ++ p.body)))

end Phrase

/-- The same word but for the case of the letters A to Z. -/
def Spells (cs : List Char) (word : String) : Prop := cs.map Char.toLower = word.toList

instance (cs : List Char) (word : String) : Decidable (Spells cs word) :=
  inferInstanceAs (Decidable (_ = _))

def Keyword.word : Keyword → String
  | .count => "count"
  | .countUnit => "count_unit"

inductive RoomWord : String → RoomType → Prop where
  | room : RoomWord "room" .room
  | cap : RoomWord "cap" .deadEnd
  | alcove : RoomWord "alcove" .deadEnd
  | hall : RoomWord "hall" .hallway
  | hallway : RoomWord "hallway" .hallway

/-- Every part but the keyword is in its class. -/
structure Phrase.Shaped (p : Phrase) : Prop where
  lead : Only isGap p.lead
  gap_ne : p.gap ≠ []
  gap : Only isGap p.gap
  target_ne : p.target ≠ []
  target : Only isTargetChar p.target
  before : Only isGap p.before
  after : Only isGap p.after
  digits_ne : p.digits ≠ []
  digits : Only isDigit p.digits
  trail : Only isGap p.trail

/-- Single spaces stand between the parts, and nothing around them. -/
structure Phrase.Spaced (p : Phrase) : Prop where
  lead : p.lead = []
  gap : p.gap = [' ']
  before : p.before = [' ']
  after : p.after = [' ']
  trail : p.trail = []

/-- A phrase with any word for its keyword. -/
structure Phrase.Lexical (p : Phrase) : Prop extends p.Shaped where
  keyword_ne : p.keyword ≠ []
  keyword : Only isKeywordChar p.keyword

/-- A phrase of the language: a known keyword, behind `count_unit` a known room, and a numeral that
can be read. -/
structure Phrase.Grammatical (p : Phrase) : Prop extends p.Shaped where
  known : Spells p.keyword "count" ∨ Spells p.keyword "count_unit"
  room : Spells p.keyword "count_unit" → ∃ word type, RoomWord word type ∧ Spells p.target word
  digits_le : p.digits.length ≤ 4300

inductive Phrase.Counts (p : Phrase) : Subject → Prop where
  | entity : Spells p.keyword "count" → Counts p (.entity (String.ofList p.target))
  | room {word type} : Spells p.keyword "count_unit" → RoomWord word type →
      Spells p.target word → Counts p (.room type)

def Phrase.Denotes (p : Phrase) (c : Condition) : Prop :=
  p.Counts c.subject ∧ c.relation = p.relation ∧ c.amount = decimalValue p.digits

variable {p q : Phrase}

theorem Phrase.Spaced.shaped (h : p.Spaced) (htarget_ne : p.target ≠ [])
    (htarget : Only isTargetChar p.target) (hdigits_ne : p.digits ≠ [])
    (hdigits : Only isDigit p.digits) : p.Shaped where
  lead := by simp [h.lead]
  gap_ne := by simp [h.gap]
  gap := by simp [h.gap, isGap]
  target_ne := htarget_ne
  target := htarget
  before := by simp [h.before, isGap]
  after := by simp [h.after, isGap]
  digits_ne := hdigits_ne
  digits := hdigits
  trail := by simp [h.trail]

theorem isKeywordChar_of_toLower {c : Char} (h : isKeywordChar c.toLower = true) :
    isKeywordChar c = true := by
  by_cases hc : 'A'.val ≤ c.val ∧ c.val ≤ 'Z'.val
  · have hletter : isLetter c = true := by
      simp only [isLetter, Char.le_def, hc.1, hc.2, decide_true, Bool.and_self, Bool.or_true]
    simp [isKeywordChar, hletter]
  · have hsame : c.toLower = c := dif_neg hc
    rwa [hsame] at h

theorem only_of_spells {cs : List Char} {word : String} (h : Spells cs word)
    (hword : Only isKeywordChar word.toList) : Only isKeywordChar cs := by
  intro c hc
  have hlower : c.toLower ∈ word.toList := h ▸ List.mem_map_of_mem hc
  exact isKeywordChar_of_toLower (hword _ hlower)

theorem only_roomWord {word : String} {type : RoomType} (h : RoomWord word type) :
    Only isKeywordChar word.toList := by
  cases h <;> decide

theorem isTargetChar_of_isKeywordChar {c : Char} (h : isKeywordChar c = true) :
    isTargetChar c = true := by
  simp only [isKeywordChar, isTargetChar, Bool.or_eq_true] at h ⊢
  rcases h with (hletter | hunder) | hhyphen
  · exact .inl (.inl (.inl hletter))
  · exact .inl (.inr hunder)
  · exact .inr hhyphen

theorem only_of_spells_room {cs : List Char} {word : String} {type : RoomType}
    (h : Spells cs word) (hword : RoomWord word type) : Only isTargetChar cs :=
  fun c hc => isTargetChar_of_isKeywordChar (only_of_spells h (only_roomWord hword) c hc)

theorem Keyword.only_word (keyword : Keyword) : Only isKeywordChar keyword.word.toList := by
  cases keyword <;> decide

theorem Phrase.Shaped.lexical (h : p.Shaped) {keyword : Keyword}
    (hspells : Spells p.keyword keyword.word) : p.Lexical where
  toShaped := h
  keyword_ne := by
    rintro hnil
    cases keyword <;> simp [Spells, hnil, Keyword.word] at hspells
  keyword := only_of_spells hspells keyword.only_word

theorem Phrase.Grammatical.lexical (h : p.Grammatical) : p.Lexical := by
  obtain ⟨keyword, hspells⟩ : ∃ keyword : Keyword, Spells p.keyword keyword.word := by
    rcases h.known with hcount | hunit
    · exact ⟨.count, hcount⟩
    · exact ⟨.countUnit, hunit⟩
  exact h.toShaped.lexical hspells

theorem spells_unique {cs : List Char} {v w : String} (hv : Spells cs v) (hw : Spells cs w) :
    v = w :=
  String.toList_inj.mp (hv.symm.trans hw)

/-! ## Where the parts end -/

section Parts

variable {lead word gap body : List Char} {r : Comparison} {before after : List Char}

/-- A word between gaps, the first of which may be empty, in front of `body`. -/
structure Opening (lead word gap body : List Char) : Prop where
  lead : Only isGap lead
  word_ne : word ≠ []
  word : Only isKeywordChar word
  gap_ne : gap ≠ []
  gap : Only isGap gap
  body : Stops isGap body

/-- A comparison whose digits cannot be longer. -/
structure Comparison.Formed (r : Comparison) (before after : List Char) : Prop where
  target_ne : r.target ≠ []
  target : Only isTargetChar r.target
  before : Only isGap before
  after : Only isGap after
  digits_ne : r.digits ≠ []
  digits : Only isDigit r.digits
  rest : Stops isDigit r.rest

/-- A keyword, known or not, opens the text, and `body` stands behind the whole gap after it. -/
def Opens (cs word body : List Char) : Prop :=
  ∃ lead gap, Opening lead word gap body ∧ cs = lead ++ (word ++ (gap ++ body))

/-- The comparison `r`, with all the digits that stand there, is in front of the text. -/
def Compares (cs : List Char) (r : Comparison) : Prop :=
  ∃ before after, r.Formed before after ∧ cs = r.chars before after

theorem Opening.stops_word (h : Opening lead word gap body) :
    Stops isGap (word ++ (gap ++ body)) :=
  stops_append (fun _ => keyword_excludes_gap) h.word_ne h.word

theorem Opening.stops_gap (h : Opening lead word gap body) :
    Stops isKeywordChar (gap ++ body) :=
  stops_append (fun _ hc => (gap_excludes hc).1) h.gap_ne h.gap

theorem Opening.unique {lead' word' gap' body' : List Char} (h : Opening lead word gap body)
    (h' : Opening lead' word' gap' body')
    (heq : lead ++ (word ++ (gap ++ body)) = lead' ++ (word' ++ (gap' ++ body'))) :
    lead = lead' ∧ word = word' ∧ gap = gap' ∧ body = body' := by
  obtain ⟨hlead, heq⟩ := run_unique h.lead h.stops_word h'.lead h'.stops_word heq
  obtain ⟨hword, heq⟩ := run_unique h.word h.stops_gap h'.word h'.stops_gap heq
  obtain ⟨hgap, hbody⟩ := run_unique h.gap h.body h'.gap h'.body heq
  exact ⟨hlead, hword, hgap, hbody⟩

theorem Opens.unique {cs word' body' : List Char} (h : Opens cs word body)
    (h' : Opens cs word' body') : word = word' ∧ body = body' := by
  obtain ⟨lead, gap, hopening, rfl⟩ := h
  obtain ⟨lead', gap', hopening', heq⟩ := h'
  obtain ⟨-, hword, -, hbody⟩ := hopening.unique hopening' heq
  exact ⟨hword, hbody⟩

theorem stops_at_symbol (r : Relation) (tail : List Char) : Stops isGap (r.symbol :: tail) :=
  stops_cons.mpr (symbol_excluded r).2.1

theorem Comparison.Formed.stops_before (h : r.Formed before after) (tail : List Char) :
    Stops isTargetChar (before ++ r.relation.symbol :: tail) := by
  -- the comparator ends the target by itself where there is no gap before it
  cases before with
  | nil => exact stops_cons.mpr (symbol_excluded r.relation).1
  | cons c before => exact stops_cons.mpr (gap_excludes (only_cons.mp h.before).1).2.1

theorem Comparison.Formed.stops_digits (h : r.Formed before after) :
    Stops isGap (r.digits ++ r.rest) :=
  stops_append (fun _ => digit_excludes_gap) h.digits_ne h.digits

theorem symbol_injective {r r' : Relation} (h : r.symbol = r'.symbol) : r = r' := by
  have := Relation.ofSymbol?_symbol r
  rw [h, Relation.ofSymbol?_symbol r'] at this
  exact (Option.some.inj this).symm

theorem Comparison.Formed.unique {r' : Comparison} {before' after' : List Char}
    (h : r.Formed before after) (h' : r'.Formed before' after')
    (heq : r.chars before after = r'.chars before' after') :
    r.target = r'.target ∧ before = before' ∧ r.relation = r'.relation ∧ after = after' ∧
      r.digits = r'.digits ∧ r.rest = r'.rest := by
  obtain ⟨htarget, heq⟩ := run_unique h.target (h.stops_before _) h'.target (h'.stops_before _) heq
  obtain ⟨hbefore, heq⟩ := run_unique h.before (stops_at_symbol _ _) h'.before
    (stops_at_symbol _ _) heq
  obtain ⟨hsymbol, heq⟩ := List.cons.inj heq
  obtain ⟨hafter, heq⟩ := run_unique h.after h.stops_digits h'.after h'.stops_digits heq
  obtain ⟨hdigits, hrest⟩ := run_unique h.digits h.rest h'.digits h'.rest heq
  exact ⟨htarget, hbefore, symbol_injective hsymbol, hafter, hdigits, hrest⟩

end Parts

theorem Phrase.Shaped.formed (h : p.Shaped) : p.comparison.Formed p.before p.after where
  target_ne := h.target_ne
  target := h.target
  before := h.before
  after := h.after
  digits_ne := h.digits_ne
  digits := h.digits
  rest := stops_of_only (fun _ hc => (gap_excludes hc).2.2) h.trail

theorem Phrase.Lexical.opening (h : p.Lexical) : Opening p.lead p.keyword p.gap p.body where
  lead := h.lead
  word_ne := h.keyword_ne
  word := h.keyword
  gap_ne := h.gap_ne
  gap := h.gap
  body := stops_append (fun _ => target_excludes_gap) h.target_ne h.target

/-- The parts of a text are certain: behind every part stands a character that it cannot hold. -/
theorem text_injective (hp : p.Lexical) (hq : q.Lexical) (h : p.text = q.text) : p = q := by
  obtain ⟨hlead, hkeyword, hgap, hbody⟩ := hp.opening.unique hq.opening (String.ofList_inj.mp h)
  obtain ⟨htarget, hbefore, hrelation, hafter, hdigits, htrail⟩ :=
    hp.formed.unique hq.formed hbody
  exact Phrase.ext hlead hkeyword hgap htarget hbefore hrelation hafter hdigits htrail

end LayoutQuery.Condition

import LayoutQuery.Json.Reader
import LayoutQuery.Json.Writer
import LayoutQuery.Proofs.Json.Reading
import LayoutQuery.Proofs.Json.Strings
import LayoutQuery.Proofs.Text.CaseMaps
import LayoutQuery.Proofs.Text.Lines

/-! # Writing JSON
Texts that a writer may leave for a value without numbers, with blanks wherever they are allowed. -/
namespace LayoutQuery.Json

open Text

/-- What stands for a character between the quotes of a string. Only the quote, the backslash and
the characters below the space are escaped. -/
inductive WrittenChar : Char → List Char → Prop where
  | quote : WrittenChar '"' ['\\', '"']
  | backslash : WrittenChar '\\' ['\\', '\\']
  | control {c a b : Char} : c.toNat < 0x20 → a.toLower = hexDigit (c.toNat / 16) →
      b.toLower = hexDigit (c.toNat % 16) → WrittenChar c ['\\', 'u', '0', '0', a, b]
  | plain {c : Char} : c ≠ '"' → c ≠ '\\' → 0x20 ≤ c.toNat → WrittenChar c [c]

inductive WrittenChars : List Char → List Char → Prop where
  | nil : WrittenChars [] []
  | cons {c : Char} {cs ds es : List Char} : WrittenChar c ds → WrittenChars cs es →
      WrittenChars (c :: cs) (ds ++ es)

/-- A value, a member of an object, or a series of values or members with commas between. -/
inductive Part where
  | value (v : Json)
  | items (vs : List Json)
  | member (name : String) (v : Json)
  | members (ms : List (String × Json))

/-- The texts of a part. Blanks may stand around every item, name and value. -/
inductive Written : Part → List Char → Prop where
  | null : Written (.value .null) "null".toList
  | bool (b : Bool) : Written (.value (.bool b)) (if b then "true" else "false").toList
  | string {s : String} {cs : List Char} : WrittenChars s.toList cs →
      Written (.value (.string s)) ('"' :: (cs ++ ['"']))
  | noItems {gap : List Char} : Only isSpace gap →
      Written (.value (.array [])) ('[' :: (gap ++ [']']))
  | array {vs : List Json} {before cs after : List Char} : Only isSpace before →
      Written (.items vs) cs → Only isSpace after →
      Written (.value (.array vs)) ('[' :: (before ++ (cs ++ (after ++ [']']))))
  | noMembers {gap : List Char} : Only isSpace gap →
      Written (.value (.object [])) ('{' :: (gap ++ ['}']))
  | object {ms : List (String × Json)} {before cs after : List Char} : Only isSpace before →
      Written (.members ms) cs → Only isSpace after → (ms.map Prod.fst).Nodup →
      Written (.value (.object ms)) ('{' :: (before ++ (cs ++ (after ++ ['}']))))
  | lastItem {v : Json} {cs : List Char} : Written (.value v) cs → Written (.items [v]) cs
  | item {v : Json} {vs : List Json} {cs before after ds : List Char} : Written (.value v) cs →
      Only isSpace before → Only isSpace after → Written (.items vs) ds →
      Written (.items (v :: vs)) (cs ++ (before ++ ',' :: (after ++ ds)))
  | named {name : String} {ns before after cs : List Char} {v : Json} :
      WrittenChars name.toList ns → Only isSpace before → Only isSpace after →
      Written (.value v) cs →
      Written (.member name v) ('"' :: (ns ++ '"' :: (before ++ ':' :: (after ++ cs))))
  | lastMember {name : String} {v : Json} {cs : List Char} : Written (.member name v) cs →
      Written (.members [(name, v)]) cs
  | member {name : String} {v : Json} {ms : List (String × Json)} {cs before after ds : List Char} :
      Written (.member name v) cs → Only isSpace before → Only isSpace after →
      Written (.members ms) ds →
      Written (.members ((name, v) :: ms)) (cs ++ (before ++ ',' :: (after ++ ds)))

/-- A value without numbers, in whose objects no name occurs twice. -/
inductive Plain : Json → Prop where
  | null : Plain .null
  | bool (b : Bool) : Plain (.bool b)
  | string (s : String) : Plain (.string s)
  | array {vs : List Json} : (∀ v ∈ vs, Plain v) → Plain (.array vs)
  | object {ms : List (String × Json)} : (ms.map Prod.fst).Nodup → (∀ m ∈ ms, Plain m.2) →
      Plain (.object ms)

/-- A whole text for a value: blanks may stand before and behind it. -/
def WrittenText (v : Json) (text : List Char) : Prop :=
  ∃ before cs after, Only isSpace before ∧ Written (.value v) cs ∧ Only isSpace after ∧
    text = before ++ (cs ++ after)

/-! ## Strings -/

theorem hexValue?_toLower {a : Char} (h : a.toNat < 128) : hexValue? a.toLower = hexValue? a :=
  of_ascii (P := fun a => hexValue? a.toLower = hexValue? a) (by decide) h

theorem hexValue?_hexDigit {n : Nat} (h : n < 16) :
    hexValue? (hexDigit n) = some n ∧ (hexDigit n).toNat < 128 := by
  have hall : ∀ m < 16, hexValue? (hexDigit m) = some m ∧ (hexDigit m).toNat < 128 := by decide
  exact hall n h

theorem hexValue?_eq_some {a : Char} {n : Nat} (hn : n < 16) (ha : a.toLower = hexDigit n) :
    hexValue? a = some n := by
  obtain ⟨hvalue, hascii⟩ := hexValue?_hexDigit hn
  rw [← ha] at hvalue hascii
  rw [← hexValue?_toLower (toNat_lt_of_toLower hascii), hvalue]

variable {start more rest : List Char} {c : Char}

/-- Four digits spell the character of their number, unless that is half of a pair. -/
theorem readEscape_code {a b c d : Char} {n : Nat} (hrest : rest ≠ [])
    (hn : fourHex? [a, b, c, d] = some n) (hhigh : isHighHalf n = false)
    (hlow : isLowHalf n = false) :
    readEscape start ('u' :: a :: b :: c :: d :: rest) = .ok ⟨Char.ofNat n, 5⟩ := by
  have hlength : ¬ (a :: b :: c :: d :: rest).length ≤ 4 := by
    have := List.length_pos_iff.mpr hrest
    simp only [List.length_cons]
    omega
  have hfour : fourHex? (a :: b :: c :: d :: rest) = some n := hn
  simp only [readEscape, readCodeEscape, List.drop_succ_cons, List.drop_zero, if_neg hlength, hfour,
    hhigh, unitChar, hlow, Bool.or_self]
  rfl

theorem readString_written {ds : List Char} (h : WrittenChar c ds) (hrest : rest ≠ []) :
    readString start (ds ++ rest) = (fun r => (c :: r.1, r.2)) <$> readString start rest := by
  cases h with
  | quote => exact readString_escape (e := ⟨'"', 1⟩) rfl
  | backslash => exact readString_escape (e := ⟨'\\', 1⟩) rfl
  | @control c a b hc ha hb =>
    have hfour : fourHex? ['0', '0', a, b] = some c.toNat := by
      rw [fourHex?, hexValue?_eq_some (by omega) ha, hexValue?_eq_some (by omega) hb]
      have hzero : hexValue? '0' = some 0 := by decide
      rw [hzero]
      simp only [Option.bind_eq_bind, Option.bind_some, Option.some.injEq]
      omega
    have hhigh : isHighHalf c.toNat = false := by
      simp only [isHighHalf, Bool.and_eq_false_iff, decide_eq_false_iff_not]
      omega
    have hlow : isLowHalf c.toNat = false := by
      simp only [isLowHalf, Bool.and_eq_false_iff, decide_eq_false_iff_not]
      omega
    have hescape : readEscape start ('u' :: '0' :: '0' :: a :: b :: rest) = .ok ⟨c, 5⟩ := by
      rw [readEscape_code hrest hfour hhigh hlow, Char.ofNat_toNat]
    exact readString_escape hescape
  | plain hquote hback hc => exact readString_plain hquote hback hc

theorem readString_chars {cs ds : List Char} (h : WrittenChars cs ds) (rest : List Char) :
    readString start (ds ++ '"' :: rest) = .ok (cs, rest) := by
  induction h with
  | nil =>
    rw [List.nil_append, readString, if_pos rfl]
  | cons hc hcs ih =>
    rw [List.append_assoc, readString_written hc (by simp), ih]
    rfl

/-! ## Values -/

theorem put_of_not_mem {α : Type} {name : String} {value : α} {fields : Fields α}
    (h : name ∉ fields.map Prod.fst) : Fields.put name value fields = fields ++ [(name, value)] := by
  induction fields with
  | nil => rfl
  | cons field fields ih =>
    simp only [List.map_cons, List.mem_cons, not_or] at h
    rw [Fields.put, if_neg (Ne.symm h.1), ih h.2, List.cons_append]

theorem foldl_put_of_nodup {α : Type} {pairs done : Fields α}
    (h : ((done ++ pairs).map Prod.fst).Nodup) :
    pairs.foldl (fun done p => Fields.put p.1 p.2 done) done = done ++ pairs := by
  induction pairs generalizing done with
  | nil => simp
  | cons p pairs ih =>
    have hnot : p.1 ∉ done.map Prod.fst := by
      intro hmem
      rw [List.map_append, List.nodup_append] at h
      exact h.2.2 _ hmem _ (by simp) rfl
    rw [List.foldl_cons, put_of_not_mem hnot, ih (by simpa using h), List.append_assoc]
    rfl

/-- Members of different names are kept as they stand. -/
theorem ofMembers_of_nodup {ms : List (String × Json)} (h : (ms.map Prod.fst).Nodup) :
    ofMembers ms = .object ms := by
  rw [ofMembers, Fields.ofList, foldl_put_of_nodup (by simpa using h), List.nil_append]

/-- The first character of a part. -/
def opensPart (c : Char) : Bool :=
  c == 'n' || c == 't' || c == 'f' || c == '"' || c == '[' || c == '{'

theorem Written.opens {p : Part} {cs : List Char} (h : Written p cs) :
    ∃ c ds, cs = c :: ds ∧ opensPart c = true := by
  induction h with
  | null => exact ⟨'n', _, rfl, rfl⟩
  | bool b =>
    cases b with
    | false => exact ⟨'f', _, rfl, rfl⟩
    | true => exact ⟨'t', _, rfl, rfl⟩
  | string => exact ⟨'"', _, rfl, rfl⟩
  | noItems => exact ⟨'[', _, rfl, rfl⟩
  | array => exact ⟨'[', _, rfl, rfl⟩
  | noMembers => exact ⟨'{', _, rfl, rfl⟩
  | object => exact ⟨'{', _, rfl, rfl⟩
  | lastItem _ ih => exact ih
  | item _ _ _ _ ih _ =>
    obtain ⟨c, ds, rfl, hc⟩ := ih
    exact ⟨c, _, rfl, hc⟩
  | named => exact ⟨'"', _, rfl, rfl⟩
  | lastMember _ ih => exact ih
  | member _ _ _ _ ih _ =>
    obtain ⟨c, ds, rfl, hc⟩ := ih
    exact ⟨c, _, rfl, hc⟩

theorem opensPart_excludes {c : Char} (h : opensPart c = true) :
    isSpace c = false ∧ c ≠ ']' ∧ c ≠ '}' ∧ c ≠ '\n' := by
  simp only [opensPart, Bool.or_eq_true, beq_iff_eq] at h
  rcases h with ((((rfl | rfl) | rfl) | rfl) | rfl) | rfl <;> decide

/-- What reading a part comes to, whatever stands behind it. `fuel` is enough for its text. -/
def Part.Reads (cs : List Char) : Part → Prop
  | .value v => ∀ fuel rest, cs.length ≤ fuel → readValue fuel (cs ++ rest) = .ok (v, rest)
  | .items vs => ∀ fuel gap rest, Only isSpace gap → cs.length < fuel →
      readItems fuel (cs ++ (gap ++ ']' :: rest)) = .ok (vs, rest)
  | .member name v => ∀ fuel rest, cs.length ≤ fuel → ∃ start,
      ReadsName (cs ++ rest) name start ∧ readValue fuel start = .ok (v, rest)
  | .members ms => ∀ fuel gap rest, Only isSpace gap → cs.length < fuel →
      readMembers fuel (cs ++ (gap ++ '}' :: rest)) = .ok (ms, rest)

theorem readName {name : String} {ns before after cs : List Char} (hname : WrittenChars name.toList ns)
    (hbefore : Only isSpace before) (hafter : Only isSpace after) (hcs : Stops isSpace cs) :
    ReadsName ('"' :: (ns ++ '"' :: (before ++ ':' :: (after ++ cs)))) name cs := by
  refine ⟨_, name.toList, _, after ++ cs, rfl, readString_chars hname _, ?_, ?_, ?_⟩
  · rw [String.ofList_toList]
  · exact skipSpaces_append hbefore (stops_cons.mpr (by decide))
  · exact (skipSpaces_append hafter hcs).symm

theorem Written.stops {p : Part} {cs : List Char} (h : Written p cs) (rest : List Char) :
    Stops isSpace (cs ++ rest) := by
  obtain ⟨c, ds, rfl, hc⟩ := h.opens
  exact stops_cons.mpr (opensPart_excludes hc).1

theorem Written.length_pos {p : Part} {cs : List Char} (h : Written p cs) : 0 < cs.length := by
  obtain ⟨c, ds, rfl, -⟩ := h.opens
  exact Nat.succ_pos _

/-- Whatever is written for a part is read as that part. -/
theorem Written.reads {p : Part} {cs : List Char} (h : Written p cs) : p.Reads cs := by
  induction h with
  | null =>
    rintro (_ | fuel) rest hfuel
    · exact absurd hfuel (Nat.not_succ_le_zero _)
    · rfl
  | bool b =>
    rintro (_ | fuel) rest hfuel
    · cases b <;> exact absurd hfuel (Nat.not_succ_le_zero _)
    · cases b <;> rfl
  | @string s cs hs =>
    rintro (_ | fuel) rest hfuel
    · exact absurd hfuel (Nat.not_succ_le_zero _)
    · have hread := readValue_string fuel (readString_chars hs rest)
      rw [String.ofList_toList] at hread
      simpa using hread
  | @noItems gap hgap =>
    rintro (_ | fuel) rest hfuel
    · exact absurd hfuel (Nat.not_succ_le_zero _)
    · have hskip : skipSpaces (gap ++ ']' :: rest) = ']' :: rest :=
        skipSpaces_append hgap (stops_cons.mpr (by decide))
      simpa using readValue_noItems fuel hskip
  | @array vs before cs after hbefore hcs hafter ih =>
    rintro (_ | fuel) rest hfuel
    · exact absurd hfuel (Nat.not_succ_le_zero _)
    · have hskip := skipSpaces_append hbefore (hcs.stops (after ++ ']' :: rest))
      have hopen : (skipSpaces (before ++ (cs ++ (after ++ ']' :: rest)))).head? ≠ some ']' := by
        obtain ⟨c, ds, rfl, hc⟩ := hcs.opens
        rw [hskip]
        simpa using (opensPart_excludes hc).2.1
      have hitems := ih fuel after rest hafter (by
        simp only [List.length_cons, List.length_append] at hfuel
        omega)
      have hread := readValue_array fuel hopen
      rw [hskip, hitems] at hread
      simpa using hread
  | @noMembers gap hgap =>
    rintro (_ | fuel) rest hfuel
    · exact absurd hfuel (Nat.not_succ_le_zero _)
    · have hskip : skipSpaces (gap ++ '}' :: rest) = '}' :: rest :=
        skipSpaces_append hgap (stops_cons.mpr (by decide))
      simpa using readValue_noMembers fuel hskip
  | @object ms before cs after hbefore hcs hafter hnodup ih =>
    rintro (_ | fuel) rest hfuel
    · exact absurd hfuel (Nat.not_succ_le_zero _)
    · have hskip := skipSpaces_append hbefore (hcs.stops (after ++ '}' :: rest))
      have hopen : (skipSpaces (before ++ (cs ++ (after ++ '}' :: rest)))).head? ≠ some '}' := by
        obtain ⟨c, ds, rfl, hc⟩ := hcs.opens
        rw [hskip]
        simpa using (opensPart_excludes hc).2.2.1
      have hmembers := ih fuel after rest hafter (by
        simp only [List.length_cons, List.length_append] at hfuel
        omega)
      have hread := readValue_object fuel hopen
      rw [hskip, hmembers] at hread
      simpa [ofMembers_of_nodup hnodup] using hread
  | @lastItem v cs hv ih =>
    rintro (_ | fuel) gap rest hgap hfuel
    · exact absurd hfuel (Nat.not_lt_zero _)
    · have hend : skipSpaces (gap ++ ']' :: rest) = ']' :: rest :=
        skipSpaces_append hgap (stops_cons.mpr (by decide))
      exact readItems_last (ih fuel _ (Nat.le_of_lt_succ hfuel)) hend
  | @item v vs cs before after ds hv hbefore hafter hvs ihv ihvs =>
    rintro (_ | fuel) gap rest hgap hfuel
    · exact absurd hfuel (Nat.not_lt_zero _)
    · have hpos := hv.length_pos
      simp only [List.length_append, List.length_cons] at hfuel
      have hsep : skipSpaces (before ++ ',' :: (after ++ (ds ++ (gap ++ ']' :: rest)))) =
          ',' :: (after ++ (ds ++ (gap ++ ']' :: rest))) :=
        skipSpaces_append hbefore (stops_cons.mpr (by decide))
      have hread := readItems_more (ihv fuel _ (by omega)) hsep
      rw [skipSpaces_append hafter (hvs.stops _), ihvs fuel gap rest hgap (by omega)] at hread
      simpa using hread
  | @named name ns before after cs v hname hbefore hafter hv ih =>
    intro fuel rest hfuel
    refine ⟨cs ++ rest, ?_, ih fuel rest ?_⟩
    · simpa using readName hname hbefore hafter (hv.stops rest)
    · simp only [List.length_cons, List.length_append] at hfuel
      omega
  | @lastMember name v cs hv ih =>
    rintro (_ | fuel) gap rest hgap hfuel
    · exact absurd hfuel (Nat.not_lt_zero _)
    · have hend : skipSpaces (gap ++ '}' :: rest) = '}' :: rest :=
        skipSpaces_append hgap (stops_cons.mpr (by decide))
      obtain ⟨start, hname, hvalue⟩ := ih fuel (gap ++ '}' :: rest) (Nat.le_of_lt_succ hfuel)
      exact readMembers_last hname hvalue hend
  | @member name v ms cs before after ds hv hbefore hafter hms ihv ihms =>
    rintro (_ | fuel) gap rest hgap hfuel
    · exact absurd hfuel (Nat.not_lt_zero _)
    · have hpos := hv.length_pos
      simp only [List.length_append, List.length_cons] at hfuel
      have hsep : skipSpaces (before ++ ',' :: (after ++ (ds ++ (gap ++ '}' :: rest)))) =
          ',' :: (after ++ (ds ++ (gap ++ '}' :: rest))) :=
        skipSpaces_append hbefore (stops_cons.mpr (by decide))
      obtain ⟨start, hname, hvalue⟩ :=
        ihv fuel (before ++ ',' :: (after ++ (ds ++ (gap ++ '}' :: rest)))) (by omega)
      have hread := readMembers_more hname hvalue hsep
      rw [skipSpaces_append hafter (hms.stops _), ihms fuel gap rest hgap (by omega)] at hread
      simpa using hread

/-! ## Line ends -/

theorem WrittenChar.no_return {c : Char} {ds : List Char} (h : WrittenChar c ds) : '\r' ∉ ds := by
  have hhex : ∀ a : Char, ∀ n < 16, a.toLower = hexDigit n → '\r' ≠ a := by
    rintro a n hn ha rfl
    have hall : ∀ m < 16, '\r'.toLower ≠ hexDigit m := by decide
    exact hall n hn ha
  cases h with
  | quote => decide
  | backslash => decide
  | @control c a b hc ha hb =>
    have hna := hhex a _ (by omega) ha
    have hnb := hhex b _ (by omega) hb
    simp [hna, hnb]
  | plain hquote hback hc =>
    rw [List.mem_singleton]
    rintro rfl
    exact absurd hc (by decide)

theorem WrittenChars.no_return {cs ds : List Char} (h : WrittenChars cs ds) : '\r' ∉ ds := by
  induction h with
  | nil => exact List.not_mem_nil
  | cons hc _ ih => simp [hc.no_return, ih]

/-- A quoted text stays as it is. -/
theorem unifyNewlines_quoted {cs ds : List Char} (h : WrittenChars cs ds) (rest : List Char) :
    unifyNewlines ('"' :: (ds ++ '"' :: rest)) = '"' :: (ds ++ '"' :: unifyNewlines rest) := by
  rw [unifyNewlines_cons (by decide), unifyNewlines_append h.no_return,
    unifyNewlines_cons (by decide)]

/-- One blank run inside a text, with what closes it. -/
theorem unifyNewlines_closed {gap : List Char} (hgap : Only isSpace gap) {close : Char}
    (hclose : isSpace close = false) (rest : List Char) :
    ∃ gap', Only isSpace gap' ∧
      unifyNewlines (gap ++ close :: rest) = gap' ++ close :: unifyNewlines rest := by
  have hstops : Stops isSpace (close :: rest) := stops_cons.mpr hclose
  obtain ⟨gap', hgap', heq⟩ := unifyNewlines_spaces hgap hstops
  refine ⟨gap', hgap', ?_⟩
  rw [heq, unifyNewlines_cons]
  rintro rfl
  exact absurd hclose (by decide)

/-- What is written stays written when its line ends are unified: carriage returns stand between
its tokens only. -/
theorem Written.unifyNewlines {p : Part} {cs : List Char} (h : Written p cs) (rest : List Char) :
    ∃ cs', Written p cs' ∧
      Text.unifyNewlines (cs ++ rest) = cs' ++ Text.unifyNewlines rest := by
  induction h generalizing rest with
  | null => exact ⟨_, .null, unifyNewlines_append (by decide)⟩
  | bool b => exact ⟨_, .bool b, unifyNewlines_append (by cases b <;> decide)⟩
  | string hs =>
    refine ⟨_, .string hs, ?_⟩
    simpa using unifyNewlines_quoted hs rest
  | noItems hgap =>
    obtain ⟨gap', hgap', heq⟩ := unifyNewlines_closed hgap (by decide : isSpace ']' = false) rest
    refine ⟨_, .noItems hgap', ?_⟩
    simpa [unifyNewlines_cons] using heq
  | @array vs before cs after hbefore hcs hafter ih =>
    obtain ⟨after', hafter', hclose⟩ :=
      unifyNewlines_closed hafter (by decide : isSpace ']' = false) rest
    obtain ⟨cs', hcs', hitems⟩ := ih (after ++ ']' :: rest)
    obtain ⟨before', hbefore', hopen⟩ :=
      unifyNewlines_spaces hbefore (hcs.stops (after ++ ']' :: rest))
    refine ⟨_, .array hbefore' hcs' hafter', ?_⟩
    simp [unifyNewlines_cons, hopen, hitems, hclose]
  | noMembers hgap =>
    obtain ⟨gap', hgap', heq⟩ := unifyNewlines_closed hgap (by decide : isSpace '}' = false) rest
    refine ⟨_, .noMembers hgap', ?_⟩
    simpa [unifyNewlines_cons] using heq
  | @object ms before cs after hbefore hcs hafter hnodup ih =>
    obtain ⟨after', hafter', hclose⟩ :=
      unifyNewlines_closed hafter (by decide : isSpace '}' = false) rest
    obtain ⟨cs', hcs', hmembers⟩ := ih (after ++ '}' :: rest)
    obtain ⟨before', hbefore', hopen⟩ :=
      unifyNewlines_spaces hbefore (hcs.stops (after ++ '}' :: rest))
    refine ⟨_, .object hbefore' hcs' hafter' hnodup, ?_⟩
    simp [unifyNewlines_cons, hopen, hmembers, hclose]
  | lastItem _ ih =>
    obtain ⟨cs', hcs', heq⟩ := ih rest
    exact ⟨cs', .lastItem hcs', heq⟩
  | @item v vs cs before after ds hv hbefore hafter hvs ihv ihvs =>
    obtain ⟨ds', hds', hrest⟩ := ihvs rest
    obtain ⟨after', hafter', hbehind⟩ := unifyNewlines_spaces hafter (hvs.stops rest)
    obtain ⟨before', hbefore', hcomma⟩ :=
      unifyNewlines_closed hbefore (by decide : isSpace ',' = false) (after ++ (ds ++ rest))
    obtain ⟨cs', hcs', hvalue⟩ := ihv (before ++ ',' :: (after ++ (ds ++ rest)))
    refine ⟨_, .item hcs' hbefore' hafter' hds', ?_⟩
    simp [hvalue, hcomma, hbehind, hrest]
  | @named name ns before after cs v hname hbefore hafter hv ih =>
    obtain ⟨cs', hcs', hrest⟩ := ih rest
    obtain ⟨after', hafter', hbehind⟩ := unifyNewlines_spaces hafter (hv.stops rest)
    obtain ⟨before', hbefore', hcolon⟩ :=
      unifyNewlines_closed hbefore (by decide : isSpace ':' = false) (after ++ (cs ++ rest))
    refine ⟨_, .named hname hbefore' hafter' hcs', ?_⟩
    have hquoted := unifyNewlines_quoted hname (before ++ ':' :: (after ++ (cs ++ rest)))
    rw [hcolon, hbehind, hrest] at hquoted
    simpa using hquoted
  | lastMember _ ih =>
    obtain ⟨cs', hcs', heq⟩ := ih rest
    exact ⟨cs', .lastMember hcs', heq⟩
  | @member name v ms cs before after ds hv hbefore hafter hms ihv ihms =>
    obtain ⟨ds', hds', hrest⟩ := ihms rest
    obtain ⟨after', hafter', hbehind⟩ := unifyNewlines_spaces hafter (hms.stops rest)
    obtain ⟨before', hbefore', hcomma⟩ :=
      unifyNewlines_closed hbefore (by decide : isSpace ',' = false) (after ++ (ds ++ rest))
    obtain ⟨cs', hcs', hvalue⟩ := ihv (before ++ ',' :: (after ++ (ds ++ rest)))
    refine ⟨_, .member hcs' hbefore' hafter' hds', ?_⟩
    simp [hvalue, hcomma, hbehind, hrest]

theorem WrittenText.unifyNewlines {v : Json} {text : List Char} (h : WrittenText v text) :
    WrittenText v (Text.unifyNewlines text) := by
  obtain ⟨before, cs, after, hbefore, hcs, hafter, rfl⟩ := h
  obtain ⟨after', hafter', hend⟩ := unifyNewlines_spaces hafter (stops_nil : Stops isSpace [])
  obtain ⟨cs', hcs', hvalue⟩ := hcs.unifyNewlines after
  obtain ⟨before', hbefore', hopen⟩ := unifyNewlines_spaces hbefore (hcs.stops after)
  refine ⟨before', cs', after', hbefore', hcs', hafter', ?_⟩
  rw [hopen, hvalue, ← List.append_nil after, hend]
  simp [Text.unifyNewlines]

/-- A text that is written for a value is read as that value. -/
theorem parse_of_written {v : Json} {text : List Char} (h : WrittenText v text) :
    parse text = .ok v := by
  obtain ⟨before, cs, after, hbefore, hcs, hafter, rfl⟩ := h
  have hskip := skipSpaces_append hbefore (hcs.stops after)
  have hend : skipSpaces after = [] := by
    have := skipSpaces_append hafter (stops_nil : Stops isSpace [])
    rwa [List.append_nil] at this
  have hvalue := hcs.reads (2 * (before ++ (cs ++ after)).length + 1) after (by
    simp only [List.length_append]
    omega)
  have hmark : ∀ rest, before ++ (cs ++ after) ≠ '\uFEFF' :: rest := by
    intro rest heq
    cases before with
    | nil =>
      obtain ⟨c, ds, rfl, hc⟩ := hcs.opens
      cases heq
      exact absurd hc (by decide)
    | cons c before =>
      cases heq
      exact absurd (only_cons.mp hbefore).1 (by decide)
  have hread : readText (before ++ (cs ++ after)) = .ok v := by
    rw [readText]
    · rw [hskip, hvalue]
      simp [hend]
    · intro rest
      exact hmark rest
  rw [parse, hread]
  rfl

/-! ## The shortest text -/

theorem toLower_hexDigit {n : Nat} (h : n < 16) : (hexDigit n).toLower = hexDigit n := by
  have hall : ∀ m < 16, (hexDigit m).toLower = hexDigit m := by decide
  exact hall n h

theorem writtenChar_writeChar (c : Char) : WrittenChar c (writeChar c) := by
  unfold writeChar
  split_ifs with hquote hback hc
  · subst hquote
    exact .quote
  · subst hback
    exact .backslash
  · have hdigits : hex 4 c.toNat = ['0', '0', hexDigit (c.toNat / 16), hexDigit (c.toNat % 16)] := by
      have hsmall : c.toNat / 16 % 16 = c.toNat / 16 := Nat.mod_eq_of_lt (by omega)
      have htop : c.toNat / 16 / 16 = 0 := by omega
      simp only [hex, hsmall, htop]
      rfl
    rw [hdigits]
    exact .control hc (toLower_hexDigit (by omega)) (toLower_hexDigit (by omega))
  · exact .plain hquote hback (Nat.le_of_not_lt hc)

theorem writtenChars_flatMap (cs : List Char) : WrittenChars cs (cs.flatMap writeChar) := by
  induction cs with
  | nil => exact .nil
  | cons c cs ih =>
    rw [List.flatMap_cons]
    exact .cons (writtenChar_writeChar c) ih

theorem written_writeItems {vs : List Json} (hne : vs ≠ [])
    (h : ∀ v ∈ vs, Written (.value v) v.write) : Written (.items vs) (writeItems vs) := by
  induction vs with
  | nil => exact absurd rfl hne
  | cons v vs ih =>
    have hv := h v (by simp)
    cases vs with
    | nil =>
      rw [writeItems]
      exact .lastItem hv
    | cons w vs =>
      have hvs := ih (List.cons_ne_nil w vs) fun u hu => h u (List.mem_cons_of_mem v hu)
      rw [writeItems]
      · have hitem := Written.item hv only_nil only_nil hvs
        exact hitem
      · exact List.cons_ne_nil w vs

theorem written_writeMembers {ms : List (String × Json)} (hne : ms ≠ [])
    (h : ∀ m ∈ ms, Written (.value m.2) m.2.write) : Written (.members ms) (writeMembers ms) := by
  induction ms with
  | nil => exact absurd rfl hne
  | cons m ms ih =>
    obtain ⟨name, v⟩ := m
    have hm : Written (.member name v) (writeString name.toList ++ ':' :: v.write) := by
      have hnamed := Written.named (writtenChars_flatMap name.toList) only_nil only_nil
        (h (name, v) (by simp))
      simpa [writeString] using hnamed
    cases ms with
    | nil =>
      rw [writeMembers]
      exact .lastMember hm
    | cons m ms =>
      have hms := ih (List.cons_ne_nil m ms) fun n hn => h n (List.mem_cons_of_mem _ hn)
      have hmember := Written.member hm only_nil only_nil hms
      rw [writeMembers]
      · simpa using hmember
      · exact List.cons_ne_nil m ms

theorem Plain.written_write {v : Json} (h : v.Plain) : Written (.value v) v.write := by
  induction h with
  | null => exact .null
  | bool b => exact .bool b
  | string s => exact .string (writtenChars_flatMap s.toList)
  | @array vs _ ih =>
    by_cases hne : vs = []
    · subst hne
      have hempty := Written.noItems only_nil
      exact hempty
    · have harray := Written.array only_nil (written_writeItems hne ih) only_nil
      exact harray
  | @object ms hnodup _ ih =>
    by_cases hne : ms = []
    · subst hne
      have hempty := Written.noMembers only_nil
      exact hempty
    · have hobject := Written.object only_nil (written_writeMembers hne ih) only_nil hnodup
      exact hobject

end LayoutQuery.Json

import LayoutQuery.Proofs.Json.Numbers
import LayoutQuery.Proofs.Json.Reading
import LayoutQuery.Proofs.Json.Strings

/-! # How far reading comes
A reader passes what it reads, comes to a whole number that has too many digits, or complains. Which
of the three happens is told by the text alone. -/
namespace LayoutQuery.Json

open Text

/-- How far a reader comes that does not complain. -/
inductive Extent where
  | past (rest : List Char)
  | overlong (count : Nat)

inductive Series where
  | items
  | members

def Series.opening : Series → Char
  | .items => '['
  | .members => '{'

def Series.closing : Series → Char
  | .items => ']'
  | .members => '}'

/-- A name and a colon, and the value behind them. -/
inductive Named : List Char → List Char → Prop where
  | mk {more after behind : List Char} : Quoted more after → skipSpaces after = ':' :: behind →
      Named ('"' :: more) (skipSpaces behind)

/-- Where the value of an entry stands: a member has a name in front of it. -/
inductive Series.Entry : Series → List Char → List Char → Prop where
  | item {cs : List Char} : Entry .items cs cs
  | member {cs start : List Char} : Named cs start → Entry .members cs start

inductive Kind where
  | value
  | entries (s : Series)

/-- How far a value comes that is neither a string nor a series. -/
inductive Simple : List Char → Extent → Prop where
  | word {w : String × Json} {rest : List Char} : w ∈ words → Simple (w.1.toList ++ rest) (.past rest)
  | number {n : Numeral} {cs rest : List Char} : readNumeral cs = some (n, rest) →
      (∀ count, ¬ Overlong cs count) → Simple cs (.past rest)
  | overlong {cs : List Char} {count : Nat} : Overlong cs count → Simple cs (.overlong count)

/-- How far a value comes, or a series of entries up to its closing bracket. -/
inductive Comes : Kind → List Char → Extent → Prop where
  | simple {cs : List Char} {x : Extent} : Simple cs x → Comes .value cs x
  | string {cs more rest : List Char} : cs = '"' :: more → Quoted more rest →
      Comes .value cs (.past rest)
  | empty {s : Series} {cs more rest : List Char} : cs = s.opening :: more →
      skipSpaces more = s.closing :: rest → Comes .value cs (.past rest)
  | filled {s : Series} {cs more : List Char} {x : Extent} : cs = s.opening :: more →
      Comes (.entries s) (skipSpaces more) x → Comes .value cs x
  | stuck {s : Series} {cs start : List Char} {count : Nat} : s.Entry cs start →
      Comes .value start (.overlong count) → Comes (.entries s) cs (.overlong count)
  | last {s : Series} {cs start more rest : List Char} : s.Entry cs start →
      Comes .value start (.past more) → skipSpaces more = s.closing :: rest →
      Comes (.entries s) cs (.past rest)
  | next {s : Series} {cs start more rest : List Char} {x : Extent} : s.Entry cs start →
      Comes .value start (.past more) → skipSpaces more = ',' :: rest →
      Comes (.entries s) (skipSpaces rest) x → Comes (.entries s) cs x

variable {α : Type} {cs more rest start : List Char} {x : Extent} {s : Series} {k : Kind}
  {fuel : Nat}

/-! ## The extent of a result -/

def extent? : Except Stop (α × List Char) → Option Extent
  | .ok r => some (.past r.2)
  | .error (.tooManyDigits fault) => some (.overlong fault.count)
  | .error (.complaint _ _) => none

@[simp] theorem extent?_ok (r : α × List Char) :
    extent? (.ok r : Except Stop (α × List Char)) = some (.past r.2) := rfl

@[simp] theorem extent?_complaint (what : Complaint) (cs : List Char) :
    extent? (.error (.complaint what cs) : Except Stop (α × List Char)) = none := rfl

@[simp] theorem extent?_tooManyDigits (fault : TooManyDigits) :
    extent? (.error (.tooManyDigits fault) : Except Stop (α × List Char)) =
      some (.overlong fault.count) := rfl

theorem extent?_eq_past_iff {r : Except Stop (α × List Char)} :
    extent? r = some (.past rest) ↔ ∃ a, r = .ok (a, rest) := by
  rcases r with (⟨what, cs⟩ | fault) | ⟨a, rest'⟩
  · simp
  · simp
  · simp

theorem extent?_eq_overlong_iff {r : Except Stop (α × List Char)} {count : Nat} :
    extent? r = some (.overlong count) ↔ r = .error (.tooManyDigits ⟨count⟩) := by
  rcases r with (⟨what, cs⟩ | ⟨⟨count'⟩⟩) | ⟨a, rest'⟩
  · simp
  · simp
  · simp

/-- What is done with a value leaves its extent alone. -/
theorem extent?_map {β : Type} (f : α → β) (r : Except Stop (α × List Char)) :
    extent? (r >>= fun a => .ok (f a.1, a.2)) = extent? r := by
  rcases r with (⟨what, cs⟩ | fault) | a <;> rfl

/-- Reading goes on behind what was passed, and stops at a number too long. -/
theorem extent?_bind {β : Type} {r : Except Stop (α × List Char)}
    {f : α × List Char → Except Stop (β × List Char)} : extent? (r >>= f) = some x ↔
    (∃ count, extent? r = some (.overlong count) ∧ x = .overlong count) ∨
      ∃ a rest, r = .ok (a, rest) ∧ extent? (f (a, rest)) = some x := by
  rcases r with (⟨what, cs⟩ | fault) | ⟨a, rest⟩
  · simp [bind, Except.bind]
  · simp [bind, Except.bind, eq_comm]
  · simp

/-! ## Single steps -/

def Kind.extent? (fuel : Nat) (cs : List Char) : Kind → Option Extent
  | .value => Json.extent? (readValue fuel cs)
  | .entries .items => Json.extent? (readItems fuel cs)
  | .entries .members => Json.extent? (readMembers fuel cs)

theorem readWord_eq_some {v : Json} (h : readWord cs = some (v, rest)) :
    ∃ w ∈ words, cs = w.1.toList ++ rest := by
  obtain ⟨w, hw, hafter⟩ := List.exists_of_findSome?_eq_some h
  obtain ⟨rest', hrest, heq⟩ := Option.map_eq_some_iff.mp hafter
  cases heq
  exact ⟨w, hw, after?_eq_some_iff.mp hrest⟩

theorem readWord_of_mem {w : String × Json} (hw : w ∈ words) (rest : List Char) :
    readWord (w.1.toList ++ rest) = some (w.2, rest) := by
  simp only [words, List.mem_cons, List.not_mem_nil, or_false] at hw
  rcases hw with rfl | rfl | rfl | rfl | rfl | rfl <;> simp [readWord, words, after?]

/-- The characters that open a string, a list or an object. -/
def opensNested (c : Char) : Bool := c == '"' || c == '[' || c == '{'

theorem stops_of_readWord {v : Json} (h : readWord cs = some (v, rest)) : Stops opensNested cs := by
  obtain ⟨w, hw, rfl⟩ := readWord_eq_some h
  simp only [words, List.mem_cons, List.not_mem_nil, or_false] at hw
  rcases hw with rfl | rfl | rfl | rfl | rfl | rfl <;> exact stops_cons.mpr (by decide)

theorem stops_of_readNumeral {r : Numeral × List Char} (h : readNumeral cs = some r) :
    Stops opensNested cs := by
  obtain ⟨negative, c, more, hc, rfl⟩ := opens_of_readNumeral h
  cases negative with
  | true => exact stops_cons.mpr (by decide)
  | false =>
    apply stops_cons.mpr
    by_contra hopens
    simp only [opensNested, Bool.not_eq_false, Bool.or_eq_true, beq_iff_eq] at hopens
    rcases hopens with (rfl | rfl) | rfl <;> cases hc

theorem readWord_of_readNumeral {r : Numeral × List Char} (h : readNumeral cs = some r) :
    readWord cs = none := by
  obtain ⟨negative, c, more, hc, rfl⟩ := opens_of_readNumeral h
  apply Option.eq_none_iff_forall_ne_some.mpr
  rintro ⟨v, rest⟩ hword
  obtain ⟨w, hw, heq⟩ := readWord_eq_some hword
  simp only [words, List.mem_cons, List.not_mem_nil, or_false] at hw
  cases negative with
  | true =>
    rcases hw with rfl | rfl | rfl | rfl | rfl | rfl <;> cases heq
    cases hc
  | false => rcases hw with rfl | rfl | rfl | rfl | rfl | rfl <;> cases heq <;> cases hc

theorem readValue_simple (h : Stops opensNested cs) :
    readValue (fuel + 1) cs =
      match readWord cs with
      | some found => .ok found
      | none =>
        match readNumeral cs with
        | some (n, rest) => do
          let v ← n.value
          .ok (v, rest)
        | none => .error (.complaint .valueExpected cs) := by
  have hopen : ∀ c more, opensNested c = true → cs ≠ c :: more := by
    rintro c more hc rfl
    rw [stops_cons.mp h] at hc
    cases hc
  unfold readValue
  split
  next more => exact absurd rfl (hopen '"' more rfl)
  next more => exact absurd rfl (hopen '{' more rfl)
  next more => exact absurd rfl (hopen '[' more rfl)
  next => rfl

theorem Simple.stops (h : Simple cs x) : Stops opensNested cs := by
  cases h with
  | word hw => exact stops_of_readWord (readWord_of_mem hw _)
  | number hnumeral _ => exact stops_of_readNumeral hnumeral
  | overlong hlong =>
    obtain ⟨n, rest, hnumeral, -⟩ := overlong_iff.mp hlong
    exact stops_of_readNumeral hnumeral

theorem extent?_simple (h : Stops opensNested cs) :
    extent? (readValue (fuel + 1) cs) = some x ↔ Simple cs x := by
  rw [readValue_simple h]
  constructor
  · intro hx
    split at hx
    next found hword =>
      cases hx
      obtain ⟨w, hw, rfl⟩ := readWord_eq_some hword
      exact .word hw
    next hword =>
      split at hx
      next n rest hnumeral =>
        cases hvalue : n.value with
        | error stop =>
          obtain ⟨-, -, -, rfl⟩ := value_eq_error_iff.mp hvalue
          rw [hvalue] at hx
          cases hx
          exact .overlong (overlong_iff.mpr ⟨n, rest, hnumeral, hvalue⟩)
        | ok v =>
          rw [hvalue] at hx
          cases hx
          apply Simple.number hnumeral
          intro count hlong
          obtain ⟨n', rest', hnumeral', hvalue'⟩ := overlong_iff.mp hlong
          rw [hnumeral] at hnumeral'
          cases hnumeral'
          rw [hvalue] at hvalue'
          cases hvalue'
      next => cases hx
  · intro hx
    cases hx with
    | word hw =>
      rw [readWord_of_mem hw]
      rfl
    | @number n _ rest hnumeral hshort =>
      rw [readWord_of_readNumeral hnumeral]
      simp only [hnumeral]
      cases hvalue : n.value with
      | error stop =>
        obtain ⟨-, -, -, rfl⟩ := value_eq_error_iff.mp hvalue
        exact absurd (overlong_iff.mpr ⟨n, rest, hnumeral, hvalue⟩) (hshort _)
      | ok v => rfl
    | overlong hlong =>
      obtain ⟨n, rest, hnumeral, hvalue⟩ := overlong_iff.mp hlong
      rw [readWord_of_readNumeral hnumeral]
      simp only [hnumeral, hvalue]
      rfl

theorem extent?_quoted : extent? (readValue (fuel + 1) ('"' :: more)) = some x ↔
    ∃ rest, Quoted more rest ∧ x = .past rest := by
  cases hs : readString ('"' :: more) more with
  | error stop =>
    obtain ⟨what, place, rfl⟩ := complaint_of_readString hs
    rw [readValue_quote, hs]
    constructor
    · intro h
      cases h
    · rintro ⟨rest, hquoted, -⟩
      obtain ⟨s, hok⟩ := readString_eq_ok_iff.mpr hquoted
      rw [hs] at hok
      cases hok
  | ok r =>
    obtain ⟨s, rest⟩ := r
    rw [readValue_string fuel hs]
    constructor
    · intro h
      cases h
      exact ⟨rest, readString_eq_ok_iff.mp ⟨s, hs⟩, rfl⟩
    · rintro ⟨rest', hquoted, rfl⟩
      obtain ⟨s', hok⟩ := readString_eq_ok_iff.mpr hquoted
      rw [hs] at hok
      cases hok
      rfl

theorem extent?_empty (h : skipSpaces more = s.closing :: rest) :
    extent? (readValue (fuel + 1) (s.opening :: more)) = some (.past rest) := by
  cases s with
  | items => exact congrArg extent? (readValue_noItems fuel h)
  | members => exact congrArg extent? (readValue_noMembers fuel h)

theorem extent?_filled (h : (skipSpaces more).head? ≠ some s.closing) :
    extent? (readValue (fuel + 1) (s.opening :: more)) =
      (Kind.entries s).extent? fuel (skipSpaces more) := by
  cases s with
  | items => exact (congrArg extent? (readValue_array fuel h)).trans (extent?_map _ _)
  | members => exact (congrArg extent? (readValue_object fuel h)).trans (extent?_map _ _)

/-- How far an entry whose value stands at `start` comes, with the entries behind it. -/
def Series.Step (s : Series) (fuel : Nat) (start : List Char) (x : Extent) : Prop :=
  (∃ count, extent? (readValue fuel start) = some (.overlong count) ∧ x = .overlong count) ∨
    ∃ more rest, extent? (readValue fuel start) = some (.past more) ∧
      (skipSpaces more = s.closing :: rest ∧ x = .past rest ∨
        skipSpaces more = ',' :: rest ∧ (Kind.entries s).extent? fuel (skipSpaces rest) = some x)

/-- Any reader that looks behind the value for a closing bracket or a comma, and at nothing else. -/
theorem Series.step_iff {β : Type} {f : Json × List Char → Except Stop (β × List Char)}
    (hend : ∀ v more rest, skipSpaces more = s.closing :: rest →
      extent? (f (v, more)) = some (.past rest))
    (hsep : ∀ v more rest, skipSpaces more = ',' :: rest →
      extent? (f (v, more)) = (Kind.entries s).extent? fuel (skipSpaces rest))
    (hother : ∀ v more, (∀ rest, skipSpaces more ≠ s.closing :: rest) →
      (∀ rest, skipSpaces more ≠ ',' :: rest) → extent? (f (v, more)) = none) :
    extent? (readValue fuel start >>= f) = some x ↔ s.Step fuel start x := by
  rw [extent?_bind, Series.Step]
  refine or_congr_right ?_
  constructor
  · rintro ⟨v, more, hv, hx⟩
    have hpast := extent?_eq_past_iff.mpr ⟨v, hv⟩
    by_cases hclose : ∃ rest, skipSpaces more = s.closing :: rest
    · obtain ⟨rest, hclose⟩ := hclose
      rw [hend v more rest hclose] at hx
      exact ⟨more, rest, hpast, .inl ⟨hclose, (Option.some.inj hx).symm⟩⟩
    · by_cases hcomma : ∃ rest, skipSpaces more = ',' :: rest
      · obtain ⟨rest, hcomma⟩ := hcomma
        rw [hsep v more rest hcomma] at hx
        exact ⟨more, rest, hpast, .inr ⟨hcomma, hx⟩⟩
      · rw [hother v more (not_exists.mp hclose) (not_exists.mp hcomma)] at hx
        cases hx
  · rintro ⟨more, rest, hpast, hx⟩
    obtain ⟨v, hv⟩ := extent?_eq_past_iff.mp hpast
    refine ⟨v, more, hv, ?_⟩
    rcases hx with ⟨hclose, rfl⟩ | ⟨hcomma, hx⟩
    · exact hend v more rest hclose
    · exact (hsep v more rest hcomma).trans hx

theorem extent?_items :
    extent? (readItems (fuel + 1) cs) = some x ↔ Series.items.Step fuel cs x := by
  rw [readItems]
  apply Series.step_iff
  · intro v more rest hclose
    have hbracket : skipSpaces more = ']' :: rest := hclose
    simp only [hbracket]
    rfl
  · intro v more rest hcomma
    simp only [hcomma]
    exact extent?_map (v :: ·) _
  · intro v more hclose hcomma
    dsimp only
    split
    next rest h => exact absurd h (hclose rest)
    next rest h => exact absurd h (hcomma rest)
    next => rfl

theorem extent?_members (h : Named cs start) :
    extent? (readMembers (fuel + 1) cs) = some x ↔ Series.members.Step fuel start x := by
  obtain ⟨hquoted, hcolon⟩ := h
  obtain ⟨name, hname⟩ := readString_eq_ok_iff.mpr hquoted
  rw [readMembers, hname, ok_bind]
  simp only [hcolon]
  apply Series.step_iff
  · intro v more rest hclose
    have hbracket : skipSpaces more = '}' :: rest := hclose
    simp only [hbracket]
    rfl
  · intro v more rest hcomma
    simp only [hcomma]
    exact extent?_map ((String.ofList name, v) :: ·) _
  · intro v more hclose hcomma
    dsimp only
    split
    next rest h => exact absurd h (hclose rest)
    next rest h => exact absurd h (hcomma rest)
    next => rfl

theorem named_of_members (h : extent? (readMembers (fuel + 1) cs) = some x) :
    ∃ start, Named cs start := by
  unfold readMembers at h
  split at h
  next more =>
    cases hname : readString ('"' :: more) more with
    | error stop =>
      obtain ⟨what, place, rfl⟩ := complaint_of_readString hname
      rw [hname] at h
      cases h
    | ok r =>
      obtain ⟨name, after⟩ := r
      rw [hname, ok_bind] at h
      dsimp only at h
      split at h
      next behind hcolon => exact ⟨_, .mk (readString_eq_ok_iff.mp ⟨name, hname⟩) hcolon⟩
      next => cases h
  next => cases h

theorem extent?_entries : (Kind.entries s).extent? (fuel + 1) cs = some x ↔
    ∃ start, s.Entry cs start ∧ s.Step fuel start x := by
  cases s with
  | items =>
    constructor
    · intro h
      exact ⟨cs, .item, extent?_items.mp h⟩
    · rintro ⟨start, ⟨⟩, hstep⟩
      exact extent?_items.mpr hstep
  | members =>
    constructor
    · intro h
      obtain ⟨start, hnamed⟩ := named_of_members h
      exact ⟨start, .member hnamed, (extent?_members hnamed).mp h⟩
    · rintro ⟨start, hentry, hstep⟩
      cases hentry with
      | member hnamed => exact (extent?_members hnamed).mpr hstep

/-! ## Whole readings -/

/-- An extent that lies behind the first character. -/
def Extent.Behind (cs : List Char) : Extent → Prop
  | .past rest => rest.length < cs.length
  | .overlong _ => True

theorem Extent.Behind.mono {cs' : List Char} (h : x.Behind cs) (hle : cs.length ≤ cs'.length) :
    x.Behind cs' := by
  cases x with
  | past rest => exact Nat.lt_of_lt_of_le h hle
  | overlong count => trivial

theorem length_skipSpaces (cs : List Char) : (skipSpaces cs).length ≤ cs.length :=
  List.length_dropWhile_le isSpace cs

theorem length_of_skipSpaces {c : Char} (h : skipSpaces cs = c :: rest) :
    rest.length < cs.length := by
  have hskip := length_skipSpaces cs
  rw [h] at hskip
  exact hskip

theorem Series.Entry.length (h : s.Entry cs start) : start.length ≤ cs.length := by
  cases h with
  | item => exact le_rfl
  | member hnamed =>
    obtain ⟨hquoted, hcolon⟩ := hnamed
    have hname := hquoted.length
    have hbehind := length_of_skipSpaces hcolon
    have hskip := length_skipSpaces
    simp only [List.length_cons]
    exact (hskip _).trans (by omega)

theorem Simple.behind (h : Simple cs x) : x.Behind cs := by
  cases h with
  | @word w rest hw =>
    have hpos : 0 < w.1.toList.length := by
      simp only [words, List.mem_cons, List.not_mem_nil, or_false] at hw
      rcases hw with rfl | rfl | rfl | rfl | rfl | rfl <;> decide
    rw [Extent.Behind, List.length_append]
    omega
  | number hnumeral _ => exact length_readNumeral hnumeral
  | overlong _ => trivial

/-- Something was passed. -/
theorem Comes.behind (h : Comes k cs x) : x.Behind cs := by
  induction h with
  | simple hsimple => exact hsimple.behind
  | string heq hquoted =>
    rw [heq]
    exact Nat.lt_succ_of_lt hquoted.length
  | empty heq hclose =>
    rw [heq]
    exact Nat.lt_succ_of_lt (length_of_skipSpaces hclose)
  | filled heq _ ih =>
    rw [heq]
    exact ih.mono ((length_skipSpaces _).trans (Nat.le_succ _))
  | stuck _ _ _ => trivial
  | last hentry _ hclose ih =>
    exact ((length_of_skipSpaces hclose).trans ih).trans_le hentry.length
  | next hentry _ hcomma _ ihv ih =>
    apply ih.mono
    have hrest := ((length_of_skipSpaces hcomma).trans ihv).trans_le hentry.length
    exact (length_skipSpaces _).trans hrest.le

/-- How much fuel is enough. A bracket takes a step, and so does the entry behind it. -/
def Kind.need (cs : List Char) : Kind → Nat
  | .value => 2 * cs.length
  | .entries _ => 2 * cs.length + 1

theorem opensNested_cases {c : Char} (h : opensNested c = true) :
    c = '"' ∨ ∃ s : Series, c = s.opening := by
  simp only [opensNested, Bool.or_eq_true, beq_iff_eq] at h
  rcases h with (rfl | rfl) | rfl
  · exact .inl rfl
  · exact .inr ⟨.items, rfl⟩
  · exact .inr ⟨.members, rfl⟩

theorem extent?_closing (s : Series) (fuel : Nat) (rest : List Char) :
    (Kind.entries s).extent? fuel (s.closing :: rest) = none := by
  rcases fuel with _ | _ | fuel
  · cases s <;> rfl
  · cases s <;> rfl
  · cases s with
    | items =>
      have hword : readWord (']' :: rest) = none := by simp [readWord, words, after?]
      have hvalue : readValue (fuel + 1) (']' :: rest) =
          .error (.complaint .valueExpected (']' :: rest)) := by
        rw [readValue_simple (stops_cons.mpr (by decide)), hword]
        rfl
      simp only [Kind.extent?, Series.closing, readItems, hvalue]
      rfl
    | members => rfl

/-- So much fuel is enough for every text that needs less. -/
def Suffices (fuel : Nat) : Prop :=
  ∀ k cs x, Kind.need cs k < fuel → (k.extent? fuel cs = some x ↔ Comes k cs x)

theorem Suffices.value (hfuel : Suffices fuel) (hneed : 2 * cs.length < fuel + 1) :
    extent? (readValue (fuel + 1) cs) = some x ↔ Comes .value cs x := by
  constructor
  · intro hx
    by_cases hsimple : Stops opensNested cs
    · exact .simple ((extent?_simple hsimple).mp hx)
    · obtain ⟨c, more, rfl, hc⟩ := not_stops_iff.mp hsimple
      rcases opensNested_cases hc with rfl | ⟨s, rfl⟩
      · obtain ⟨rest, hquoted, rfl⟩ := extent?_quoted.mp hx
        exact .string rfl hquoted
      · by_cases hclose : (skipSpaces more).head? = some s.closing
        · obtain ⟨rest, hclose⟩ := List.head?_eq_some_iff.mp hclose
          rw [extent?_empty hclose] at hx
          cases hx
          exact .empty rfl hclose
        · rw [extent?_filled hclose] at hx
          have hskip := length_skipSpaces more
          rw [List.length_cons] at hneed
          have hentries := hfuel (.entries s) (skipSpaces more) x (by simp only [Kind.need]; omega)
          exact .filled rfl (hentries.mp hx)
  · intro h
    cases h with
    | simple hsimple => exact (extent?_simple hsimple.stops).mpr hsimple
    | string heq hquoted =>
      subst heq
      exact extent?_quoted.mpr ⟨_, hquoted, rfl⟩
    | empty heq hclose =>
      subst heq
      exact extent?_empty hclose
    | @filled s _ more _ heq hfilled =>
      subst heq
      have hskip := length_skipSpaces more
      rw [List.length_cons] at hneed
      have hentries := hfuel (.entries s) (skipSpaces more) x (by simp only [Kind.need]; omega)
      have hx := hentries.mpr hfilled
      rw [extent?_filled, hx]
      -- no entry begins with a closing bracket, so the series is not the empty one
      intro hclose
      obtain ⟨rest, hclose⟩ := List.head?_eq_some_iff.mp hclose
      rw [hclose, extent?_closing] at hx
      cases hx

theorem Suffices.step (hfuel : Suffices fuel) (hneed : 2 * start.length < fuel) :
    s.Step fuel start x ↔
      (∃ count, Comes .value start (.overlong count) ∧ x = .overlong count) ∨
        ∃ more rest, Comes .value start (.past more) ∧
          (skipSpaces more = s.closing :: rest ∧ x = .past rest ∨
            skipSpaces more = ',' :: rest ∧ Comes (.entries s) (skipSpaces rest) x) := by
  have hvalue : ∀ x, extent? (readValue fuel start) = some x ↔ Comes .value start x :=
    fun x => hfuel .value start x hneed
  simp only [Series.Step, hvalue]
  refine or_congr_right (exists_congr fun more => exists_congr fun rest => and_congr_right ?_)
  intro hpast
  refine or_congr_right (and_congr_right ?_)
  intro hcomma
  have hmore : more.length < start.length := hpast.behind
  have hrest := length_of_skipSpaces hcomma
  have hskip := length_skipSpaces rest
  exact hfuel (.entries s) (skipSpaces rest) x (by simp only [Kind.need]; omega)

theorem Suffices.entries (hfuel : Suffices fuel) (hneed : 2 * cs.length + 1 < fuel + 1) :
    (Kind.entries s).extent? (fuel + 1) cs = some x ↔ Comes (.entries s) cs x := by
  rw [extent?_entries]
  constructor
  · rintro ⟨start, hentry, hstep⟩
    have hstart := hentry.length
    rcases (hfuel.step (by omega)).mp hstep with ⟨count, hlong, rfl⟩ | ⟨more, rest, hpast, hbehind⟩
    · exact .stuck hentry hlong
    · rcases hbehind with ⟨hclose, rfl⟩ | ⟨hcomma, hothers⟩
      · exact .last hentry hpast hclose
      · exact .next hentry hpast hcomma hothers
  · intro h
    cases h with
    | @stuck _ _ start _ hentry hlong =>
      have hstart := hentry.length
      exact ⟨start, hentry, (hfuel.step (by omega)).mpr (.inl ⟨_, hlong, rfl⟩)⟩
    | @last _ _ start _ _ hentry hpast hclose =>
      have hstart := hentry.length
      exact ⟨start, hentry, (hfuel.step (by omega)).mpr (.inr ⟨_, _, hpast, .inl ⟨hclose, rfl⟩⟩)⟩
    | @next _ _ start _ _ _ hentry hpast hcomma hothers =>
      have hstart := hentry.length
      exact ⟨start, hentry, (hfuel.step (by omega)).mpr (.inr ⟨_, _, hpast, .inr ⟨hcomma, hothers⟩⟩)⟩

/-- With enough fuel, readers come as far as the text says. -/
theorem suffices_all (fuel : Nat) : Suffices fuel := by
  -- a reader hands one less to the next, and never more text than its own
  induction fuel with
  | zero =>
    intro k cs x hneed
    exact absurd hneed (Nat.not_lt_zero _)
  | succ fuel ih =>
    intro k cs x hneed
    cases k with
    | value => exact ih.value hneed
    | entries s => exact ih.entries hneed

theorem readValue_eq_tooManyDigits_iff {fault : TooManyDigits} (hneed : 2 * cs.length < fuel) :
    readValue fuel cs = .error (.tooManyDigits fault) ↔ Comes .value cs (.overlong fault.count) := by
  rw [← suffices_all fuel .value cs _ hneed]
  exact extent?_eq_overlong_iff.symm

theorem not_comes_byteOrderMark : ¬ Comes .value ('\uFEFF' :: cs) x := by
  intro h
  have hword : readWord ('\uFEFF' :: cs) = none := by simp [readWord, words, after?]
  have hx := (suffices_all _ .value _ x (Nat.lt_succ_self _)).mpr h
  rw [Kind.extent?, readValue_simple (stops_cons.mpr (by decide)), hword] at hx
  cases hx

theorem readText_eq_tooManyDigits_iff {fault : TooManyDigits} :
    readText cs = .error (.tooManyDigits fault) ↔
      Comes .value (skipSpaces cs) (.overlong fault.count) := by
  by_cases hmark : cs.head? = some '\uFEFF'
  · obtain ⟨more, rfl⟩ := List.head?_eq_some_iff.mp hmark
    have hskip : skipSpaces ('\uFEFF' :: more) = '\uFEFF' :: more := rfl
    rw [hskip]
    constructor
    · intro h
      cases h
    · intro h
      exact absurd h not_comes_byteOrderMark
  · have hskip := length_skipSpaces cs
    rw [readText, bind_eq_error_iff, readValue_eq_tooManyDigits_iff (by omega)]
    · constructor
      · rintro (h | ⟨r, -, hend⟩)
        · exact h
        · dsimp only at hend
          split at hend <;> cases hend
      · exact .inl
    · rintro more rfl
      exact hmark rfl

/-- A text is refused for a number exactly when the value behind the blanks in front comes to one
that is too long. -/
theorem parse_eq_tooManyDigits_iff {fault : TooManyDigits} :
    parse cs = .error (.tooManyDigits fault) ↔
      Comes .value (skipSpaces cs) (.overlong fault.count) := by
  rw [← readText_eq_tooManyDigits_iff, parse]
  rcases readText cs with (⟨what, rest⟩ | fault') | v
  · simp [Stop.fault]
  · simp [Stop.fault]
  · simp

end LayoutQuery.Json

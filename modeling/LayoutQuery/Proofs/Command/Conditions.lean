import LayoutQuery.Proofs.Command.Agreement

/-! # Conditions that cannot be read
Conditions are read in front of everything else. The first that cannot be read decides how a check
or a search ends, and no file has been looked at by then. -/
namespace LayoutQuery.Command

open Condition (ParseError)

variable {s : Settings} {words texts : List String} {request : Request}

/-- The texts that a check or a search takes for conditions. -/
def Request.conditions? : Request → Option (List String)
  | .check texts _ => some texts
  | .search texts _ _ _ => some texts
  | _ => none

/-- What becomes of a command one of whose conditions cannot be read. -/
def unreadable : ParseError → Result
  | .amountTooLong fault => .escaped (.amountTooLong fault)
  | fault => .usage (.of (.badValue "CONDITIONS" fault.message))

theorem unreadable_of_isConditionError {fault : ParseError} (h : fault.isConditionError = true) :
    unreadable fault = .usage (.of (.badValue "CONDITIONS" fault.message)) := by
  cases fault with
  | amountTooLong => cases h
  | _ => rfl

/-- Of the texts, `text` is the first that is no condition. -/
structure FirstUnread (texts front : List String) (text : String) (fault : ParseError) : Prop where
  stands : front ++ [text] <+: texts
  fails : Condition.parse text = .error fault
  before : ∀ earlier ∈ front, ∃ c, Condition.parse earlier = .ok c

section FirstUnread

variable {front front' : List String} {text text' : String} {fault fault' : ParseError}

theorem FirstUnread.length_le (h : FirstUnread texts front text fault)
    (h' : FirstUnread texts front' text' fault') : front'.length ≤ front.length := by
  by_contra hlonger
  -- then `text` stands in `front'`, all of which can be read
  have hfront : front' <+: texts := (List.prefix_append front' [text']).trans h'.stands
  have hshort : (front ++ [text]).length ≤ front'.length := by
    rw [List.length_append]
    exact Nat.lt_of_not_le hlonger
  have hwithin := List.prefix_of_prefix_length_le h.stands hfront hshort
  obtain ⟨c, hc⟩ := h'.before text (hwithin.subset (List.mem_append_right front List.mem_cons_self))
  rw [h.fails] at hc
  cases hc

theorem FirstUnread.unique (h : FirstUnread texts front text fault)
    (h' : FirstUnread texts front' text' fault') :
    front = front' ∧ text = text' ∧ fault = fault' := by
  have hlength : front.length = front'.length :=
    Nat.le_antisymm (h'.length_le h) (h.length_le h')
  have hlengths : (front ++ [text]).length = (front' ++ [text']).length := by
    simp [hlength]
  have hwhole := List.prefix_of_prefix_length_le h.stands h'.stands hlengths.le
  obtain ⟨rfl, htext⟩ := List.append_inj (hwhole.eq_of_length hlengths) hlength
  cases htext
  have hfault := h.fails
  rw [h'.fails] at hfault
  cases hfault
  exact ⟨rfl, rfl, rfl⟩

end FirstUnread

theorem parseAll_error {text : String} {fault : ParseError} (h : Condition.parse text = .error fault)
    (rest : List String) : parseAll (text :: rest) = ([], .error (unreadable fault)) := by
  rw [parseAll, h]
  cases fault with
  | _ => rfl

/-- Either all texts can be read, or reading them comes to the first that cannot. -/
theorem parseAll_cases (texts : List String) :
    (∀ text ∈ texts, ∃ c, Condition.parse text = .ok c) ∨ ∃ front text fault,
      FirstUnread texts front text fault ∧
      parseAll texts = (List.replicate front.length .conditionParsed, .error (unreadable fault)) := by
  induction texts with
  | nil => exact .inl nofun
  | cons first rest ih =>
    cases hfirst : Condition.parse first with
    | error fault =>
      refine .inr ⟨[], first, fault, ⟨?_, hfirst, nofun⟩, parseAll_error hfirst rest⟩
      exact List.prefix_append [first] rest
    | ok c =>
      rcases ih with hrest | ⟨front, text, fault, hunread, hparse⟩
      · exact .inl (List.forall_mem_cons.mpr ⟨⟨c, hfirst⟩, hrest⟩)
      · refine .inr ⟨first :: front, text, fault, ⟨?_, hunread.fails, ?_⟩, ?_⟩
        · exact List.cons_prefix_cons.mpr ⟨rfl, hunread.stands⟩
        · exact List.forall_mem_cons.mpr ⟨⟨c, hfirst⟩, hunread.before⟩
        · rw [parseAll, hfirst, hparse]
          rfl

/-- What a check or a search does with its texts before it does anything else. -/
theorem perform_conditions (hrequest : request.conditions? = some texts) (t : Tree) (s : Settings) :
    ∃ go, perform t s request = withConditions texts go := by
  cases request with
  | help => cases hrequest
  | showConfig => cases hrequest
  | parse => cases hrequest
  | check conditions layout =>
    cases hrequest
    exact ⟨_, rfl⟩
  | search conditions directory pattern limit =>
    cases hrequest
    exact ⟨_, rfl⟩

/-- Where one of the conditions cannot be read, the files make no difference to what is printed,
logged and answered. The first such condition decides; nothing is printed, and a line is logged for
each condition in front of it. -/
theorem unread_condition_decides (s : Settings) (words texts : List String) (request : Request)
    (hwords : Asks s words request) (hrequest : request.conditions? = some texts)
    (hunread : ∃ text ∈ texts, ∀ c, Condition.parse text ≠ .ok c) :
    (∀ t t', run t s words = run t' s words) ∧
      ∃ front text fault, FirstUnread texts front text fault ∧
        (∀ t, (run t s words).printed = [] ∧ (run t s words).result = unreadable fault ∧
          (run t s words).shown = LogLine.shown (run t s words).level
            (List.replicate front.length .conditionParsed)) ∧
        (fault.isConditionError = true →
          ∀ t, (run t s words).result = .usage (.of (.badValue "CONDITIONS" fault.message)) ∧
            (run t s words).result.exitCode? = some 2) := by
  obtain ⟨asked, name, rest, level, hinvoked, hlevel, hread⟩ := hwords
  rcases parseAll_cases texts with hall | ⟨front, text, fault, hfirst, hparse⟩
  · obtain ⟨text, htext, hnot⟩ := hunread
    obtain ⟨c, hc⟩ := hall text htext
    exact absurd hc (hnot c)
  · have hrun : ∀ t, run t s words = ⟨[], level,
        LogLine.shown level (List.replicate front.length .conditionParsed), unreadable fault⟩ := by
      intro t
      obtain ⟨go, hgo⟩ := perform_conditions hrequest t s
      simp only [run, hinvoked, hlevel, hread, hgo, withConditions, hparse]
      simp [Work.after, Work.ending]
    refine ⟨?_, front, text, fault, hfirst, ?_, ?_⟩
    · intro t t'
      rw [hrun t, hrun t']
    · intro t
      rw [hrun t]
      exact ⟨rfl, rfl, rfl⟩
    · intro hcondition t
      rw [hrun t, unreadable_of_isConditionError hcondition]
      exact ⟨rfl, rfl⟩

/-- The first condition can be read. Of the two that cannot, the one in front decides, although the
other is not even a keyword with something behind it. -/
theorem unread_condition_decides_second :
    let words := ["--log-level", "debug", "check", "--layout", "a.json", "count ship = 0",
      "count_unit attic = 1", "ship"]
    let fault := ParseError.unknownRoomType "attic"
    ∀ t, (run t {} words).result = .usage (.of (.badValue "CONDITIONS" fault.message)) ∧
      (run t {} words).shown = [.conditionParsed] := by
  intro words attic t
  have hasks : Asks {} words
      (.check ["count ship = 0", "count_unit attic = 1", "ship"] "a.json") :=
    ⟨some "debug", .check, _, .debug, rfl, rfl, rfl⟩
  have hgood : Condition.parse "count ship = 0" = .ok ⟨.entity "ship", .equal, 0⟩ := by rfl
  have hattic : Condition.parse "count_unit attic = 1" = .error attic := by rfl
  have hbad : ∃ text ∈ ["count ship = 0", "count_unit attic = 1", "ship"],
      ∀ c, Condition.parse text ≠ .ok c :=
    ⟨"count_unit attic = 1", by decide, fun c hc => by rw [hattic] at hc; cases hc⟩
  have hsecond : FirstUnread ["count ship = 0", "count_unit attic = 1", "ship"] ["count ship = 0"]
      "count_unit attic = 1" attic :=
    ⟨by decide, hattic, List.forall_mem_singleton.mpr ⟨_, hgood⟩⟩
  have hlevel : (run t {} words).level = .debug := by rfl
  obtain ⟨-, front, text, fault, hfirst, hrun, hcondition⟩ :=
    unread_condition_decides {} words _ _ hasks rfl hbad
  obtain ⟨rfl, rfl, rfl⟩ := hfirst.unique hsecond
  have hshown := (hrun t).2.2
  rw [hlevel] at hshown
  exact ⟨(hcondition rfl t).1, hshown⟩

end LayoutQuery.Command

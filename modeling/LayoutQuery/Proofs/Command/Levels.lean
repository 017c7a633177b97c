import LayoutQuery.Proofs.Command.Agreement
import LayoutQuery.Proofs.Fields
import Mathlib.Data.List.Infix

/-! # Log levels
The log level decides which lines of the log are shown, and nothing else. So two command lines that
differ in their log levels only do the same and end the same, and the one with the higher level shows
those lines of the other that are severe enough. -/
namespace LayoutQuery.Command

variable {s : Settings} {level level' : LogLevel} {words words' : List String}

/-! ## What is shown -/

theorem LogLine.shown_shown (h : level'.severity ≤ level.severity) (lines : List LogLine) :
    shown level (shown level' lines) = shown level lines := by
  rw [shown, shown, shown, List.filter_filter]
  apply List.filter_congr
  intro l _
  by_cases hl : level.severity ≤ l.level.severity
  · simp [hl, h.trans hl]
  · simp [hl]

/-! ## Options in front of the command -/

/-- The words of an option in front of the command, and how the option is recorded. A value is
written behind its option, or joined to it. -/
inductive LeadingOption : List String → String × String → Prop where
  | apart (value : String) : LeadingOption ["--log-level", value] ("--log-level", value)
  | joined (value : String) : LeadingOption ["--log-level=" ++ value] ("--log-level", value)
  | flag {name : String} : name ∈ ["--install-completion", "--show-completion", "--help"] →
      LeadingOption [name] (name, "")

/-- The command lines are the same but for levels that are asked for in front of the command: one
asks for `level` where the other asks for `level'`. -/
inductive Relevelled (s : Settings) (level level' : LogLevel) : List String → List String → Prop where
  | same (words : List String) : Relevelled s level level' words words
  | kept {option rest rest' : List String} {recorded : String × String} :
      LeadingOption option recorded → Relevelled s level level' rest rest' →
      Relevelled s level level' (option ++ rest) (option ++ rest')
  | changed {option option' rest rest' : List String} {value value' : String} :
      LeadingOption option ("--log-level", value) → LeadingOption option' ("--log-level", value') →
      chooseLevel s (some value) = .ok level → chooseLevel s (some value') = .ok level' →
      Relevelled s level level' rest rest' →
      Relevelled s level level' (option ++ rest) (option' ++ rest')

def Words.withOption (o : String × String) (w : Words) : Words := { w with options := o :: w.options }

theorem Words.value?_withOption (option : String) (o : String × String) (w : Words) :
    (w.withOption o).value? option =
      (w.value? option).or (if o.1 = option then some o.2 else none) := by
  rw [value?, value?, values, values, Fields.get?_ofList, Fields.get?_ofList, withOption,
    List.reverse_cons, List.lookup_append, Fields.lookup_cons]
  rfl

theorem toList_joined (value : String) :
    ("--log-level=" ++ value).toList = "--log-level".toList ++ '=' :: value.toList := by
  rw [String.toList_append]
  rfl

theorem Words.asksHelp_withOption (o : String × String) (w : Words) :
    (w.withOption o).asksHelp = (o.1 == helpOption.name || w.asksHelp) := rfl

theorem splitOption_joined (value : String) :
    splitOption ("--log-level=" ++ value) = ("--log-level", some value) := by
  have hplain : ∀ c ∈ "--log-level".toList, (c != '=') = true := List.all_eq_true.mp rfl
  have hname : ("--log-level=" ++ value).toList.takeWhile (· != '=') = "--log-level".toList := by
    rw [toList_joined, List.takeWhile_append_of_pos hplain]
    simp
  rw [splitOption, hname, toList_joined, List.drop_left]
  simp

/-- An option in front of the command is recorded, and the words behind it are sorted as they would
be without it. -/
theorem LeadingOption.sortWords {option : List String} {o : String × String}
    (h : LeadingOption option o) (rest : List String) :
    sortWords leadingOptions false (option ++ rest) =
      (sortWords leadingOptions false rest).map (Words.withOption o) := by
  cases h with
  | apart value => rfl
  | joined value =>
    have hbare : "--log-level=" ++ value ≠ "--" := by
      intro h
      have hsize := congrArg (·.toList.length) h
      simp at hsize
    have hoption : isOption ("--log-level=" ++ value) = true := by
      rw [isOption, toList_joined]
      rfl
    rw [List.singleton_append, Command.sortWords, if_neg hbare, if_pos hoption, splitOption_joined]
    rfl
  | flag hname =>
    simp only [List.mem_cons, List.not_mem_nil, or_false] at hname
    rcases hname with rfl | rfl | rfl
    · rfl
    · rfl
    · rfl

/-! ## What is found in front of the command -/

/-- The same level is asked for, or each of the two. -/
inductive LevelsAsked (s : Settings) (level level' : LogLevel) : Option String → Option String → Prop
  where
  | same (asked : Option String) : LevelsAsked s level level' asked asked
  | each {value value' : String} : chooseLevel s (some value) = .ok level →
      chooseLevel s (some value') = .ok level' → LevelsAsked s level level' (some value) (some value')

theorem LevelsAsked.or_right {asked asked' : Option String}
    (h : LevelsAsked s level level' asked asked') (earlier : Option String) :
    LevelsAsked s level level' (asked.or earlier) (asked'.or earlier) := by
  cases h with
  | same => exact .same _
  | each hv hv' => exact .each hv hv'

/-- A level that is asked for earlier counts where no other is. -/
theorem LevelsAsked.or_each {asked asked' : Option String}
    (h : LevelsAsked s level level' asked asked') {value value' : String}
    (hvalue : chooseLevel s (some value) = .ok level)
    (hvalue' : chooseLevel s (some value') = .ok level') :
    LevelsAsked s level level' (asked.or (some value)) (asked'.or (some value')) := by
  cases h with
  | same =>
    cases asked with
    | none => exact .each hvalue hvalue'
    | some later => exact .same _
  -- of the values of an option the last one counts
  | each hv hv' => exact .each hv hv'

/-- The words differ in the levels they ask for only. -/
structure Words.Alike (s : Settings) (level level' : LogLevel) (w w' : Words) : Prop where
  arguments : w.arguments = w'.arguments
  asksHelp : w.asksHelp = w'.asksHelp
  levels : LevelsAsked s level level' (w.value? "--log-level") (w'.value? "--log-level")

variable {w w' : Words}

theorem Words.Alike.kept (h : w.Alike s level level' w') (o : String × String) :
    (w.withOption o).Alike s level level' (w'.withOption o) where
  arguments := h.arguments
  asksHelp := by
    rw [asksHelp_withOption, asksHelp_withOption, h.asksHelp]
  levels := by
    rw [value?_withOption, value?_withOption]
    exact h.levels.or_right _

theorem Words.Alike.changed (h : w.Alike s level level' w') {value value' : String}
    (hvalue : chooseLevel s (some value) = .ok level)
    (hvalue' : chooseLevel s (some value') = .ok level') :
    (w.withOption ("--log-level", value)).Alike s level level'
      (w'.withOption ("--log-level", value')) where
  arguments := h.arguments
  asksHelp := by
    rw [asksHelp_withOption, asksHelp_withOption, h.asksHelp]
  levels := by
    rw [value?_withOption, value?_withOption, if_pos rfl, if_pos rfl]
    exact h.levels.or_each hvalue hvalue'

/-- Sorting fails alike, or finds words that differ in the levels they ask for only. -/
theorem sortWords_relevelled (h : Relevelled s level level' words words') :
    (∃ halt, sortWords leadingOptions false words = .error halt ∧
      sortWords leadingOptions false words' = .error halt) ∨
    ∃ w w', sortWords leadingOptions false words = .ok w ∧
      sortWords leadingOptions false words' = .ok w' ∧ w.Alike s level level' w' := by
  induction h with
  | same words =>
    cases hsorted : sortWords leadingOptions false words with
    | error halt => exact .inl ⟨halt, rfl, rfl⟩
    | ok w => exact .inr ⟨w, w, rfl, rfl, ⟨rfl, rfl, .same _⟩⟩
  | @kept option rest rest' recorded hoption _ ih =>
    rw [hoption.sortWords, hoption.sortWords]
    rcases ih with ⟨halt, hrest, hrest'⟩ | ⟨w, w', hrest, hrest', halike⟩
    · rw [hrest, hrest']
      exact .inl ⟨halt, rfl, rfl⟩
    · rw [hrest, hrest']
      exact .inr ⟨_, _, rfl, rfl, halike.kept recorded⟩
  | changed hoption hoption' hvalue hvalue' _ ih =>
    rw [hoption.sortWords, hoption'.sortWords]
    rcases ih with ⟨halt, hrest, hrest'⟩ | ⟨w, w', hrest, hrest', halike⟩
    · rw [hrest, hrest']
      exact .inl ⟨halt, rfl, rfl⟩
    · rw [hrest, hrest']
      exact .inr ⟨_, _, rfl, rfl, halike.changed hvalue hvalue'⟩

/-- Either the same becomes of both command lines, or both come to the same command, each with its
level. -/
theorem ofWords_relevelled (h : Relevelled s level level' words words') :
    Invocation.ofWords words = Invocation.ofWords words' ∨ ∃ asked asked' name rest,
      Invocation.ofWords words = .ok (.command asked name rest) ∧
      Invocation.ofWords words' = .ok (.command asked' name rest) ∧
      chooseLevel s asked = .ok level ∧ chooseLevel s asked' = .ok level' := by
  rcases sortWords_relevelled h with ⟨halt, hsorted, hsorted'⟩ | ⟨w, w', hsorted, hsorted', halike⟩
  · left
    rw [Invocation.ofWords, Invocation.ofWords, hsorted, hsorted']
  · rw [Invocation.ofWords, Invocation.ofWords, hsorted, hsorted']
    simp only [mapError_ok, ok_bind, ← halike.arguments, ← halike.asksHelp]
    have hlevels := halike.levels
    generalize w.value? "--log-level" = asked at hlevels ⊢
    generalize w'.value? "--log-level" = asked' at hlevels ⊢
    cases hlevels with
    | same => exact .inl rfl
    | @each value value' hv hv' =>
      by_cases hhelp : w.asksHelp = true
      · exact .inl (by simp [hhelp])
      · cases harguments : w.arguments with
        | nil => exact .inl (by simp [hhelp])
        | cons name rest =>
          cases hname : CommandName.names.lookup name with
          | none => exact .inl (by simp [hhelp, hname])
          | some known =>
            refine .inr ⟨some value, some value', known, rest, ?_, ?_, hv, hv'⟩
            · simp [hhelp, hname]
            · simp [hhelp, hname]

/-! ## The command -/

/-- What a command does is settled before its level is looked at. -/
theorem exists_work (t : Tree) (s : Settings) (name : CommandName) (rest : List String) :
    ∃ work : Work, ∀ (words : List String) (asked : Option String) (level : LogLevel),
      Invocation.ofWords words = .ok (.command asked name rest) → chooseLevel s asked = .ok level →
        run t s words = ⟨work.printed, level, LogLine.shown level work.log, work.result⟩ := by
  cases hread : name.readWords rest with
  | error fault =>
    refine ⟨.ending (.usage (.of fault)), ?_⟩
    intro words asked level hwords hlevel
    simp only [run, hwords, hlevel, hread]
  | ok request =>
    refine ⟨perform t s request, ?_⟩
    intro words asked level hwords hlevel
    simp only [run, hwords, hlevel, hread]

theorem shown_run (t : Tree) (s : Settings) (words : List String) :
    LogLine.shown (run t s words).level (run t s words).shown = (run t s words).shown := by
  cases hwords : Invocation.ofWords words with
  | error refusal =>
    rw [run, hwords]
    rfl
  | ok invocation =>
    cases invocation with
    | help =>
      rw [run, hwords]
      rfl
    | command asked name rest =>
      cases hlevel : chooseLevel s asked with
      | error fault =>
        rw [run, hwords]
        simp only [hlevel]
        rfl
      | ok level =>
        obtain ⟨work, hwork⟩ := exists_work t s name rest
        rw [hwork words asked level hwords hlevel]
        exact LogLine.shown_shown le_rfl work.log

end LayoutQuery.Command

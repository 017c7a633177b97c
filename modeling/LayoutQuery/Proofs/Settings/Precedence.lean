import LayoutQuery.Proofs.Settings.Assignments
import LayoutQuery.Proofs.Settings.Limit
import LayoutQuery.Proofs.Text.CaseMaps
import Mathlib.Data.List.Pairwise

/-! # Where settings come from
A setting is what its variable says in the environment, else what it says in the file of variables,
else its default. So nothing in the file can change what the environment settles. -/
namespace LayoutQuery

open Text

namespace Setting

/-- The name is that of the setting's variable, in any letter case. -/
def NamedBy (x : Setting) (name : String) : Prop :=
  name.toList.map Char.toLower = (Settings.variableOf x.key).toList

instance (x : Setting) (name : String) : Decidable (x.NamedBy name) :=
  inferInstanceAs (Decidable (_ = _))

theorem variableOf_injective {x y : Setting}
    (h : Settings.variableOf x.key = Settings.variableOf y.key) : x = y := by
  revert h
  cases x <;> cases y <;> decide

/-- No name is that of two variables. -/
theorem NamedBy.unique {x y : Setting} {name : String} (hx : x.NamedBy name)
    (hy : y.NamedBy name) : x = y :=
  variableOf_injective (String.toList_inj.mp (hx.symm.trans hy))

def IsSetIn (x : Setting) (environment : Fields String) : Prop :=
  ∃ v ∈ environment, x.NamedBy v.1

instance (x : Setting) (environment : Fields String) : Decidable (x.IsSetIn environment) :=
  List.decidableBEx (fun v : String × String => x.NamedBy v.1) environment

/-- One of the lines of the file gives a value to the setting's variable. -/
def IsAssignedIn (x : Setting) (file : Option (List UInt8)) : Prop :=
  ∃ text name value, Settings.HasText file text ∧ (name, some value) ∈ Dotenv.assignments text ∧
    x.NamedBy name

/-- The name of the setting's variable stands somewhere in the file. -/
def IsNamedIn (x : Setting) (file : Option (List UInt8)) : Prop :=
  ∃ text name, Settings.HasText file text ∧ name.toList <:+: text ∧ x.NamedBy name

end Setting

namespace Settings

variable {α : Type} {environment : Fields String} {vars : Fields (Option String)} {s : Settings}
  {file : Option (List UInt8)} {x : Setting} {v : String × String}

/-- No setting has its variable twice in the environment, spelled in two ways. -/
def NamedOnce (environment : Fields String) : Prop :=
  ∀ x : Setting, environment.Pairwise fun v w => ¬ (x.NamedBy v.1 ∧ x.NamedBy w.1)

/-! ## Names in lower case -/

theorem lower_eq_variableOf_iff {name : String} :
    lower name = variableOf x.key ↔ x.NamedBy name := by
  apply lower_eq_iff
  cases x <;> decide

theorem exists_of_lowered {named : Fields α} {key : String} {a : α}
    (h : (lowered named).get? key = some a) : ∃ v ∈ named, lower v.1 = key ∧ v.2 = a := by
  rw [lowered, Fields.get?_ofList] at h
  obtain ⟨v, hv, heq⟩ := List.mem_map.mp (List.mem_reverse.mp (mem_of_lookup h))
  cases heq
  exact ⟨v, hv, rfl, rfl⟩

theorem exists_lowered {named : Fields α} {v : String × α} (hv : v ∈ named) :
    ∃ a, (lowered named).get? (lower v.1) = some a := by
  rw [lowered, Fields.get?_ofList, ← Option.ne_none_iff_exists', ne_eq, List.lookup_eq_none_iff]
  intro h
  have hmem : (lower v.1, v.2) ∈ (named.map fun v => (lower v.1, v.2)).reverse :=
    List.mem_reverse.mpr (List.mem_map.mpr ⟨v, hv, rfl⟩)
  simpa using h _ hmem

/-! ## What is given -/

theorem exists_given (h : x.IsSetIn environment) :
    ∃ v ∈ environment, x.NamedBy v.1 ∧ ∀ vars, given environment vars x.key = some v.2 := by
  obtain ⟨v, hv, hname⟩ := h
  obtain ⟨text, htext⟩ := exists_lowered hv
  rw [lower_eq_variableOf_iff.mpr hname] at htext
  obtain ⟨w, hw, hlower, rfl⟩ := exists_of_lowered htext
  refine ⟨w, hw, lower_eq_variableOf_iff.mp hlower, fun vars => ?_⟩
  rw [given, htext]

theorem given_of_mem (honce : NamedOnce environment) (hv : v ∈ environment) (hname : x.NamedBy v.1)
    (vars : Fields (Option String)) : given environment vars x.key = some v.2 := by
  obtain ⟨w, hw, hname', hgiven⟩ := exists_given ⟨v, hv, hname⟩
  have hsame : w = v := by
    by_contra hne
    have : Std.Symm fun v w : String × String => ¬ (x.NamedBy v.1 ∧ x.NamedBy w.1) :=
      ⟨fun _ _ h hboth => h hboth.symm⟩
    exact (honce x).forall hw hv hne ⟨hname', hname⟩
  rw [hgiven, hsame]

theorem given_eq_none (henvironment : ¬ x.IsSetIn environment)
    (hvars : ∀ name text, (name, some text) ∈ vars → ¬ x.NamedBy name) :
    given environment vars x.key = none := by
  have hlowered : (lowered environment).get? (variableOf x.key) = none := by
    rw [Option.eq_none_iff_forall_ne_some]
    intro text htext
    obtain ⟨v, hv, hlower, -⟩ := exists_of_lowered htext
    exact henvironment ⟨v, hv, lower_eq_variableOf_iff.mp hlower⟩
  rw [given, hlowered, Option.eq_none_iff_forall_ne_some]
  intro text htext
  obtain ⟨⟨name, value⟩, hmem, hlower, rfl⟩ := exists_of_lowered (Option.join_eq_some_iff.mp htext)
  exact hvars name text hmem (lower_eq_variableOf_iff.mp hlower)

theorem Settles.not_namedBy (h : Settles environment file vars) (hfile : ¬ x.IsAssignedIn file)
    (name text : String) (hmem : (name, some text) ∈ vars) : ¬ x.NamedBy name := by
  intro hname
  cases h with
  | absent => cases hmem
  | present htext =>
    obtain ⟨written, hwritten⟩ := Dotenv.exists_of_mem_settled hmem
    exact hfile ⟨_, name, written, htext, hwritten, hname⟩

theorem namedIn_of_assignedIn (h : x.IsAssignedIn file) : x.IsNamedIn file := by
  obtain ⟨text, name, value, htext, hmem, hname⟩ := h
  have hstands := Dotenv.infix_of_mem_assignments hmem
  exact ⟨text, name, htext, hstands, hname⟩

/-- Settings that load have a limit of at least one, if any. Each is read from its variable in the
environment, if it is set there, and then is the same with every file of variables; with a limit in
the environment every file that can be read as text will do. A setting that is set neither there nor
in the file has its default, and it is set in the file only if the name of its variable stands in
it. -/
theorem environment_decides (honce : NamedOnce environment) (h : load environment file = .ok s) :
    (∀ n, s.searchLimit = some n → 1 ≤ n) ∧
    (∀ x : Setting, ∀ v ∈ environment, x.NamedBy v.1 → x.read v.2 = .ok (x.value s)) ∧
    (∀ file' s', load environment file' = .ok s' →
      ∀ x : Setting, x.IsSetIn environment → x.value s' = x.value s) ∧
    (Setting.searchLimit.IsSetIn environment →
      ∀ file', (∃ s', load environment file' = .ok s') ↔ Decodes file') ∧
    (∀ x : Setting, ¬ x.IsSetIn environment → ¬ x.IsAssignedIn file → x.value s = x.value {}) ∧
    ∀ x : Setting, x.IsAssignedIn file → x.IsNamedIn file := by
  obtain ⟨vars, hsettles, hvars⟩ := load_eq_ok_iff.mp h
  refine ⟨fun n => one_le_of_load h, ?_, ?_, ?_, ?_, fun x => namedIn_of_assignedIn⟩
  · intro x v hv hname
    have htakes := takes_of_ofVariables hvars x
    rwa [given_of_mem honce hv hname] at htakes
  · intro file' s' h' x hset
    obtain ⟨vars', -, hvars'⟩ := load_eq_ok_iff.mp h'
    obtain ⟨v, -, -, hgiven⟩ := exists_given hset
    have htakes := takes_of_ofVariables hvars x
    have htakes' := takes_of_ofVariables hvars' x
    rw [hgiven] at htakes htakes'
    exact htakes'.unique htakes
  · intro hset file'
    obtain ⟨v, -, -, hgiven⟩ := exists_given hset
    have htakes := takes_of_ofVariables hvars .searchLimit
    rw [hgiven] at htakes
    rw [← exists_settles_iff]
    constructor
    · rintro ⟨s', h'⟩
      obtain ⟨vars', hsettles', -⟩ := load_eq_ok_iff.mp h'
      exact ⟨vars', hsettles'⟩
    · rintro ⟨vars', hsettles'⟩
      rw [← hgiven vars'] at htakes
      obtain ⟨s', hvars'⟩ := exists_ofVariables htakes
      exact ⟨s', load_eq_ok_iff.mpr ⟨vars', hsettles', hvars'⟩⟩
  · intro x henvironment hfile
    have htakes := takes_of_ofVariables hvars x
    rwa [given_eq_none henvironment (hsettles.not_namedBy hfile)] at htakes

/-- A limit and an empty name in the environment, in front of a file that has another limit, in
other letters, and leaves out what the log level is. -/
theorem environment_decides_limit :
    let environment : Fields String := [("SUBLEVEL_QUERY_APP_NAME", ""),
      ("Sublevel_Query_search_LIMIT", " 0_7.0 ")]
    let content := "sublevel_query_SEARCH_LIMIT=0 # none\nSUBLEVEL_QUERY_LOG_LEVEL\n"
    let file := some content.toUTF8.data.toList
    let s : Settings := ⟨"", "WARNING", "layouts", "*.json", some 7⟩
    NamedOnce environment ∧ load environment file = .ok s ∧
      (∃ s', load environment none = .ok s' ∧ s'.searchLimit = some 7 ∧ s'.appName = "") ∧
      ¬ Setting.logLevel.IsSetIn environment ∧ ¬ Setting.logLevel.IsAssignedIn file ∧
      s.logLevel = "WARNING" := by
  intro environment content file s
  -- each name is looked at once; what else is named follows, as a name belongs to one setting
  have happ : Setting.appName.NamedBy "SUBLEVEL_QUERY_APP_NAME" := by decide
  have hlimit : Setting.searchLimit.NamedBy "Sublevel_Query_search_LIMIT" := by decide
  have honce : NamedOnce environment := by
    intro x
    rw [List.pairwise_pair]
    rintro ⟨h, h'⟩
    exact absurd ((h.unique happ).symm.trans (h'.unique hlimit)) nofun
  have hset : ∀ x : Setting, x.IsSetIn environment → x = .appName ∨ x = .searchLimit := by
    rintro x ⟨v, hv, hname⟩
    rcases List.mem_pair.mp hv with rfl | rfl
    · exact .inl (hname.unique happ)
    · exact .inr (hname.unique hlimit)
  have htext : HasText file (unifyNewlines content.toList) := (hasText_toUTF8_iff content).mpr rfl
  have hassigned : ∀ x : Setting, x.IsAssignedIn file → x = .searchLimit := by
    rintro x ⟨text, name, value, htext', hmem, hname⟩
    have hall : ∀ a ∈ Dotenv.assignments (unifyNewlines content.toList),
        a.2 ≠ none → Setting.searchLimit.NamedBy a.1 := by decide
    rw [(hasText_toUTF8_iff content).mp htext'] at hmem
    exact hname.unique (hall (name, some value) hmem nofun)
  have hnone : ∀ vars, Settles environment file vars → ∀ x : Setting, x ≠ .appName →
      x ≠ .searchLimit → given environment vars x.key = none := by
    intro vars hsettles x hname hcount
    exact given_eq_none (fun h => (hset x h).elim hname hcount)
      (hsettles.not_namedBy fun h => hcount (hassigned x h))
  have hload : load environment file = .ok s := by
    refine load_eq_ok_iff.mpr ⟨_, .present htext, ofVariables_eq_ok_iff.mpr fun x => ?_⟩
    cases x with
    | appName =>
      rw [given_of_mem honce List.mem_cons_self happ]
      rfl
    | searchLimit =>
      rw [given_of_mem honce (List.mem_cons_of_mem _ List.mem_cons_self) hlimit]
      rfl
    | logLevel =>
      rw [hnone _ (.present htext) .logLevel nofun nofun]
      rfl
    | layoutsDir =>
      rw [hnone _ (.present htext) .layoutsDir nofun nofun]
      rfl
    | layoutGlob =>
      rw [hnone _ (.present htext) .layoutGlob nofun nofun]
      rfl
  have hlevel : ¬ Setting.logLevel.IsSetIn environment := fun h => (hset _ h).elim nofun nofun
  have hfile : ¬ Setting.logLevel.IsAssignedIn file := fun h => absurd (hassigned _ h) nofun
  obtain ⟨-, -, hsame, hloads, hdefault, -⟩ := environment_decides honce hload
  have hlimitSet : Setting.searchLimit.IsSetIn environment :=
    ⟨_, List.mem_cons_of_mem _ List.mem_cons_self, hlimit⟩
  obtain ⟨s', h'⟩ := (hloads hlimitSet none).mpr nofun
  have hsame' := hsame none s' h'
  exact ⟨honce, hload,
    ⟨s', h', hsame' .searchLimit hlimitSet, hsame' .appName ⟨_, List.mem_cons_self, happ⟩⟩,
    hlevel, hfile, hdefault .logLevel hlevel hfile⟩

end Settings

end LayoutQuery

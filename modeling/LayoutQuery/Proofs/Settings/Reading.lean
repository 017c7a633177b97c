import LayoutQuery.Proofs.Except
import LayoutQuery.Proofs.Text.Utf8
import LayoutQuery.Settings.Basic

/-! # What settings are read from
Settings load exactly if the file of variables is text and a limit can be read where one is given.
Each setting then is what the text given for it stands for, or its default where none is given. -/
namespace LayoutQuery

open Text

attribute [ext] Settings

inductive Setting where
  | appName
  | logLevel
  | layoutsDir
  | layoutGlob
  | searchLimit
  deriving DecidableEq, Repr

namespace Setting

def key : Setting → String
  | appName => "app_name"
  | logLevel => "log_level"
  | layoutsDir => "layouts_dir"
  | layoutGlob => "layout_glob"
  | searchLimit => "search_limit"

def Value : Setting → Type
  | appName | logLevel | layoutsDir | layoutGlob => String
  | searchLimit => Option Nat

def value (s : Settings) : (x : Setting) → x.Value
  | appName => s.appName
  | logLevel => s.logLevel
  | layoutsDir => s.layoutsDir
  | layoutGlob => s.layoutGlob
  | searchLimit => s.searchLimit

/-- What the text of a variable stands for. All but a limit is taken as it is written. -/
def read : (x : Setting) → String → Except LimitFault x.Value
  | appName, text | logLevel, text | layoutsDir, text | layoutGlob, text => .ok text
  | searchLimit, text => (Limit.ofString text).map some

end Setting

namespace Settings

variable {environment : Fields String} {vars : Fields (Option String)} {s s' : Settings}
  {file : Option (List UInt8)}

/-! ## Variables -/

/-- A setting has the value that is read from the given text, and its default without one. -/
def Takes (x : Setting) (s : Settings) : Option String → Prop
  | some text => x.read text = .ok (x.value s)
  | none => x.value s = x.value {}

theorem ofVariables_eq (environment : Fields String) (vars : Fields (Option String)) :
    ofVariables environment vars =
      (given environment vars "search_limit").elim (.ok none)
        (fun text => ((Limit.ofString text).map some).mapError .searchLimit) >>= fun limit => .ok {
          appName := (given environment vars "app_name").getD (Setting.appName.value {})
          logLevel := (given environment vars "log_level").getD (Setting.logLevel.value {})
          layoutsDir := (given environment vars "layouts_dir").getD (Setting.layoutsDir.value {})
          layoutGlob := (given environment vars "layout_glob").getD (Setting.layoutGlob.value {})
          searchLimit := limit } := by
  rw [ofVariables]
  cases given environment vars "search_limit" <;> rfl

theorem takes_of_ofVariables (h : ofVariables environment vars = .ok s) (x : Setting) :
    Takes x s (given environment vars x.key) := by
  rw [ofVariables_eq] at h
  obtain ⟨limit, hlimit, hsettings⟩ := bind_eq_ok_iff.mp h
  cases hsettings
  cases x with
  | appName =>
    rw [Setting.key]
    cases given environment vars "app_name" <;> rfl
  | logLevel =>
    rw [Setting.key]
    cases given environment vars "log_level" <;> rfl
  | layoutsDir =>
    rw [Setting.key]
    cases given environment vars "layouts_dir" <;> rfl
  | layoutGlob =>
    rw [Setting.key]
    cases given environment vars "layout_glob" <;> rfl
  | searchLimit =>
    rw [Setting.key]
    cases hgiven : given environment vars "search_limit" with
    | none =>
      rw [hgiven] at hlimit
      cases hlimit
      rfl
    | some text =>
      rw [hgiven] at hlimit
      exact mapError_eq_ok_iff.mp hlimit

/-- A limit that was read once can be read again, so the settings can be made of other variables. -/
theorem exists_ofVariables (h : Takes .searchLimit s (given environment vars "search_limit")) :
    ∃ s', ofVariables environment vars = .ok s' := by
  rw [ofVariables_eq]
  cases hgiven : given environment vars "search_limit" with
  | none => exact ⟨_, rfl⟩
  | some text =>
    rw [hgiven] at h
    have hlimit : (Limit.ofString text).map some = .ok s.searchLimit := h
    rw [Option.elim, hlimit]
    exact ⟨_, rfl⟩

theorem Takes.unique {x : Setting} {text : Option String} (h : Takes x s text)
    (h' : Takes x s' text) : x.value s = x.value s' := by
  cases text with
  | none => exact Eq.trans h (Eq.symm h')
  | some text => exact Except.ok.inj (Eq.trans (Eq.symm h) h')

theorem ofVariables_eq_ok_iff : ofVariables environment vars = .ok s ↔
    ∀ x : Setting, Takes x s (given environment vars x.key) := by
  constructor
  · exact takes_of_ofVariables
  · intro h
    obtain ⟨s', hs'⟩ := exists_ofVariables (h .searchLimit)
    have hvalues : ∀ x : Setting, x.value s' = x.value s := fun x =>
      (takes_of_ofVariables hs' x).unique (h x)
    have hsame : s' = s := Settings.ext (hvalues .appName) (hvalues .logLevel)
      (hvalues .layoutsDir) (hvalues .layoutGlob) (hvalues .searchLimit)
    rw [hs', hsame]

/-! ## Files -/

/-- The text of a file of variables, its line ends made equal. -/
inductive HasText : Option (List UInt8) → List Char → Prop where
  | mk {bytes : List UInt8} {text : List Char} : decode bytes = .ok text →
      HasText (some bytes) (unifyNewlines text)

theorem hasText_toUTF8_iff (content : String) {text : List Char} :
    HasText (some content.toUTF8.data.toList) text ↔ text = unifyNewlines content.toList := by
  constructor
  · rintro ⟨hdecode⟩
    cases (decode_toUTF8 content).symm.trans hdecode
    rfl
  · rintro rfl
    exact .mk (decode_toUTF8 content)

/-- The variables that a file settles; none if there is no file. -/
inductive Settles (environment : Fields String) :
    Option (List UInt8) → Fields (Option String) → Prop where
  | absent : Settles environment none []
  | present {file : Option (List UInt8)} {text : List Char} : HasText file text →
      Settles environment file (Dotenv.settled environment text)

theorem load_eq_ok_iff : load environment file = .ok s ↔
    ∃ vars, Settles environment file vars ∧ ofVariables environment vars = .ok s := by
  cases file with
  | none =>
    constructor
    · exact fun h => ⟨[], .absent, h⟩
    · rintro ⟨vars, hsettles, h⟩
      cases hsettles with
      | absent => exact h
      | present htext => cases htext
  | some bytes =>
    constructor
    · intro h
      obtain ⟨text, hdecode, hvars⟩ := bind_eq_ok_iff.mp h
      exact ⟨_, .present (.mk (mapError_eq_ok_iff.mp hdecode)), hvars⟩
    · rintro ⟨vars, hsettles, h⟩
      cases hsettles with
      | present htext =>
        cases htext with
        | mk hdecode => exact bind_eq_ok_iff.mpr ⟨_, mapError_eq_ok_iff.mpr hdecode, h⟩

/-- The file can be read as text, or there is none. -/
def Decodes (file : Option (List UInt8)) : Prop := ∀ bytes ∈ file, ∃ text, decode bytes = .ok text

theorem exists_settles_iff : (∃ vars, Settles environment file vars) ↔ Decodes file := by
  constructor
  · rintro ⟨vars, hsettles⟩ bytes hbytes
    cases hsettles with
    | absent => cases hbytes
    | present htext =>
      cases htext with
      | mk hdecode =>
        cases hbytes
        exact ⟨_, hdecode⟩
  · intro h
    cases file with
    | none => exact ⟨[], .absent⟩
    | some bytes =>
      obtain ⟨text, hdecode⟩ := h bytes rfl
      exact ⟨_, .present (.mk hdecode)⟩

end Settings

end LayoutQuery

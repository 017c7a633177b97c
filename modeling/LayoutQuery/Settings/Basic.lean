import LayoutQuery.Settings.Dotenv
import LayoutQuery.Settings.Limit
import LayoutQuery.Text.Case
import LayoutQuery.Text.Lines
import LayoutQuery.Text.Utf8

/-! # Settings
What a user can set once for all commands. Each setting is taken from its variable in the
environment, else from the file of variables, else it has its default. Variables are named in any
letter case. -/
namespace LayoutQuery

structure Settings where
  appName : String := "sublevel-query"
  logLevel : String := "WARNING"
  layoutsDir : String := "layouts"
  layoutGlob : String := "*.json"
  searchLimit : Option Nat := none
  deriving DecidableEq, Repr

inductive SettingsFault where
  | undecodable (fault : Text.Utf8Fault)
  | searchLimit (fault : LimitFault)
  deriving DecidableEq, Repr

def SettingsFault.message : SettingsFault → String
  | .undecodable fault => fault.message
  | .searchLimit fault => fault.message

namespace Settings

def variableOf (setting : String) : String := "sublevel_query_" ++ setting

/-- Variables under their names in lower case. Of names that differ in case the last counts. -/
def lowered {α : Type} (named : Fields α) : Fields α :=
  Fields.ofList (named.map fun v => (Text.lower v.1, v.2))

/-- The text given for a setting. A variable without a value in the file gives none. -/
def given (environment : Fields String) (file : Fields (Option String)) (setting : String) :
    Option String :=
  match (lowered environment).get? (variableOf setting) with
  | some value => some value
  | none => ((lowered file).get? (variableOf setting)).join

def ofVariables (environment : Fields String) (file : Fields (Option String)) :
    Except SettingsFault Settings := do
  let text (setting default : String) := (given environment file setting).getD default
  let limit ←
    match given environment file "search_limit" with
    | none => .ok none
    | some value => ((Limit.ofString value).map some).mapError .searchLimit
  let base : Settings := {}
  .ok {
    appName := text "app_name" base.appName
    logLevel := text "log_level" base.logLevel
    layoutsDir := text "layouts_dir" base.layoutsDir
    layoutGlob := text "layout_glob" base.layoutGlob
    searchLimit := limit }

/-- The settings from an environment and the content of the file of variables, if there is one. -/
def load (environment : Fields String) (file : Option (List UInt8)) :
    Except SettingsFault Settings := do
  match file with
  | none => ofVariables environment []
  | some bytes => do
    let text ← (Text.decode bytes).mapError .undecodable
    ofVariables environment (Dotenv.settled environment (Text.unifyNewlines text))

end Settings

end LayoutQuery

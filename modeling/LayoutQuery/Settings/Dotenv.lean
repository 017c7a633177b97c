import LayoutQuery.Fields
import LayoutQuery.Text.Blank
import LayoutQuery.Text.Word

/-! # Files of variables
A file of variables has one assignment a line: a name, which may be quoted and follow the word
`export`, and a value, which may be quoted or left out. A number sign starts a comment. A line that
has another form is passed over. Values may refer to variables by a dollar sign and the name in
braces, with a default behind a colon and a hyphen. -/
namespace LayoutQuery.Dotenv

def isLineEnd (c : Char) : Bool := c == '\n' || c == '\r'

def isLineBlank (c : Char) : Bool := Text.isBlank c && !isLineEnd c

def skipLineBlanks (cs : List Char) : List Char := cs.dropWhile isLineBlank

def skipLine (cs : List Char) : List Char := cs.dropWhile fun c => !isLineEnd c

/-- What was read, and the rest of the text; or the part of the text that has the wrong form. -/
abbrev Reading (α : Type) := Except (List Char) (α × List Char)

/-- Drops the word `export`, which must be followed by a blank. -/
def skipExport (cs : List Char) : List Char :=
  match Text.after? "export".toList cs with
  | some rest => if rest.head?.any isLineBlank then skipLineBlanks rest else cs
  | none => cs

/-- The name of an assignment. A line that is all comment has none. -/
def readName (cs : List Char) : Reading (Option (List Char)) :=
  match cs with
  | '#' :: _ => .ok (none, cs)
  | '\'' :: more =>
    match more.takeWhile (· != '\''), more.dropWhile (· != '\'') with
    | c :: name, _ :: rest => .ok (some (c :: name), rest)
    | _, _ => .error cs
  | _ =>
    let inName (c : Char) : Bool := !(c == '=' || c == '#' || Text.isBlank c)
    match cs.takeWhile inName with
    | [] => .error cs
    | name => .ok (some name, cs.dropWhile inName)

/-- Text up to the quote that ends it, from behind the opening quote on. A backslash and the
character behind it belong together, so a quote in that place ends nothing. -/
def readQuoted (mark : Char) : List Char → Option (List Char × List Char)
  | [] => none
  | '\\' :: c :: cs => (readQuoted mark cs).map fun r => ('\\' :: c :: r.1, r.2)
  | c :: cs =>
    if c = mark then some ([], cs)
    else if c = '\\' then none
    else (readQuoted mark cs).map fun r => (c :: r.1, r.2)

def singleEscapes : List (Char × Char) := [('\\', '\\'), ('\'', '\'')]

def doubleEscapes : List (Char × Char) := [
  ('\\', '\\'), ('\'', '\''), ('"', '"'), ('a', '\x07'), ('b', '\x08'), ('f', '\x0c'),
  ('n', '\n'), ('r', '\r'), ('t', '\t'), ('v', '\x0b')]

def unescape (table : List (Char × Char)) : List Char → List Char
  | '\\' :: c :: cs =>
    match table.lookup c with
    | some d => d :: unescape table cs
    | none => '\\' :: unescape table (c :: cs)
  | c :: cs => c :: unescape table cs
  | [] => []

/-- Cuts off a comment, which starts with a number sign behind a blank. -/
def cutComment : List Char → List Char
  | [] => []
  | c :: cs =>
    if Text.isBlank c && (cs.dropWhile Text.isBlank).head? = some '#' then []
    else c :: cutComment cs

def readValue (cs : List Char) : Reading (List Char) :=
  match skipLineBlanks cs with
  | '\'' :: more =>
    match readQuoted '\'' more with
    | some (s, rest) => .ok (unescape singleEscapes s, rest)
    | none => .error (skipLineBlanks cs)
  | '"' :: more =>
    match readQuoted '"' more with
    | some (s, rest) => .ok (unescape doubleEscapes s, rest)
    | none => .error (skipLineBlanks cs)
  | _ =>
    let line := cs.takeWhile fun c => !isLineEnd c
    .ok (Text.trimBoth Text.isBlank (cutComment line), skipLine cs)

def readLineEnd (cs : List Char) : Reading Unit :=
  let rest :=
    match skipLineBlanks cs with
    | '#' :: more => skipLine more
    | _ => cs
  match skipLineBlanks rest with
  | [] => .ok ((), [])
  | '\r' :: '\n' :: rest => .ok ((), rest)
  | c :: more => if isLineEnd c then .ok ((), more) else .error rest

def readAssignment (cs : List Char) :
    Except (List Char) (Option (String × Option String) × List Char) := do
  let (name, rest) ← readName (skipExport cs)
  let rest := skipLineBlanks rest
  let (value, rest) ←
    match rest with
    | '=' :: more => do
      let (value, rest) ← readValue more
      .ok (some (String.ofList value), rest)
    | _ => .ok (none, rest)
  let ((), rest) ← readLineEnd rest
  .ok (name.map fun name => (String.ofList name, value), rest)

/-- The assignments of a text in order. Each takes at least one character, so `fuel` need only
reach the number of characters. -/
def readAssignments : Nat → List Char → List (String × Option String)
  | 0, _ => []
  | fuel + 1, cs =>
    match cs.dropWhile Text.isBlank with
    | [] => []
    | first =>
      match readAssignment first with
      | .ok (found, rest) => found.toList ++ readAssignments fuel rest
      | .error wrong => readAssignments fuel ((skipLine wrong).drop 1)

/-- A reference to a variable; `width` counts the characters from behind its brace on. -/
structure Reference where
  name : List Char
  default : List Char
  width : Nat

def readReference (cs : List Char) : Option Reference :=
  let name := cs.takeWhile fun c => c != '}' && c != ':'
  match cs.drop name.length with
  | '}' :: _ => some ⟨name, [], name.length + 1⟩
  | ':' :: '-' :: more =>
    let default := more.takeWhile (· != '}')
    if default.length < more.length then some ⟨name, default, name.length + default.length + 3⟩
    else none
  | _ => none

def expand (value? : String → Option String) : List Char → List Char
  | [] => []
  | '$' :: '{' :: cs =>
    match readReference cs with
    | some r =>
      (value? (String.ofList r.name)).elim r.default String.toList ++
        expand value? (cs.drop r.width)
    | none => '$' :: '{' :: expand value? cs
  | c :: cs => c :: expand value? cs
termination_by cs => cs.length

/-- The value that a reference sees: that of an earlier assignment, empty if it left the value out,
and else that of the environment. -/
def visible (environment : Fields String) (earlier : Fields (Option String)) (name : String) :
    Option String :=
  match earlier.get? name with
  | some value => some (value.getD "")
  | none => environment.get? name

def withoutMark : List Char → List Char
  | '\uFEFF' :: cs => cs
  | cs => cs

/-- The variables that a text settles, their references replaced. -/
def settled (environment : Fields String) (text : List Char) : Fields (Option String) :=
  (readAssignments (text.length + 1) (withoutMark text)).foldl
    (fun done a =>
      let value := a.2.map fun v => String.ofList (expand (visible environment done) v.toList)
      Fields.put a.1 value done)
    []

end LayoutQuery.Dotenv

import LayoutQuery.Json.Display

/-! # Writing JSON
The shortest spelling of a value: no blanks, and in strings only the quote, the backslash and the
control characters are escaped. -/
namespace LayoutQuery.Json

def writeChar (c : Char) : List Char :=
  if c = '"' then ['\\', '"']
  else if c = '\\' then ['\\', '\\']
  else if c.toNat < 0x20 then '\\' :: 'u' :: Text.hex 4 c.toNat
  else [c]

def writeString (cs : List Char) : List Char := '"' :: (cs.flatMap writeChar ++ ['"'])

def writeNumber : Number.Binary → List Char
  | .nan => "NaN".toList
  | .infinite negative => (if negative then "-Infinity" else "Infinity").toList
  | x => x.display.toList

mutual

def write : Json → List Char
  | .null => "null".toList
  | .bool b => (if b then "true" else "false").toList
  | .integer n => (Text.integer n).toList
  | .number x => writeNumber x
  | .string s => writeString s.toList
  | .array items => '[' :: (writeItems items ++ [']'])
  | .object members => '{' :: (writeMembers members ++ ['}'])

def writeItems : List Json → List Char
  | [] => []
  | [v] => v.write
  | v :: rest => v.write ++ ',' :: writeItems rest

def writeMembers : List (String × Json) → List Char
  | [] => []
  | [(name, v)] => writeString name.toList ++ ':' :: v.write
  | (name, v) :: rest => writeString name.toList ++ ':' :: (v.write ++ ',' :: writeMembers rest)

end

end LayoutQuery.Json

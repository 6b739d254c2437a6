import Reshape.Text.Hex

/-!
# Documents in JSON

A document keeps the order of its fields and is written without blanks.  Only quotes, backslashes
and the controls below the space are escaped.
-/

namespace Reshape
namespace Text

/-- A document. -/
inductive Json where
  /-- The empty document. -/
  | null
  /-- A truth value. -/
  | bool (b : Bool)
  /-- An integer. -/
  | number (n : Int)
  /-- A text. -/
  | text (s : String)
  /-- A list. -/
  | array (items : List Json)
  /-- Named parts, in order. -/
  | object (fields : List (String × Json))
deriving Inhabited

namespace Json

/-- The text that stands for one character of a JSON text. -/
def escaped (c : Char) : String :=
  if c = '"' then "\\\""
  else if c = '\\' then "\\\\"
  else if c = '\x08' then "\\b"
  else if c = '\x0c' then "\\f"
  else if c = '\n' then "\\n"
  else if c = '\r' then "\\r"
  else if c = '\t' then "\\t"
  else if c.toNat < 32 then "\\u" ++ paddedHex 4 c.toNat
  else c.toString

/-- A JSON text with its quotes. -/
def string (s : String) : String :=
  "\"" ++ String.join (s.toList.map escaped) ++ "\""

mutual

/-- A document as it is written. -/
def compact : Json → String
  | null => "null"
  | bool b => if b then "true" else "false"
  | number n =>
    if n < 0 then "-" ++ String.ofList (Nat.toDigits 10 n.natAbs)
    else String.ofList (Nat.toDigits 10 n.natAbs)
  | text s => string s
  | array items => "[" ++ ",".intercalate (compactItems items) ++ "]"
  | object fields => "\x7b" ++ ",".intercalate (compactFields fields) ++ "\x7d"

/-- The items of a list, each as it is written. -/
def compactItems : List Json → List String
  | [] => []
  | j :: rest => compact j :: compactItems rest

/-- The fields of an object, each as it is written. -/
def compactFields : List (String × Json) → List String
  | [] => []
  | (name, j) :: rest => (string name ++ ":" ++ compact j) :: compactFields rest

end

end Json
end Text
end Reshape

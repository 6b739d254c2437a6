import Reshape.Text.ClusterTable
import Reshape.Text.Hex
import Reshape.Text.Unprintable

/-!
# Quoted text

Text in renderings stands between quotes, so that a reader sees where it begins and ends.  Quotes
and backslashes are escaped, the common controls have short forms, and whatever has no glyph of its
own or would merge with an opening quote is written by its number; the rest stands raw.
-/

namespace Reshape
namespace Text

/-- Whether a character would merge with what stands before it.  The halfwidth voicing marks extend a
kana, but they have a width and a glyph of their own. -/
def merges (c : Char) : Bool :=
  extending.contains c && c != '\uff9e' && c != '\uff9f'

/-- The text that stands for one character between quotes. -/
def escaped (c : Char) : String :=
  if c = '\x00' then "\\0"
  else if c = '\t' then "\\t"
  else if c = '\r' then "\\r"
  else if c = '\n' then "\\n"
  else if c = '\\' then "\\\\"
  else if c = '"' then "\\\""
  else if ' ' ≤ c ∧ c ≤ '~' then c.toString
  else if merges c || unprintable.contains c then "\\u\x7b" ++ hexDigits c.toNat ++ "\x7d"
  else c.toString

/-- A text between quotes. -/
def quoted (s : String) : String :=
  "\"" ++ String.join (s.toList.map escaped) ++ "\""

end Text
end Reshape

import Reshape.Text.CaseTable

/-!
# Upper and lower case

Case conversion of whole texts.  One code point may become several, and a sigma at the end of a word
has a lower-case form of its own.
-/

namespace Reshape
namespace Text

/-- The image of a code point under a list of runs, or the code point itself. -/
def CaseRun.map (runs : List CaseRun) (c : Char) : Char :=
  match runs.find? fun r =>
      r.first ≤ c.toNat && c.toNat ≤ r.last && (c.toNat - r.first) % r.stride == 0 with
  | some r => Char.ofNat (c.toNat + r.shift).toNat
  | none => c

/-- The image of a code point under a case mapping, which may be several code points long. -/
def caseImage (specials : List (Nat × List Nat)) (runs : List CaseRun) (c : Char) : List Char :=
  match specials.find? (·.1 == c.toNat) with
  | some (_, image) => image.map Char.ofNat
  | none => [CaseRun.map runs c]

/-- The upper case of a text. -/
def upper (cs : List Char) : List Char :=
  cs.flatMap (caseImage upperSpecials upperRuns)

/-- Whether the first code point that matters for case has case. -/
def meetsCased (cs : List Char) : Bool :=
  match cs.dropWhile caseIgnorable.contains with
  | c :: _ => cased.contains c
  | [] => false

/-- The lower case of a text whose reversed left context is `before`. -/
def lowerAfter : List Char → List Char → List Char
  | _, [] => []
  | before, c :: rest =>
    let image :=
      if c = 'Σ' then if meetsCased before && !meetsCased rest then ['ς'] else ['σ']
      else caseImage lowerSpecials lowerRuns c
    image ++ lowerAfter (c :: before) rest

/-- The lower case of a text. -/
def lower (cs : List Char) : List Char :=
  lowerAfter [] cs

end Text
end Reshape
